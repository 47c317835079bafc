import H2Fleet.Commerce.Trading
import H2Fleet.Infra.StationQueue

/-!
# The inventory of the stations

Two services take from `available_kg` and `available_kwh` of `infra.stations`.

**Completing a queue entry** (`CompleteStationQueueEntry` of `infra-api`): the entry is updated and
the inventory read in one statement, a station that dispenses kWh is read once more, and the amount
is compared with what was read, give or take `1e-9`.  The UPDATE that follows subtracts the amount
from whatever the column holds by then: the read locks nothing.

**Trades** (`drawDownSurplus` and `restoreSurplus` of `commerce-api`): the stations with a surplus
are locked one after another in the order of their ids, and what is found under the lock is shared
out; a trade whose settlement fails gives back what it took, one UPDATE for each station.

An UPDATE and the COMMIT after it are one step: the row is locked between the two, and a reader in
between sees the old row.  A statement that meets a row locked by another transaction waits.
-/

namespace H2Fleet.Infra

open Commerce (Column StationDraw takeGreedily tolerance)

/-! ## Rows -/

/-- A row of `infra.stations`.  `lockedBy` holds the row lock. -/
structure StationRow where
  id : String
  stationType : String
  availableKg : Option ℚ
  availableKwh : Option ℚ
  lockedBy : Option ℕ
  deriving DecidableEq

namespace StationRow

def column (st : StationRow) : Column → Option ℚ
  | .availableKg => st.availableKg
  | .availableKwh => st.availableKwh

/-- `SET c = c + x`; null stays null. -/
def add (c : Column) (x : ℚ) (st : StationRow) : StationRow :=
  match c with
  | .availableKg => { st with availableKg := st.availableKg.map (· + x) }
  | .availableKwh => { st with availableKwh := st.availableKwh.map (· + x) }

/-- `COALESCE(c, 0)`. -/
def available (st : StationRow) (c : Column) : ℚ := (st.column c).getD 0

@[simp] lemma add_id (c : Column) (x : ℚ) (st : StationRow) : (st.add c x).id = st.id := by
  cases c <;> rfl

lemma column_add_self (c : Column) (x : ℚ) (st : StationRow) :
    (st.add c x).column c = (st.column c).map (· + x) := by
  cases c <;> rfl

lemma column_add_other {c c' : Column} (h : c' ≠ c) (x : ℚ) (st : StationRow) :
    (st.add c x).column c' = st.column c' := by
  cases c <;> cases c' <;> first | rfl | exact absurd rfl h

end StationRow

def columnName : Column → String
  | .availableKg => "available_kg"
  | .availableKwh => "available_kwh"

/-- `inventoryColumn`: the column of a station type, and its unit. -/
def inventoryColumn (stationType : String) : Column × String :=
  if stationType = "ev_charger" then (.availableKwh, "kwh")
  else if stationType = "diesel" then (.availableKg, "liters")
  else if stationType = "cng" then (.availableKg, "kg")
  else (.availableKg, "kg")

/-- A row of `infra.station_queue`; `locked` while a completion is open. -/
structure ServedEntry where
  station : String
  status : EntryStatus
  locked : Bool

/-! ## Calls -/

inductive InventoryCall where
  /-- `CompleteStationQueueEntry`: the transaction has begun. -/
  | completing (entry : ℕ) (station : String) (amount : Option ℚ)
  /-- The first statement has its snapshot of the station and waits for the entry. -/
  | updating (entry : ℕ) (amount : Option ℚ) (st : StationRow)
  /-- The entry is updated, and the station dispenses kWh. -/
  | reading (entry : ℕ) (station : String) (amount : ℚ)
  /-- What was read covers the amount. -/
  | covered (entry : ℕ) (station : String) (c : Column) (amount : ℚ)
  /-- What was read does not. -/
  | refusing (entry : ℕ) (r : Reply)
  /-- Nothing is dispensed. -/
  | finishing (entry : ℕ)
  /-- `drawDownSurplus`: the transaction has begun. -/
  | drawing (c : Column) (amount : ℚ)
  /-- The stations still to be locked, and what the others offered. -/
  | locking (c : Column) (amount : ℚ) (rest : List String) (offers : List StationDraw)
  /-- The trade is being settled. -/
  | drawn (c : Column) (draws : List StationDraw)
  /-- `restoreSurplus`. -/
  | restoring (c : Column) (rest : List StationDraw)
  | done (r : Reply)
  deriving DecidableEq

structure Inventory where
  stations : List StationRow
  entries : List ServedEntry
  calls : List InventoryCall

/-- `UPDATE infra.stations SET c = c + x WHERE id = $1`. -/
def addTo (c : Column) (id : String) (x : ℚ) (rows : List StationRow) : List StationRow :=
  rows.map fun st => if st.id = id then st.add c x else st

def takeDraws (c : Column) : List StationDraw → List StationRow → List StationRow
  | [], rows => rows
  | d :: draws, rows => takeDraws c draws (addTo c d.id (-d.amount) rows)

def lockRow (i : ℕ) (id : String) (rows : List StationRow) : List StationRow :=
  rows.map fun st => if st.id = id then { st with lockedBy := some i } else st

def unlockRows (i : ℕ) (rows : List StationRow) : List StationRow :=
  rows.map fun st => if st.lockedBy = some i then { st with lockedBy := none } else st

def Blocked (rows : List StationRow) (id : String) : Prop :=
  ∃ st ∈ rows, st.id = id ∧ st.lockedBy ≠ none
  deriving Decidable

def compareAvailable (entry : ℕ) (station : String) (c : Column) (amount available : ℚ) :
    InventoryCall :=
  if available + tolerance < amount then
    .refusing entry ⟨409, "insufficient_inventory",
      "dispensed amount exceeds the station's recorded " ++ columnName c⟩
  else .covered entry station c amount

/-- The completion behind its first statement, which read the row `st`. -/
def afterUpdate (entry : ℕ) (amount : Option ℚ) (st : StationRow) : InventoryCall :=
  match amount with
  | none => .finishing entry
  | some x =>
    if x ≤ 0 then .finishing entry
    else
      match (inventoryColumn st.stationType).1 with
      | .availableKwh => .reading entry st.id x
      | .availableKg => compareAvailable entry st.id .availableKg x (st.available .availableKg)

/-- What a locked station offers: its row is checked again under the lock. -/
def offer (c : Column) (st : StationRow) : List StationDraw :=
  match st.column c with
  | some x => if 0 < x then [⟨st.id, x⟩] else []
  | none => []

namespace Inventory

open List

variable (s : Inventory)

def row (id : String) : Option StationRow := s.stations.find? fun st => st.id = id

def setCall (i : ℕ) (c : InventoryCall) : Inventory :=
  { s with calls := s.calls.set i c }

def setEntry (id : ℕ) (f : ServedEntry → ServedEntry) : Inventory :=
  { s with entries := s.entries.modify id f }

def complete (entry : ℕ) : Inventory :=
  s.setEntry entry fun e => { e with status := .completed, locked := false }

def rollback (entry : ℕ) : Inventory :=
  s.setEntry entry fun e => { e with locked := false }

/-- The next statement of the call at `i`; `none` if it has to wait. -/
def statement (i : ℕ) : InventoryCall → Option Inventory
  | .completing entry station amount =>
    match s.row station with
    | none => some (s.setCall i (.done StationQueue.notServing))
    | some st => some (s.setCall i (.updating entry amount st))
  | .updating entry amount st =>
    match s.entries[entry]? with
    | none => some (s.setCall i (.done StationQueue.notServing))
    | some e =>
      if e.station ≠ st.id ∨ e.status ≠ .serving then
        some (s.setCall i (.done StationQueue.notServing))
      else if e.locked then none
      else
        some ((s.setEntry entry fun e => { e with locked := true }).setCall i
          (afterUpdate entry amount st))
  | .reading entry station amount =>
    (s.row station).map fun st =>
      s.setCall i (compareAvailable entry station .availableKwh amount (st.available .availableKwh))
  | .covered entry station c amount =>
    if Blocked s.stations station then none
    else
      some (({ s with stations := addTo c station (-amount) s.stations }.complete entry).setCall i
        (.done .ok))
  | .refusing entry r => some ((s.rollback entry).setCall i (.done r))
  | .finishing entry => some ((s.complete entry).setCall i (.done .ok))
  | .drawing c amount =>
    some (s.setCall i
      (.locking c amount ((s.stations.filter fun st => 0 < st.available c).map StationRow.id) []))
  | .locking c amount (id :: rest) offers =>
    if Blocked s.stations id then none
    else (s.row id).map fun st =>
      { s with stations := lockRow i id s.stations }.setCall i
        (.locking c amount rest (offers ++ offer c st))
  | .locking c amount [] offers =>
    if (offers.map StationDraw.amount).sum + tolerance < amount then
      some ({ s with stations := unlockRows i s.stations }.setCall i
        (.done (.conflict "insufficient_surplus")))
    else
      let draws := takeGreedily offers amount
      some ({ s with stations := unlockRows i (takeDraws c draws s.stations) }.setCall i
        (.drawn c draws))
  | .restoring c (d :: rest) =>
    if Blocked s.stations d.id then none
    else
      some ({ s with stations := addTo c d.id d.amount s.stations }.setCall i (.restoring c rest))
  | .restoring _ [] => none
  | .drawn _ _ => none
  | .done _ => none

/-- The body of a completion has two names for its amount. -/
inductive Request where
  | complete (station : String) (entry : ℕ) (dispensedKg dispensedAmount : Option ℚ)
  | drawDown (c : Column) (amount : ℚ)

def Request.call : Request → InventoryCall
  | .complete station entry dispensedKg dispensedAmount =>
    let amount := dispensedAmount.or dispensedKg
    if amount.any (· < 0) then .done (.badRequest "dispensed amount must not be negative")
    else .completing entry station amount
  | .drawDown c amount => .drawing c amount

/-- `settlementFails`: the ledger refuses, and the draws are given back. -/
inductive Event where
  | start (r : Request)
  | statement (i : ℕ)
  | settlementFails (i : ℕ)

def step : Event → Option Inventory
  | .start r => some { s with calls := s.calls ++ [r.call] }
  | .statement i => (s.calls[i]?).bind (s.statement i)
  | .settlementFails i =>
    (s.calls[i]?).bind fun call =>
      match call with
      | .drawn c draws => some (s.setCall i (.restoring c draws))
      | _ => none

end Inventory

/-! ## Columns that are not negative -/

def NonNegative (rows : List StationRow) : Prop := ∀ st ∈ rows, ∀ c, ∀ x ∈ st.column c, 0 ≤ x

variable {rows : List StationRow}

lemma NonNegative.map (h : NonNegative rows) {f : StationRow → StationRow}
    (hf : ∀ st ∈ rows, ∀ c, ∀ x ∈ (f st).column c, x ∈ st.column c ∨ 0 ≤ x) :
    NonNegative (rows.map f) := by
  intro st' hst' c x hx
  obtain ⟨st, hst, rfl⟩ := List.mem_map.mp hst'
  rcases hf st hst c x hx with hold | hnew
  · exact h st hst c x hold
  · exact hnew

def Holds (rows : List StationRow) (c : Column) (id : String) (x : ℚ) : Prop :=
  ∀ st ∈ rows, st.id = id → ∀ y ∈ st.column c, x ≤ y
  deriving Decidable

/-- **What an UPDATE may take.** -/
lemma nonNegative_addTo (h : NonNegative rows) (c : Column) (id : String) (x : ℚ) :
    NonNegative (addTo c id x rows) ↔ Holds rows c id (-x) := by
  constructor
  · intro hnew st hst hid y hy
    have hmem : st.add c x ∈ addTo c id x rows := by
      refine List.mem_map.mpr ⟨st, hst, ?_⟩
      rw [if_pos hid]
    have hsum : y + x ∈ (st.add c x).column c := by
      rw [StationRow.column_add_self, Option.mem_def.mp hy]
      rfl
    have hpos := hnew _ hmem c _ hsum
    linarith
  · intro hholds
    refine h.map fun st hst c' y hy => ?_
    split_ifs at hy with hid
    · by_cases hc : c' = c
      · subst hc
        rw [StationRow.column_add_self, Option.mem_def, Option.map_eq_some_iff] at hy
        obtain ⟨z, hz, rfl⟩ := hy
        have hle := hholds st hst hid z hz
        exact .inr (by linarith)
      · rw [StationRow.column_add_other hc] at hy
        exact .inl hy
    · exact .inl hy

variable {c : Column} {st : StationRow} {id : String}

variable {x : ℚ} {i : ℕ} {s s' : Inventory}

lemma mem_addTo (h : st ∈ rows) (hid : st.id ≠ id) : st ∈ addTo c id x rows := by
  refine List.mem_map.mpr ⟨st, h, ?_⟩
  rw [if_neg hid]

lemma Holds.addTo_other {id id' : String} {y : ℚ} (h : Holds rows c id y) (hne : id ≠ id') :
    Holds (addTo c id' x rows) c id y := by
  intro st' hst' hid
  obtain ⟨st, hst, rfl⟩ := List.mem_map.mp hst'
  split_ifs at hid ⊢ with hid'
  · rw [StationRow.add_id] at hid
    exact absurd (hid.symm.trans hid') hne
  · exact h st hst hid

lemma nonNegative_draws : ∀ {draws : List StationDraw} {rows : List StationRow},
    NonNegative rows → (draws.map StationDraw.id).Nodup →
    (∀ d ∈ draws, Holds rows c d.id d.amount) → NonNegative (takeDraws c draws rows)
  | [], _, h, _, _ => h
  | d :: draws, rows, h, hnodup, hholds => by
    rw [List.map_cons, List.nodup_cons] at hnodup
    have hfirst : NonNegative (addTo c d.id (-d.amount) rows) := by
      rw [nonNegative_addTo h, neg_neg]
      exact hholds d List.mem_cons_self
    rw [takeDraws]
    refine nonNegative_draws hfirst hnodup.2 fun d' hd' => ?_
    refine (hholds d' (List.mem_cons_of_mem _ hd')).addTo_other fun heq => hnodup.1 ?_
    rw [← heq]
    exact List.mem_map_of_mem hd'

lemma mem_draws {draws : List StationDraw} (h : st ∈ rows) (hne : ∀ d ∈ draws, st.id ≠ d.id) :
    st ∈ takeDraws c draws rows := by
  induction draws generalizing rows with
  | nil => exact h
  | cons d draws ih =>
    exact ih (mem_addTo h (hne d List.mem_cons_self)) fun d' hd' =>
      hne d' (List.mem_cons_of_mem _ hd')

lemma nonNegative_unlockRows (h : NonNegative rows) (i : ℕ) : NonNegative (unlockRows i rows) := by
  refine h.map fun st _ c x hx => .inl ?_
  split_ifs at hx <;> cases c <;> exact hx

lemma nonNegative_lockRow (h : NonNegative rows) (i : ℕ) (id : String) :
    NonNegative (lockRow i id rows) := by
  refine h.map fun st _ c x hx => .inl ?_
  split_ifs at hx <;> cases c <;> exact hx

/-! ## Ids -/

lemma ids_map {f : StationRow → StationRow} (hf : ∀ st, (f st).id = st.id)
    (rows : List StationRow) : (rows.map f).map StationRow.id = rows.map StationRow.id := by
  rw [List.map_map]
  exact List.map_congr_left fun st _ => hf st

lemma ids_addTo (c : Column) (id : String) (x : ℚ) (rows : List StationRow) :
    (addTo c id x rows).map StationRow.id = rows.map StationRow.id := by
  refine ids_map (fun st => ?_) rows
  split_ifs
  · exact StationRow.add_id c x st
  · rfl

lemma ids_unlockRows (i : ℕ) (rows : List StationRow) :
    (unlockRows i rows).map StationRow.id = rows.map StationRow.id :=
  ids_map (fun st => by split_ifs <;> rfl) rows

lemma ids_draws (c : Column) (draws : List StationDraw) (rows : List StationRow) :
    (takeDraws c draws rows).map StationRow.id = rows.map StationRow.id := by
  induction draws generalizing rows with
  | nil => rfl
  | cons d draws ih => rw [takeDraws, ih, ids_addTo]

/-! ## What is shared out -/

lemma takeGreedily_ids (offers : List StationDraw) (amount : ℚ) :
    ((takeGreedily offers amount).map StationDraw.id).Sublist (offers.map StationDraw.id) := by
  induction offers generalizing amount with
  | nil => exact List.Sublist.refl _
  | cons o offers ih =>
    simp only [takeGreedily]
    split_ifs
    · exact List.nil_sublist _
    · exact (ih _).cons_cons _
    · exact (ih _).cons_cons _

variable {offers : List StationDraw} {amount : ℚ}

lemma takeGreedily_le (hpos : ∀ o ∈ offers, 0 < o.amount) {d : StationDraw}
    (hd : d ∈ takeGreedily offers amount) :
    0 ≤ d.amount ∧ ∃ o ∈ offers, o.id = d.id ∧ d.amount ≤ o.amount := by
  induction offers generalizing amount with
  | nil => cases hd
  | cons o offers ih =>
    have htolerance : 0 < tolerance := by norm_num [tolerance]
    have ho := hpos o List.mem_cons_self
    have hrest : ∀ amount, d ∈ takeGreedily offers amount →
        0 ≤ d.amount ∧ ∃ o' ∈ o :: offers, o'.id = d.id ∧ d.amount ≤ o'.amount := by
      intro amount hd
      obtain ⟨hd0, o', ho', heq, hle⟩ := ih (fun o ho => hpos o (List.mem_cons_of_mem _ ho)) hd
      exact ⟨hd0, o', List.mem_cons_of_mem _ ho', heq, hle⟩
    simp only [takeGreedily] at hd
    split_ifs at hd with hdone hless
    · cases hd
    · rcases List.mem_cons.mp hd with rfl | hd
      · exact ⟨by linarith, o, List.mem_cons_self, rfl, hless.le⟩
      · exact hrest _ hd
    · rcases List.mem_cons.mp hd with rfl | hd
      · exact ⟨ho.le, o, List.mem_cons_self, rfl, le_rfl⟩
      · exact hrest _ hd

/-! ## Every state of a run -/

namespace Inventory

open List Option

/-- What a trade holds and may give back. -/
def held : InventoryCall → List StationDraw
  | .drawn _ draws => draws
  | .restoring _ draws => draws
  | _ => []

def OffersOk (rows : List StationRow) (i : ℕ) : InventoryCall → Prop
  | .locking c _ rest offers =>
    (offers.map StationDraw.id ++ rest).Nodup ∧ ∀ o ∈ offers, 0 < o.amount ∧
        ∃ st ∈ rows, st.id = o.id ∧ st.lockedBy = some i ∧ st.column c = some o.amount
  | _ => True

structure InventoryInv (s : Inventory) : Prop where
  unique : (s.stations.map StationRow.id).Nodup
  nonneg : NonNegative s.stations
  offers : ∀ i call, s.calls[i]? = some call → OffersOk s.stations i call
  held : ∀ call ∈ s.calls, ∀ d ∈ held call, 0 ≤ d.amount

/-- **The frame of a step of the call at `i`.**  Rows locked by others stay. -/
lemma InventoryInv.setCall (h : s.InventoryInv) {entries : List ServedEntry}
    {call' : InventoryCall} (hids : rows.map StationRow.id = s.stations.map StationRow.id)
    (hnonneg : NonNegative rows) (hrows : ∀ j ≠ i, ∀ st ∈ s.stations, st.lockedBy = some j →
    st ∈ rows)
    (hoffers : OffersOk rows i call') (hheld : ∀ d ∈ Inventory.held call', 0 ≤ d.amount) :
    InventoryInv ⟨rows, entries, s.calls.set i call'⟩ where
  unique := by
    rw [hids]
    exact h.unique
  nonneg := hnonneg
  offers := by
    intro j call hj
    rcases getElem?_set_cases hj with ⟨rfl, rfl⟩ | ⟨hne, hold⟩
    · exact hoffers
    · have hcall := h.offers j call hold
      cases call with
      | locking c amount rest offers =>
        refine ⟨hcall.1, fun o ho => ?_⟩
        obtain ⟨hpos, st, hst, hid, hlock, hcolumn⟩ := hcall.2 o ho
        exact ⟨hpos, st, hrows j hne st hst hlock, hid, hlock, hcolumn⟩
      | _ => trivial
  held := forall_mem_set h.held hheld

lemma row_eq_some (h : s.row id = some st) : st ∈ s.stations ∧ st.id = id := by
  refine ⟨mem_of_find?_eq_some h, ?_⟩
  simpa using find?_some h

lemma offersOk_afterUpdate (rows : List StationRow) (i entry : ℕ) (amount : Option ℚ)
    (st : StationRow) : OffersOk rows i (afterUpdate entry amount st) ∧
      held (afterUpdate entry amount st) = [] := by
  cases amount with
  | none => exact ⟨trivial, rfl⟩
  | some x =>
    simp only [afterUpdate]
    split_ifs
    · exact ⟨trivial, rfl⟩
    · split
      · exact ⟨trivial, rfl⟩
      · simp only [compareAvailable]
        split_ifs <;> exact ⟨trivial, rfl⟩

section Steps

variable {s : Inventory} {i : ℕ}

lemma InventoryInv.frame (h : s.InventoryInv) {entries : List ServedEntry} {call' : InventoryCall}
    (hoffers : OffersOk s.stations i call') (hheld : ∀ d ∈ Inventory.held call', 0 ≤ d.amount) :
    InventoryInv ⟨s.stations, entries, s.calls.set i call'⟩ :=
  h.setCall rfl h.nonneg (fun _ _ _ hst _ => hst) hoffers hheld

lemma InventoryInv.lock (h : s.InventoryInv) {rest : List String}
    (hcall : s.calls[i]? = some (.locking c amount (id :: rest) offers))
    (hfree : ¬ Blocked s.stations id) (hst : s.row id = some st) :
    InventoryInv ({ s with stations := lockRow i id s.stations }.setCall i
      (.locking c amount rest (offers ++ offer c st))) := by
  obtain ⟨hmem, hid⟩ := row_eq_some hst
  obtain ⟨hnodup, hoffers⟩ := h.offers i _ hcall
  have hkeep : ∀ x ∈ s.stations, x.lockedBy ≠ none → x ∈ lockRow i id s.stations := by
    intro x hx hlock
    refine mem_map.mpr ⟨x, hx, ?_⟩
    rw [if_neg fun hxid => hfree ⟨x, hx, hxid, hlock⟩]
  have hnew : ∀ o ∈ offer c st, o.id = id ∧ 0 < o.amount ∧ st.column c = some o.amount := by
    intro o ho
    simp only [offer] at ho
    split at ho
    · next x hx =>
        split_ifs at ho with hpos
        · obtain rfl := mem_singleton.mp ho
          exact ⟨hid, hpos, hx⟩
        · cases ho
    · cases ho
  refine h.setCall (ids_map (fun st => by split_ifs <;> rfl) _) (nonNegative_lockRow h.nonneg i id)
    ?_ ⟨?_, ?_⟩ (nofun)
  · intro j _ x hx hlock
    exact hkeep x hx (by simp [hlock])
  · -- the new offer, if there is one, has the id that was to be locked
    have hsub : ((offers ++ offer c st).map StationDraw.id ++ rest).Sublist
        (offers.map StationDraw.id ++ id :: rest) := by
      rw [map_append, append_assoc]
      refine (Sublist.refl _).append ?_
      have hone : ((offer c st).map StationDraw.id).Sublist [id] := by
        simp only [offer]
        split
        · split_ifs
          · simp [hid]
          · simp
        · simp
      exact hone.append (Sublist.refl rest)
    exact hnodup.sublist hsub
  · intro o ho
    rcases mem_append.mp ho with hold | ho
    · obtain ⟨hpos, x, hx, hxid, hlock, hcolumn⟩ := hoffers o hold
      exact ⟨hpos, x, hkeep x hx (by simp [hlock]), hxid, hlock, hcolumn⟩
    · obtain ⟨hoid, hpos, hcolumn⟩ := hnew o ho
      refine ⟨hpos, { st with lockedBy := some i }, mem_map.mpr ⟨st, hmem, ?_⟩, ?_, rfl, ?_⟩
      · rw [if_pos hid]
      · rw [hoid]
        exact hid
      · cases c <;> exact hcolumn

lemma mem_unlockRows (h : st ∈ rows) {j : ℕ} (hne : j ≠ i) (hlock : st.lockedBy = some j) :
    st ∈ unlockRows i rows := by
  refine mem_map.mpr ⟨st, h, ?_⟩
  rw [if_neg]
  rw [hlock, some.injEq]
  exact hne

lemma InventoryInv.draw (h : s.InventoryInv)
    (hcall : s.calls[i]? = some (.locking c amount [] offers)) : InventoryInv ({ s with
      stations := unlockRows i (takeDraws c (takeGreedily offers amount) s.stations) }.setCall i
        (.drawn c (takeGreedily offers amount))) := by
  obtain ⟨hnodup, hoffers⟩ := h.offers i _ hcall
  rw [append_nil] at hnodup
  have hpos : ∀ o ∈ offers, 0 < o.amount := fun o ho => (hoffers o ho).1
  -- every draw is from a row that this call has locked, and takes no more than it holds
  have hdraw : ∀ d ∈ takeGreedily offers amount, ∀ st ∈ s.stations, st.id = d.id →
      st.lockedBy = some i ∧ ∀ x ∈ st.column c, d.amount ≤ x := by
    intro d hd st hst hid
    obtain ⟨-, o, ho, hoid, hle⟩ := takeGreedily_le hpos hd
    obtain ⟨-, st', hst', hid', hlock, hcolumn⟩ := hoffers o ho
    obtain rfl := inj_on_of_nodup_map h.unique hst hst' (by rw [hid, hid', hoid])
    refine ⟨hlock, fun x hx => ?_⟩
    rw [hcolumn, mem_def, some.injEq] at hx
    exact hx ▸ hle
  refine h.setCall ?_ ?_ ?_ trivial fun d hd => (takeGreedily_le hpos hd).1
  · rw [ids_unlockRows, ids_draws]
  · refine nonNegative_unlockRows (nonNegative_draws h.nonneg ?_ ?_) i
    · exact hnodup.sublist (takeGreedily_ids offers amount)
    · exact fun d hd st hst hid => (hdraw d hd st hst hid).2
  · intro j hne st hst hlock
    refine mem_unlockRows (mem_draws hst fun d hd hid => ?_) hne hlock
    have hmine := (hdraw d hd st hst hid).1
    rw [hlock, some.injEq] at hmine
    exact hne hmine

end Steps

/-! ### The condition -/

/-- Nobody takes from the station between a completion's check and its UPDATE. -/
def CoversCall (s : Inventory) : InventoryCall → Prop
  | .covered _ station c amount => Holds s.stations c station amount
  | _ => True

instance (s : Inventory) (call : InventoryCall) : Decidable (s.CoversCall call) := by
  unfold CoversCall; split <;> infer_instance

def Covers (s : Inventory) : Event → Prop
  | .statement i => ∀ call ∈ s.calls[i]?, s.CoversCall call
  | _ => True

instance (s : Inventory) (e : Event) : Decidable (s.Covers e) := by
  unfold Covers; split <;> infer_instance

lemma InventoryInv.statement {call : InventoryCall} (hs : s.InventoryInv)
    (hcall : s.calls[i]? = some call) (hok : s.CoversCall call) (h : s.statement i call = some s') :
    s'.InventoryInv := by
  have hold := hs.held call (mem_of_getElem? hcall)
  cases call with
  | completing entry station amount =>
    simp only [Inventory.statement] at h
    split at h <;>
      · cases h
        exact hs.frame trivial (by simp [Inventory.held])
  | updating entry amount st =>
    simp only [Inventory.statement] at h
    split at h
    · cases h
      exact hs.frame trivial (by simp [Inventory.held])
    · split_ifs at h
      · cases h
        exact hs.frame trivial (by simp [Inventory.held])
      · cases h
        obtain ⟨hoffers, hheld⟩ := offersOk_afterUpdate s.stations i entry amount st
        exact hs.frame hoffers (by simp [hheld])
  | reading entry station amount =>
    obtain ⟨st, -, rfl⟩ := map_eq_some_iff.mp h
    simp only [compareAvailable]
    split_ifs <;> exact hs.frame trivial (by simp [Inventory.held])
  | covered entry station c amount =>
    simp only [Inventory.statement] at h
    split_ifs at h with hblocked
    cases h
    have hnonneg : NonNegative (addTo c station (-amount) s.stations) := by
      rw [nonNegative_addTo hs.nonneg, neg_neg]
      exact hok
    exact hs.setCall (ids_addTo c station _ _) hnonneg
      (fun j _ st hst hlock => (mem_addTo hst fun hid => hblocked ⟨st, hst, hid, by simp [hlock]⟩))
      trivial (by simp [Inventory.held])
  | refusing entry r | finishing entry =>
    cases h
    exact hs.frame trivial (by simp [Inventory.held])
  | drawing c amount =>
    cases h
    refine hs.frame ⟨?_, nofun⟩ (by simp [Inventory.held])
    exact hs.unique.sublist (filter_sublist.map _)
  | locking c amount rest offers =>
    cases rest with
    | cons id rest =>
      simp only [Inventory.statement] at h
      split_ifs at h with hblocked
      obtain ⟨st, hst, rfl⟩ := map_eq_some_iff.mp h
      exact hs.lock hcall hblocked hst
    | nil =>
      simp only [Inventory.statement] at h
      split_ifs at h
      · cases h
        refine hs.setCall (ids_unlockRows i _) (nonNegative_unlockRows hs.nonneg i) ?_ trivial
          (by simp [Inventory.held])
        exact fun j hne st hst hlock => mem_unlockRows hst hne hlock
      · cases h
        exact hs.draw hcall
  | restoring c rest =>
    cases rest with
    | cons d rest =>
      simp only [Inventory.statement] at h
      split_ifs at h with hblocked
      cases h
      have hd : 0 ≤ d.amount := hold d mem_cons_self
      refine hs.setCall (ids_addTo c d.id _ _) ?_ ?_ trivial
        (fun d' hd' => hold d' (mem_cons_of_mem _ hd'))
      · rw [nonNegative_addTo hs.nonneg]
        intro st hst _ x hx
        have hx0 := hs.nonneg st hst c x hx
        linarith
      · exact fun j _ st hst hlock => mem_addTo hst fun hid =>
          hblocked ⟨st, hst, hid, by simp [hlock]⟩
    | nil => cases h
  | drawn c draws | done r => cases h

lemma InventoryInv.step {e : Event} (hs : s.InventoryInv) (hok : s.Covers e)
    (h : s.step e = some s') : s'.InventoryInv := by
  cases e with
  | start r =>
    cases h
    have hcall : ∀ rows j, OffersOk rows j r.call ∧ Inventory.held r.call = [] := by
      intro rows j
      cases r with
      | complete station entry kg amount =>
        simp only [Request.call]
        split_ifs <;> exact ⟨trivial, rfl⟩
      | drawDown c amount => exact ⟨trivial, rfl⟩
    exact ⟨hs.unique, hs.nonneg, forall_slot_concat hs.offers (hcall _ _).1,
      forall_mem_concat hs.held (by simp [(hcall [] 0).2])⟩
  | statement i =>
    obtain ⟨call, hcall, h⟩ := bind_eq_some_iff.mp h
    exact hs.statement hcall (hok call hcall) h
  | settlementFails i =>
    obtain ⟨call, hcall, h⟩ := bind_eq_some_iff.mp h
    have hheld := hs.held call (mem_of_getElem? hcall)
    cases call with
    | drawn c draws =>
      cases h
      exact hs.frame trivial hheld
    | _ => cases h

lemma InventoryInv.overdrawn {e : Event} (hs : s.InventoryInv) (hok : ¬ s.Covers e)
    (h : s.step e = some s') : ¬ NonNegative s'.stations := by
  cases e with
  | start | settlementFails => exact absurd trivial hok
  | statement i =>
    simp only [Covers, not_forall] at hok
    obtain ⟨call, hcall, hnot⟩ := hok
    rw [mem_def] at hcall
    simp only [Inventory.step, hcall, bind_some] at h
    cases call with
    | covered entry station c amount =>
      simp only [Inventory.statement] at h
      split_ifs at h
      cases h
      have hiff := nonNegative_addTo hs.nonneg c station (-amount)
      rw [neg_neg] at hiff
      exact fun hnonneg => hnot (hiff.mp hnonneg)
    | _ => exact absurd trivial hnot

/-- **When the inventory is never overdrawn**: both columns of every station are non-negative
throughout, if and only if the UPDATE of every completion finds the amount it takes. -/
theorem inventory_nonnegative_iff {stations : List StationRow} {entries : List ServedEntry}
    (hunique : (stations.map StationRow.id).Nodup) (hstart : NonNegative stations)
    {events : List Event} {t : Inventory} (hrun : run step ⟨stations, entries, []⟩ events = some t)
    : Throughout step (fun s => NonNegative s.stations) ⟨stations, entries, []⟩ events ↔
      Meets step Covers ⟨stations, entries, []⟩ events := by
  have hinit : InventoryInv ⟨stations, entries, []⟩ :=
    ⟨hunique, hstart, fun _ _ hj => (by simp at hj), nofun⟩
  exact throughout_iff_meets_always (fun _ hs => hs.nonneg) InventoryInv.step InventoryInv.overdrawn
    hinit hrun

/-- A station with 10 kg and two entries at its dispensers. -/
def twoServed : Inventory where
  stations := [⟨"northgate", "h2", some 10, none, none⟩]
  entries := [⟨"northgate", .serving, false⟩, ⟨"northgate", .serving, false⟩]
  calls := []

/-- A trade of 3 kg fails while 4 kg are dispensed. -/
def tradeAndCompletion : List Event :=
  [.start (.drawDown .availableKg 3), .start (.complete "northgate" 0 (some 4) none), .statement 0,
    .statement 1, .statement 1, .statement 0, .statement 0, .statement 1, .settlementFails 0,
    .statement 0]

theorem tradeAndCompletion_nonnegative : (∃ s, run step twoServed tradeAndCompletion = some s ∧
        s.stations.map StationRow.availableKg = [some 6]) ∧
      Throughout step (fun s => NonNegative s.stations) twoServed tradeAndCompletion := by
  obtain ⟨s, hs, hkg⟩ : ∃ s, run step twoServed tradeAndCompletion = some s ∧
      s.stations.map StationRow.availableKg = [some 6] := by decide +kernel
  refine ⟨⟨s, hs, hkg⟩, (inventory_nonnegative_iff (by decide) ?_ hs).mpr (by decide +kernel)⟩
  intro st hst c x hx
  obtain rfl := mem_singleton.mp hst
  cases c <;> simp [StationRow.column] at hx
  subst hx
  norm_num

/-- Two completions of 6 kg each read 10 kg before either takes its own. -/
def twoCompletions : List Event :=
  [.start (.complete "northgate" 0 (some 6) none), .start (.complete "northgate" 1 (some 6) none),
    .statement 0, .statement 1, .statement 0, .statement 1, .statement 0, .statement 1]

/-- Both are answered with 200, and the station has −2 kg. -/
theorem two_completions_overdraw :
    ∃ s, run step twoServed twoCompletions = some s ∧ s.calls = [.done .ok, .done .ok] ∧
      s.stations.map StationRow.availableKg = [some (-2)] := by
  decide +kernel

end Inventory

end H2Fleet.Infra
