import H2Fleet.Commerce.Operations

/-!
# Energy trades

`CreateTrade` and `CancelTrade` over `commerce.trades`, the surplus columns of `infra.stations` and
the ledger.  A `CreateTrade` call is no transaction: it inserts its row as `proposed`, draws down
the surplus, calls the ledger, gives the surplus back if the ledger fails it, and writes the final
status, each on its own.  Calls interleave, and can crash between any two steps; a call that ends
with an internal error leaves the same rows.

Quantities are exact numbers: the columns are `numeric`, and what is given back is what was taken.
-/

namespace H2Fleet.Commerce

open List

/-! ## Surplus -/

/-- The surplus columns of `infra.stations`. -/
inductive Column where
  | availableKg
  | availableKwh
  deriving DecidableEq

/-- A row of `infra.stations`; a null surplus counts as 0. -/
@[ext] structure Station where
  id : String
  availableKg : ℚ
  availableKwh : ℚ
  deriving DecidableEq

def Station.surplus (c : Column) (st : Station) : ℚ :=
  match c with
  | .availableKg => st.availableKg
  | .availableKwh => st.availableKwh

def Station.add (c : Column) (x : ℚ) (st : Station) : Station :=
  match c with
  | .availableKg => { st with availableKg := st.availableKg + x }
  | .availableKwh => { st with availableKwh := st.availableKwh + x }

structure StationDraw where
  id : String
  amount : ℚ
  deriving DecidableEq

def tolerance : ℚ := 1 / 10 ^ 9

/-- `UPDATE infra.stations SET c = c + x WHERE id = $1`. -/
def adjust (c : Column) (id : String) (x : ℚ) (stations : List Station) : List Station :=
  stations.map fun st => if st.id = id then st.add c x else st

/-- The loop over the stations with what is still to be taken. -/
def takeGreedily : List StationDraw → ℚ → List StationDraw
  | [], _ => []
  | st :: rest, remaining =>
    if remaining ≤ tolerance then []
    else
      let take := if remaining < st.amount then remaining else st.amount
      ⟨st.id, take⟩ :: takeGreedily rest (remaining - take)

/-- `drawDownSurplus`, in the order of station ids; `none` is `errInsufficientSurplus`. -/
def drawDownSurplus (stations : List Station) (amount : ℚ) (c : Column) :
    Option (List StationDraw × List Station) :=
  let offers := (stations.filter fun st => 0 < st.surplus c).map fun st => ⟨st.id, st.surplus c⟩
  if (offers.map StationDraw.amount).sum + tolerance < amount then none
  else
    let draws := takeGreedily offers amount
    some (draws, draws.foldl (fun sts d => adjust c d.id (-d.amount) sts) stations)

@[simp] lemma Station.add_id (c : Column) (x : ℚ) (st : Station) : (st.add c x).id = st.id := by
  cases c <;> rfl

lemma Station.add_add (c : Column) (x y : ℚ) (st : Station) :
    (st.add c x).add c y = st.add c (x + y) := by
  cases c <;> simp [Station.add, add_assoc]

@[simp] lemma Station.add_zero (c : Column) (st : Station) : st.add c 0 = st := by
  cases c <;> simp [Station.add]

def drawnFrom (draws : List StationDraw) (id : String) : ℚ :=
  ((draws.filter fun d => d.id = id).map StationDraw.amount).sum

lemma foldl_adjust (c : Column) (sign : ℚ) (draws : List StationDraw) (stations : List Station) :
    draws.foldl (fun sts d => adjust c d.id (sign * d.amount) sts) stations =
      stations.map fun st => st.add c (sign * drawnFrom draws st.id) := by
  induction draws generalizing stations with
  | nil => simp [drawnFrom]
  | cons d ds ih =>
    rw [foldl_cons, ih, adjust, map_map]
    apply map_congr_left
    intro st _
    by_cases hid : st.id = d.id
    · simp [drawnFrom, hid, Station.add_add, mul_add]
    · simp [drawnFrom, hid, Ne.symm hid]

lemma drawDownSurplus_stations {stations stations' : List Station} {amount : ℚ} {c : Column}
    {draws : List StationDraw} (h : drawDownSurplus stations amount c = some (draws, stations')) :
    stations' = stations.map fun st => st.add c (-drawnFrom draws st.id) := by
  simp only [drawDownSurplus, Option.ite_none_left_eq_some, Option.some.injEq, Prod.mk.injEq] at h
  obtain ⟨-, rfl, rfl⟩ := h
  simpa using foldl_adjust c (-1) _ stations

/-! ## Draws and restores -/

lemma takeGreedily_spec : ∀ {offers : List StationDraw} {remaining : ℚ},
    (∀ o ∈ offers, 0 < o.amount) →
    0 ≤ remaining → remaining ≤ (offers.map StationDraw.amount).sum + tolerance →
    let draws := takeGreedily offers remaining
    (draws.map StationDraw.id).Sublist (offers.map StationDraw.id) ∧
      (∀ d ∈ draws, 0 ≤ d.amount ∧ ∃ o ∈ offers, o.id = d.id ∧ d.amount ≤ o.amount) ∧
      remaining - tolerance ≤ (draws.map StationDraw.amount).sum ∧
      (draws.map StationDraw.amount).sum ≤ remaining
  | [], remaining, _, h0, hle => by
    rw [map_nil, sum_nil, zero_add] at hle
    simpa [takeGreedily] using ⟨hle, h0⟩
  | o :: offers, remaining, hpos, h0, hle => by
    have htol : 0 < tolerance := by norm_num [tolerance]
    obtain ⟨ho, hpos⟩ := forall_mem_cons.mp hpos
    have hsum : 0 ≤ (offers.map StationDraw.amount).sum :=
      sum_nonneg (forall_mem_map.mpr fun o h => (hpos o h).le)
    rw [map_cons, sum_cons] at hle
    by_cases hdone : remaining ≤ tolerance
    · simpa [takeGreedily, hdone] using h0
    · rw [takeGreedily, if_neg hdone]
      set take := if remaining < o.amount then remaining else o.amount with htake
      obtain ⟨htake0, hoffer, hremaining, hrest⟩ : 0 ≤ take ∧ take ≤ o.amount ∧ take ≤ remaining ∧
          remaining - take ≤ (offers.map StationDraw.amount).sum + tolerance := by
        rw [htake]
        split_ifs <;> refine ⟨?_, ?_, ?_, ?_⟩ <;> linarith
      obtain ⟨hids, hdraws, hlow, hhigh⟩ := takeGreedily_spec hpos (sub_nonneg.mpr hremaining) hrest
      simp only [map_cons, sum_cons, forall_mem_cons]
      exact ⟨hids.cons_cons _,
        ⟨⟨htake0, o, mem_cons_self, rfl, hoffer⟩, fun d hd => (hdraws d hd).imp_right
        fun ⟨a, ha, h⟩ => ⟨a, mem_cons_of_mem _ ha, h⟩⟩, by linarith, by linarith⟩

/-- The stations, and of each draw what is still to be given back. -/
structure Surplus where
  stations : List Station
  taken : List (Column × List StationDraw)

inductive SurplusOp where
  | draw (amount : ℚ) (c : Column)
  | restore (i : ℕ)
  deriving DecidableEq

namespace Surplus

/-- A draw is one transaction, each UPDATE of a restore a statement. -/
def step (s : Surplus) : SurplusOp → Option Surplus
  | .draw amount c =>
    match drawDownSurplus s.stations amount c with
    | some (draws, stations) => some ⟨stations, s.taken ++ [(c, draws)]⟩
    | none => some s
  | .restore i =>
    match s.taken[i]? with
    | some (c, d :: rest) => some ⟨adjust c d.id d.amount s.stations, s.taken.set i (c, rest)⟩
    | _ => none

/-- What a station has not been given back. -/
def missing (s : Surplus) (c : Column) (id : String) : ℚ :=
  (s.taken.map fun t => if t.1 = c then drawnFrom t.2 id else 0).sum

def Accounts (stations : List Station) (s : Surplus) : Prop :=
  s.stations = stations.map fun st =>
    ⟨st.id, st.availableKg - s.missing .availableKg st.id,
      st.availableKwh - s.missing .availableKwh st.id⟩

lemma Accounts.step {stations : List Station} {s s' : Surplus} {op : SurplusOp}
    (h : s.Accounts stations) (hstep : s.step op = some s') : s'.Accounts stations := by
  cases op with
  | draw amount c =>
    simp only [Surplus.step] at hstep
    split at hstep <;> cases hstep
    · rename_i hdraw
      rw [Accounts, drawDownSurplus_stations hdraw, h, map_map]
      refine map_congr_left fun st _ => ?_
      cases c <;> simp [Station.add, missing] <;> ring
    · exact h
  | restore i =>
    simp only [Surplus.step] at hstep
    split at hstep <;> cases hstep
    rename_i c d rest hi
    rw [Accounts, h, adjust, map_map]
    refine map_congr_left fun st _ => ?_
    have hcons : drawnFrom (d :: rest) st.id = (if st.id = d.id then d.amount else 0) + drawnFrom
      rest st.id := by
      by_cases hid : st.id = d.id <;> simp [drawnFrom, hid, eq_comm]
    simp only [missing, sum_set _ hi, hcons]
    cases c <;> by_cases hid : st.id = d.id <;> simp [Station.add, hid] <;> ring

section Restore

variable {s s' : Surplus} {i : ℕ} {c : Column} {draws : List StationDraw}

/-- One step gives back one allocation of a draw, or none. -/
lemma taken_step {op : SurplusOp} (hi : s.taken[i]? = some (c, draws)) (h : s.step op = some s') :
    s'.taken[i]? = some (c, draws.drop (if op = .restore i then 1 else 0)) := by
  cases op with
  | draw amount c' =>
    simp only [step] at h
    split at h <;> cases h
    · simpa using getElem?_append_old hi
    · simpa using hi
  | restore j =>
    simp only [step] at h
    split at h <;> cases h
    rename_i c' d rest hj
    by_cases hij : j = i
    · subst hij
      cases hi.symm.trans hj
      simp [(List.getElem?_eq_some_iff.mp hj).1]
    · rw [if_neg (by simp [hij]), drop_zero]
      exact getElem?_set_other (Ne.symm hij) hi

/-- **A restore in any interleaving** gives back as many allocations as it has steps. -/
lemma taken_run {ops : List SurplusOp} (hi : s.taken[i]? = some (c, draws))
    (hrun : run step s ops = some s') :
    s'.taken[i]? = some (c, draws.drop (ops.count (.restore i))) := by
  induction ops generalizing s draws with
  | nil =>
    cases hrun
    simpa using hi
  | cons op ops ih =>
    obtain ⟨s₁, hstep, hrest⟩ := run_cons_eq_some.mp hrun
    rw [ih (taken_step hi hstep) hrest, drop_drop, count_cons, add_comm]
    simp only [beq_iff_eq]

/-- **A complete restore is possible** at any time, and gives back what was drawn. -/
lemma restore_complete (hi : s.taken[i]? = some (c, draws)) :
    ∃ s', run step s (replicate draws.length (.restore i)) = some s' ∧
      s'.stations = s.stations.map fun st => st.add c (drawnFrom draws st.id) := by
  have hfold : ∃ s', run step s (replicate draws.length (.restore i)) = some s' ∧
      s'.stations = draws.foldl (fun sts d => adjust c d.id (1 * d.amount) sts) s.stations := by
    induction draws generalizing s with
    | nil => exact ⟨s, rfl, rfl⟩
    | cons d rest ih =>
      have hstep : s.step (.restore i) = some ⟨adjust c d.id d.amount s.stations,
        s.taken.set i (c, rest)⟩ := by
        simp [step, hi]
      obtain ⟨s', hrun, hs'⟩ := @ih ⟨_, s.taken.set i (c, rest)⟩
        (getElem?_set_self (List.getElem?_eq_some_iff.mp hi).1)
      exact ⟨s', run_cons_eq_some.mpr ⟨_, hstep, hrun⟩, by rw [hs', foldl_cons, one_mul]⟩
  simp only [foldl_adjust] at hfold
  simpa only [one_mul] using hfold

/-- What has been given back completely is missing nowhere. -/
lemma Accounts.restored {stations : List Station} (h : s.Accounts stations)
    (hall : ∀ t ∈ s.taken, t.2 = []) : s.stations = stations := by
  have hmissing : ∀ c id, s.missing c id = 0 := fun c id =>
    sum_eq_zero (forall_mem_map.mpr fun t ht => by simp [hall t ht, drawnFrom])
  rw [h]
  simp [hmissing]

end Restore

/-- **Draws and their compensation are exact.**  A draw takes the amount, up to the tolerance, and
of no station more than it has; it can be restored completely at any time; in any interleaving it
is, after as many restores as it has allocations; and if all are, the stations are as before. -/
theorem surplus_exact {stations : List Station} (hids : (stations.map Station.id).Nodup)
    {amount : ℚ} (hpos : 0 < amount) (c : Column) :
    (drawDownSurplus stations amount c = none ∧
    step ⟨stations, []⟩ (.draw amount c) = some ⟨stations, []⟩ ∨
      ∃ draws, drawDownSurplus stations amount c =
          some (draws, stations.map fun st => st.add c (-drawnFrom draws st.id)) ∧
        (draws.map StationDraw.id).Nodup ∧
        (∀ d ∈ draws, 0 ≤ d.amount ∧ ∃ st ∈ stations, st.id = d.id ∧ d.amount ≤ st.surplus c) ∧
        amount - tolerance ≤ (draws.map StationDraw.amount).sum ∧
        (draws.map StationDraw.amount).sum ≤ amount) ∧
    ∀ ops s, run step ⟨stations, []⟩ ops = some s → s.Accounts stations ∧
      (∀ i c draws, s.taken[i]? = some (c, draws) →
        (∃ s', run step s (replicate draws.length (.restore i)) = some s' ∧
          s'.stations = s.stations.map fun st => st.add c (drawnFrom draws st.id)) ∧
        ∀ ops' s', run step s ops' = some s' → ops'.count (.restore i) = draws.length →
          s'.taken[i]? = some (c, [])) ∧
      ((∀ t ∈ s.taken, t.2 = []) → s.stations = stations) := by
  refine ⟨?_, fun ops s hrun => ?_⟩
  · cases hdraw : drawDownSurplus stations amount c with
    | none => exact .inl ⟨rfl, by simp [step, hdraw]⟩
    | some res =>
      obtain ⟨draws, after⟩ := res
      refine .inr ⟨draws, by rw [← drawDownSurplus_stations hdraw], ?_⟩
      simp only [drawDownSurplus, Option.ite_none_left_eq_some, Option.some.injEq, Prod.mk.injEq,
        not_lt] at hdraw
      obtain ⟨hcover, rfl, -⟩ := hdraw
      obtain ⟨hsub, hdraws, hlow, hhigh⟩ := takeGreedily_spec
        (forall_mem_map.mpr fun st hst => of_decide_eq_true (mem_filter.mp hst).2) hpos.le hcover
      refine ⟨hids.sublist (hsub.trans ?_), fun d hd => ?_, hlow, hhigh⟩
      · rw [map_map]
        exact filter_sublist.map _
      · obtain ⟨h0, o, ho, hid, hle⟩ := hdraws d hd
        obtain ⟨st, hst, rfl⟩ := mem_map.mp ho
        exact ⟨h0, st, mem_of_mem_filter hst, hid, hle⟩
  · have hstart : Accounts stations ⟨stations, []⟩ := by simp [Accounts, missing]
    have hacc : s.Accounts stations :=
      run_invariant_always (fun _ _ _ h hs => h.step hs) hstart hrun
    refine ⟨hacc, fun i c draws hi => ⟨restore_complete hi, fun ops' s' hrun' hcount => ?_⟩,
      hacc.restored⟩
    rw [taken_run hi hrun', hcount, drop_length]

def twoStations : List Station := [⟨"st-1", 5, 0⟩, ⟨"st-2", 3, 0⟩]

/-- Two draws, the second between the two restores of the first. -/
def crossing : List SurplusOp :=
  [.draw 6 .availableKg, .restore 0, .draw 4 .availableKg, .restore 1, .restore 0]

theorem surplus_exact_crossing :
    (∃ s, run step ⟨twoStations, []⟩ (crossing.take 3) = some s ∧
      s.stations = [⟨"st-1", 1, 0⟩, ⟨"st-2", 2, 0⟩]) ∧
    ∃ s, run step ⟨twoStations, []⟩ crossing = some s ∧ s.stations = twoStations := by
  obtain ⟨s, hrun, hall⟩ : ∃ s, run step ⟨twoStations, []⟩ crossing = some s ∧
      ∀ t ∈ s.taken, t.2 = [] := by
    decide +kernel
  have hexact := @surplus_exact twoStations (by decide) 6 (by norm_num) .availableKg
  exact ⟨by decide +kernel, s, hrun, (hexact.2 crossing s hrun).2.2 hall⟩

end Surplus

/-- `surplusColumn`: the column and its unit, if the kind draws at all. -/
def surplusColumn : TradeKind → Option (Column × String)
  | .evV2gExport => some (.availableKwh, "kwh")
  | .h2Purchase | .evChargePurchase => none
  | .h2Sale | .energyExport => some (.availableKg, "kg")

/-! ## Trades and calls -/

inductive TradeStatus where
  | proposed
  | executed
  | failed
  | cancelled
  deriving DecidableEq

def TradeStatus.terminal : TradeStatus → Bool
  | .proposed => false
  | _ => true

/-- `Trade`: a row of `commerce.trades`. -/
structure Trade (ID : Type) where
  id : String
  kind : TradeKind
  quantityKg : ℚ
  priceMinor : ℤ
  status : TradeStatus
  tbTransferID : Option ID
  idempotencyKey : String

structure TradeResponse where
  code : ℕ
  error : Option String
  message : Option String

/-- `restoring rest r` has to give back `rest`; then it writes `failed` and answers `r`. -/
inductive TradePc (ID : Type) where
  | inserted
  | drawn
  | restoring (rest : List StationDraw) (r : TradeResponse)
  | posted (transferID : ID)
  | done (r : TradeResponse)
  | crashed

def TradePc.inFlight {ID : Type} : TradePc ID → Bool
  | .done _ | .crashed => false
  | _ => true

/-- A trade with the call that creates it. -/
structure Saga (ID : Type) where
  trade : Trade ID
  pc : TradePc ID
  held : List StationDraw

structure TradeConfig (ID : Type) where
  sha16 : String → ID
  newID : ℕ → String
  fixed2 : ℚ → String

structure TradeBody where
  kind : String
  quantityKg : ℚ
  priceMinor : ℤ

structure TradeState (ID : Type) where
  books : Books ID
  stations : List Station
  trades : List (Saga ID)

/-- `restoreFails` is an error of the compensation, `otherTransfer` another ledger call,
`setStations` what station operations write. -/
inductive TradeEvent where
  | create (key : String) (body : Option TradeBody)
  | draw (i : ℕ)
  | post (i : ℕ) (r : Ledger.Replies)
  | restore (i : ℕ)
  | restoreFails (i : ℕ)
  | fail (i : ℕ)
  | finalize (i : ℕ)
  | crash (i : ℕ)
  | cancel (id : String)
  | otherTransfer (key : String) (op : LedgerOp) (amount : ℕ) (r : Ledger.Replies)
  | setStations (stations : List Station)

section Steps

variable {ID : Type} (cfg : TradeConfig ID) (s : TradeState ID)

def TradeConfig.tid (cfg : TradeConfig ID) (key : String) : ID :=
  Ledger.deterministicTransferID cfg.sha16 key

def TradeState.init (books : Books ID) (stations : List Station) : TradeState ID :=
  ⟨books, stations, []⟩

def TradeState.setTrade (i : ℕ) (g : Saga ID) : TradeState ID :=
  { s with trades := s.trades.set i g }

def Saga.withStatus (g : Saga ID) (status : TradeStatus) : Saga ID :=
  { g with trade := { g.trade with status := status } }

def parseKind (text : String) : Option TradeKind :=
  [TradeKind.h2Sale, .h2Purchase, .energyExport, .evV2gExport, .evChargePurchase].find?
    fun k => k.text = text

def checkTrade (key : String) (body : Option TradeBody) :
    Except TradeResponse (TradeKind × ℚ × ℤ) :=
  if key = "" then .error ⟨400, some "Idempotency-Key header is required", none⟩
  else
    match body with
    | none => .error ⟨400, some "invalid JSON body", none⟩
    | some b =>
      if ¬ InInt64 b.priceMinor then .error ⟨400, some "invalid JSON body", none⟩
      else
        match parseKind b.kind with
        | none =>
          .error ⟨400, some ("kind must be one of " ++
            "h2-sale|h2-purchase|energy-export|ev-v2g-export|ev-charge-purchase"), none⟩
        | some kind =>
          if b.quantityKg ≤ 0 ∨ b.priceMinor ≤ 0 then
            .error ⟨400, some "positive quantity_kg and price_minor are required", none⟩
          else .ok (kind, b.quantityKg, b.priceMinor)

/-- The checks and the INSERT. A key that has a row is answered with it. -/
def TradeState.create (key : String) (body : Option TradeBody) : TradeState ID :=
  match checkTrade key body with
  | .error _ => s
  | .ok (kind, quantity, price) =>
    if ∃ g ∈ s.trades, g.trade.idempotencyKey = key then s
    else
      { s with
        trades := s.trades ++
          [⟨⟨cfg.newID s.trades.length, kind, quantity, price, .proposed, none, key⟩,
          .inserted, []⟩] }

def TradeState.draw (i : ℕ) : Option (TradeState ID) :=
  s.trades[i]?.bind fun g =>
    match g.pc with
    | .inserted =>
      match surplusColumn g.trade.kind with
      | none => some (s.setTrade i { g with pc := .drawn })
      | some (column, unit) =>
        match drawDownSurplus s.stations g.trade.quantityKg column with
        | some (draws, stations) =>
          some ({ s with stations := stations }.setTrade i { g with pc := .drawn, held := draws })
        | none =>
          some (s.setTrade i { g with
              pc := .restoring [] ⟨409, some "insufficient_surplus",
                some ("trade quantity " ++ cfg.fixed2 g.trade.quantityKg ++ " " ++ unit ++
                  " exceeds recorded station surplus")⟩ })
    | _ => none

def settlementError (e : Ledger.LedgerError) : TradeResponse :=
  if e.insufficientFunds then
    ⟨402, some "insufficient_funds",
      some "energy clearing account is not funded by a buyer settlement"⟩
  else ⟨502, some "ledger_error", some "ledger transfer failed"⟩

def Saga.ledgerResult (g : Saga ID) : Except Ledger.LedgerError ID → Saga ID
  | .ok id => { g with pc := .posted id }
  | .error e => { g with pc := .restoring g.held (settlementError e) }

def Trade.request (t : Trade ID) : Ledger.Request ID :=
  (LedgerOp.trade t.kind).request (cfg.tid ("trade:" ++ t.idempotencyKey)) t.priceMinor.toNat

/-- Give back the next draw. -/
def TradeState.restore (i : ℕ) : Option (TradeState ID) :=
  s.trades[i]?.bind fun g =>
    match g.pc with
    | .restoring (d :: rest) r =>
      (surplusColumn g.trade.kind).map fun c =>
        { s with stations := adjust c.1 d.id d.amount s.stations }.setTrade i
          { g with pc := .restoring rest r, held := rest }
    | _ => none

/-- The error is logged, and the rest is not given back. -/
def TradeState.restoreFails (i : ℕ) : Option (TradeState ID) :=
  s.trades[i]?.bind fun g =>
    match g.pc with
    | .restoring (_ :: _) r => some (s.setTrade i { g with pc := .restoring [] r })
    | _ => none

/-- `fail`: the UPDATE has no condition on the status. -/
def TradeState.fail (i : ℕ) : Option (TradeState ID) :=
  s.trades[i]?.bind fun g =>
    match g.pc with
    | .restoring [] r => some (s.setTrade i { g.withStatus .failed with pc := .done r })
    | _ => none

/-- The last UPDATE, which has no condition on the status either. -/
def TradeState.finalize (i : ℕ) : Option (TradeState ID) :=
  s.trades[i]?.bind fun g =>
    match g.pc with
    | .posted id =>
      some (s.setTrade i { g with
          trade := { g.trade with status := .executed, tbTransferID := some id }
          pc := .done ⟨201, none, none⟩ })
    | _ => none

def TradeState.crash (i : ℕ) : Option (TradeState ID) :=
  s.trades[i]?.bind fun g =>
    if g.pc.inFlight then some (s.setTrade i { g with pc := .crashed }) else none

/-- `CancelTrade`: `UPDATE … WHERE id = $1 AND status = 'proposed'`. -/
def Saga.cancel (id : String) (g : Saga ID) : Saga ID :=
  if g.trade.id = id ∧ g.trade.status = .proposed then g.withStatus .cancelled else g

variable [DecidableEq ID]

def TradeState.post (i : ℕ) (r : Ledger.Replies) : Option (TradeState ID) :=
  s.trades[i]?.bind fun g =>
    match g.pc with
    | .drawn =>
      let q := g.trade.request cfg
      (Ledger.transfer s.books q.id q.debit q.credit q.amount q.code r).map fun res =>
        { s with books := res.1 }.setTrade i (g.ledgerResult res.2)
    | _ => none

/-- A ledger call under a text that is not a trade's. -/
def TradeState.otherTransfer (key : String) (op : LedgerOp) (amount : ℕ)
    (r : Ledger.Replies) : Option (TradeState ID) :=
  if "trade:".toList.isPrefixOf key.toList then none
  else
    let q := op.request (cfg.tid key) amount
    (Ledger.transfer s.books q.id q.debit q.credit q.amount q.code r).map fun res =>
      { s with books := res.1 }

def TradeState.step (s : TradeState ID) : TradeEvent → Option (TradeState ID)
  | .create key body => some (s.create cfg key body)
  | .draw i => s.draw cfg i
  | .post i r => s.post cfg i r
  | .restore i => s.restore i
  | .restoreFails i => s.restoreFails i
  | .fail i => s.fail i
  | .finalize i => s.finalize i
  | .crash i => s.crash i
  | .cancel id => some { s with trades := s.trades.map (Saga.cancel id) }
  | .otherTransfer key op amount r => s.otherTransfer cfg key op amount r
  | .setStations stations => some { s with stations := stations }

end Steps

end H2Fleet.Commerce
