import H2Fleet.Core.Run
import H2Fleet.Core.Locks
import H2Fleet.Infra.Reply

/-!
# The queue of a station

`handlers/queue.go` for one station, one step for each SQL statement and each commit.

**Joining.**  `JoinStationQueue` reads the station's status, counts the active entries, inserts one
and commits.  The count is not repeated and nothing is locked.  `joined_at` is the start of the
transaction.

**Leaving the dispenser.**  `CompleteStationQueueEntry` updates the entry and commits, or rolls back
if the inventory does not cover the amount (`H2Fleet.Infra.StationInventory`; here both can
happen).  `LeaveStationQueue` is one statement.  Both then run `advanceQueue`, which promotes the
entry that has waited longest and does not look whether the dispenser is free.  The comment on
`LeaveStationQueue` says that the next bus is promoted when the leaving entry was serving; the code
promotes one also when a waiting bus leaves.
-/

namespace H2Fleet.Infra

inductive EntryStatus where
  | waiting
  | serving
  | completed
  | left
  deriving DecidableEq

/-- The condition of the partial unique index. -/
def EntryStatus.Active (st : EntryStatus) : Prop := st = .waiting ∨ st = .serving
  deriving Decidable

/-- A row of `infra.station_queue` for the station; its id is its index. -/
structure Entry where
  bus : String
  joinedAt : ℤ
  status : EntryStatus
  deriving DecidableEq

inductive QueueCall where
  /-- `JoinStationQueue`: the transaction has begun. -/
  | joining (bus : String) (joinedAt : ℤ)
  | checked (bus : String) (joinedAt : ℤ)
  | counted (bus : String) (joinedAt : ℤ) (active : ℕ)
  | inserted (e : Entry)
  /-- `CompleteStationQueueEntry`: the transaction has begun. -/
  | completing (id : ℕ)
  /-- The entry is updated and its row is locked. -/
  | finishing (id : ℕ)
  /-- `LeaveStationQueue`. -/
  | leaving (id : ℕ)
  | advancing
  | done (r : Reply)
  deriving DecidableEq

def QueueCall.isDone : QueueCall → Bool
  | .done _ => true
  | _ => false

/-- A join between count and commit, or a departure whose `advanceQueue` is to come. -/
def QueueCall.busy : QueueCall → Option Unit
  | .counted .. | .inserted _ | .advancing => some ()
  | _ => none

/-- The entry whose row a completion has locked. -/
def QueueCall.locks : QueueCall → Option ℕ
  | .finishing id => some id
  | _ => none

/-- `status` is the station's, `vehicles` are what `bus_id` can refer to. -/
structure StationQueue where
  status : String
  vehicles : List String
  clock : ℤ
  entries : List Entry
  calls : List QueueCall

def StationQueue.init (status : String) (vehicles : List String) : StationQueue :=
  ⟨status, vehicles, 0, [], []⟩

namespace StationQueue

open List

/-! ## The statements -/

variable (q : StationQueue)

/-- The count of `JoinStationQueue`. -/
def active : ℕ := (q.entries.filter fun e => e.status.Active).length

def entryStatus (active : ℕ) : EntryStatus := if active = 0 then .serving else .waiting

/-- The time and the status with which a join that has counted will commit. -/
def place : QueueCall → Option (ℤ × EntryStatus)
  | .counted _ t n => some (t, entryStatus n)
  | .inserted e => some (e.joinedAt, e.status)
  | _ => none

/-- The bus whose place in the unique index an open transaction has taken or gives up. -/
def touched : QueueCall → Option String
  | .inserted e => some e.bus
  | .finishing id => (q.entries[id]?).map Entry.bus
  | _ => none

def setStatus (id : ℕ) (e : Entry) (st : EntryStatus) : List Entry :=
  q.entries.set id { e with status := st }

def Served : Prop := ∃ e ∈ q.entries, e.status = .serving
  deriving Decidable

def Awaited : Prop := ∃ e ∈ q.entries, e.status = .waiting
  deriving Decidable

def NoneBefore (t : ℤ) : Prop :=
  ∀ w ∈ q.entries, w.status = .waiting → t ≤ w.joinedAt
  deriving Decidable

/-- A completion is refused, or the row `ORDER BY joined_at LIMIT 1` returns. -/
inductive Choice where
  | go
  | refuse
  | promote (id : ℕ)

def notServing : Reply := .conflict "queue entry not found or not in serving status"

def inactive : Reply := .conflict "queue entry not found or already inactive"

/-- The next statement of a call; `none` if it has to wait. -/
def statement : QueueCall → Choice → Option (List Entry × QueueCall)
  | .joining bus t, .go =>
    some (q.entries,
      if q.status = "online" then .checked bus t
      else .done (.conflict ("station is not online (status " ++ q.status ++ ")")))
  | .checked bus t, .go => some (q.entries, .counted bus t q.active)
  | .counted bus t n, .go =>
    if ∃ c ∈ q.calls, q.touched c = some bus then none
    else if ∃ e ∈ q.entries, e.bus = bus ∧ e.status.Active then
      some (q.entries, .done (.conflict "bus already has an active queue entry at this station"))
    else if bus ∉ q.vehicles then
      some (q.entries, .done (.unprocessable "bus_id does not reference a known vehicle"))
    else some (q.entries, .inserted ⟨bus, t, entryStatus n⟩)
  | .inserted e, .go => some (q.entries ++ [e], .done .created)
  | .completing id, .go =>
    match q.entries[id]? with
    | none => some (q.entries, .done notServing)
    | some e =>
      if QueueCall.finishing id ∈ q.calls then none
      else some (q.entries, if e.status = .serving then .finishing id else .done notServing)
  | .finishing id, .go => (q.entries[id]?).map fun e => (q.setStatus id e .completed, .advancing)
  | .finishing _, .refuse => some (q.entries, .done (.conflict "insufficient_inventory"))
  | .leaving id, .go =>
    match q.entries[id]? with
    | none => some (q.entries, .done inactive)
    | some e =>
      if QueueCall.finishing id ∈ q.calls then none
      else if e.status.Active then some (q.setStatus id e .left, .advancing)
      else some (q.entries, .done inactive)
  | .advancing, .go => if q.Awaited then none else some (q.entries, .done .ok)
  | .advancing, .promote id =>
    (q.entries[id]?).bind fun e =>
      if e.status = .waiting ∧ q.NoneBefore e.joinedAt then
        some (q.setStatus id e .serving, .done .ok)
      else none
  | _, _ => none

inductive Request where
  | join (bus : String)
  | complete (id : ℕ)
  | leave (id : ℕ)

def Request.call (now : ℤ) : Request → QueueCall
  | .join bus => .joining bus now
  | .complete id => .completing id
  | .leave id => .leaving id

inductive Event where
  | start (r : Request) (now : ℤ)
  | statement (i : ℕ) (choice : Choice)

def step : Event → Option StationQueue
  | .start r now =>
    if q.clock ≤ now then some { q with clock := now, calls := q.calls ++ [r.call now] } else none
  | .statement i choice =>
    (q.calls[i]?).bind fun c => (q.statement c choice).map fun (entries, c') =>
      { q with entries := entries, calls := q.calls.set i c' }

/-- The statements, with everything that they change. -/
inductive Stated (q : StationQueue) : QueueCall → List Entry → QueueCall → Prop where
  | passed (c c' : QueueCall) : c ≠ .advancing → c'.busy = none → c'.locks = none →
      Stated q c q.entries c'
  | counted (bus : String) (t : ℤ) : Stated q (.checked bus t) q.entries (.counted bus t q.active)
  | inserted (bus : String) (t : ℤ) (n : ℕ) :
      Stated q (.counted bus t n) q.entries (.inserted ⟨bus, t, entryStatus n⟩)
  | joined (e : Entry) : Stated q (.inserted e) (q.entries ++ [e]) (.done .created)
  | locked (id : ℕ) (e : Entry) : q.entries[id]? = some e → e.status = .serving →
      .finishing id ∉ q.calls → Stated q (.completing id) q.entries (.finishing id)
  | completed (id : ℕ) (e : Entry) : q.entries[id]? = some e →
      Stated q (.finishing id) (q.setStatus id e .completed) .advancing
  | departed (id : ℕ) (e : Entry) : q.entries[id]? = some e → e.status.Active →
      .finishing id ∉ q.calls → Stated q (.leaving id) (q.setStatus id e .left) .advancing
  | idle : ¬ q.Awaited → Stated q .advancing q.entries (.done .ok)
  | promoted (id : ℕ) (e : Entry) : q.entries[id]? = some e → e.status = .waiting →
      q.NoneBefore e.joinedAt → Stated q .advancing (q.setStatus id e .serving) (.done .ok)

variable {q}

lemma Stated.of_done {c c' : QueueCall} {r : Reply} {entries : List Entry} (hc : c ≠ .advancing)
    (h : some (q.entries, .done r) = some (entries, c')) : Stated q c entries c' := by
  cases h
  exact .passed c _ hc rfl rfl

theorem statement_cases {c c' : QueueCall} {choice : Choice} {entries : List Entry}
    (h : q.statement c choice = some (entries, c')) : Stated q c entries c' := by
  cases c with
  | joining bus t =>
    cases choice <;> simp only [statement, reduceCtorEq, Option.some.injEq, Prod.mk.injEq] at h
    obtain ⟨rfl, rfl⟩ := h
    split_ifs <;> exact .passed _ _ (by simp) rfl rfl
  | checked bus t =>
    cases choice <;> simp only [statement, reduceCtorEq] at h
    cases h
    exact .counted bus t
  | counted bus t n =>
    cases choice <;> simp only [statement, reduceCtorEq] at h
    split_ifs at h with htouched htaken hknown
    · exact .of_done (by simp) h
    · cases h
      exact .inserted bus t n
    · exact .of_done (by simp) h
  | inserted e =>
    cases choice <;> simp only [statement, reduceCtorEq] at h
    cases h
    exact .joined e
  | completing id =>
    cases choice <;> simp only [statement, reduceCtorEq] at h
    split at h
    · exact .of_done (by simp) h
    · next e he =>
        split_ifs at h with hlocked hserving
        · cases h
          exact .locked id e he hserving hlocked
        · exact .of_done (by simp) h
  | finishing id =>
    cases choice with
    | go =>
      simp only [statement, Option.map_eq_some_iff, Prod.mk.injEq] at h
      obtain ⟨e, he, rfl, rfl⟩ := h
      exact .completed id e he
    | refuse => exact .of_done (by simp) h
    | promote id => simp [statement] at h
  | leaving id =>
    cases choice <;> simp only [statement, reduceCtorEq] at h
    split at h
    · exact .of_done (by simp) h
    · next e he =>
        split_ifs at h with hlocked hactive
        · cases h
          exact .departed id e he hactive hlocked
        · exact .of_done (by simp) h
  | advancing =>
    cases choice with
    | go =>
      simp only [statement] at h
      split_ifs at h with hawaited
      cases h
      exact .idle hawaited
    | refuse => simp [statement] at h
    | promote id =>
      simp only [statement, Option.bind_eq_some_iff] at h
      obtain ⟨e, he, h⟩ := h
      split_ifs at h with hnext
      cases h
      exact .promoted id e he hnext.1 hnext.2
  | done r => cases choice <;> simp [statement] at h

/-! ## One bus at the dispenser -/

def dispenser (e : Entry) : Option Unit := if e.status = .serving then some () else none

variable {e : Entry}

lemma dispenser_eq_some {k : Unit} : dispenser e = some k ↔ e.status = .serving := by
  simp only [dispenser]
  split_ifs with h <;> simp [h]

variable (q)

def Quiet : Prop := ∀ c ∈ q.calls, c.isDone = true
  deriving Decidable

/-- One entry at most is served; if nothing is in flight and one waits, one is, and it joined no
later. -/
def DispenserOk : Prop :=
  Exclusive dispenser q.entries ∧
    (q.Quiet → q.Awaited → ∃ e ∈ q.entries, e.status = .serving ∧ q.NoneBefore e.joinedAt)

/-- No join is between count and commit, and no `advanceQueue` is to come. -/
def Clear : Prop := ∀ c ∈ q.calls, c.busy ≠ some ()
  deriving Decidable

/-- A join counts when the queue is clear and nobody who began to join later has an entry; a bus
departs when the queue is clear and it was being served. -/
def InTurn : QueueCall → Prop
  | .checked _ t => q.Clear ∧ ∀ e ∈ q.entries, e.joinedAt ≤ t
  | .finishing _ => q.Clear
  | .leaving id => ∀ e ∈ q.entries[id]?, e.status.Active → q.Clear ∧ e.status = .serving
  | _ => True

instance (c : QueueCall) : Decidable (q.InTurn c) := by
  unfold InTurn; split <;> infer_instance

/-- The statements do not overlap: the call whose turn it is may go on. -/
def Orderly : Event → Prop
  | .start _ _ => True
  | .statement i _ => ∀ c ∈ q.calls[i]?, q.InTurn c

instance (e : Event) : Decidable (q.Orderly e) := by
  unfold Orderly; split <;> infer_instance

/-- The dispenser is in order, one call at a time is busy, and what it has read is so. -/
structure QueueInv : Prop where
  one : Exclusive dispenser q.entries
  served : q.Awaited → q.Served ∨ .advancing ∈ q.calls
  order : ∀ e ∈ q.entries, e.status = .serving → q.NoneBefore e.joinedAt
  alone : Exclusive QueueCall.busy q.calls
  locked : Exclusive QueueCall.locks q.calls
  free : .advancing ∈ q.calls → ¬ q.Served
  finishing : ∀ c ∈ q.calls, ∀ id, c.locks = some id →
    ∃ e, q.entries[id]? = some e ∧ e.status = .serving
  counts : ∀ c ∈ q.calls, ∀ t st, place c = some (t, st) →
    st = entryStatus q.active ∧ ∀ e ∈ q.entries, e.joinedAt ≤ t

variable {q}

lemma QueueInv.dispenserOk (h : q.QueueInv) : q.DispenserOk := by
  refine ⟨h.one, fun hquiet hawaited => ?_⟩
  rcases h.served hawaited with ⟨e, he, hserving⟩ | hadvancing
  · exact ⟨e, he, hserving, h.order e he hserving⟩
  · cases hquiet _ hadvancing

variable {id : ℕ} {st : EntryStatus}

lemma mem_setStatus {e x : Entry} (h : x ∈ q.setStatus id e st) :
    x = { e with status := st } ∨ x ∈ q.entries :=
  mem_set_cases h

lemma mem_of_setStatus {e x : Entry} (h : x ∈ q.setStatus id e st) (hx : x.status ≠ st) :
    x ∈ q.entries := by
  rcases mem_setStatus h with rfl | hmem
  · exact absurd rfl hx
  · exact hmem

section Calls

variable {c : QueueCall}

lemma busy_of_place {t : ℤ} (h : place c = some (t, st)) : c.busy = some () := by
  cases c with
  | counted | inserted => rfl
  | _ => cases h

lemma eq_finishing (h : c.locks = some id) : c = .finishing id := by
  cases c with
  | finishing id' => exact congrArg QueueCall.finishing (Option.some.inj h)
  | _ => cases h

end Calls

lemma active_eq_zero : q.active = 0 ↔ ∀ e ∈ q.entries, ¬ e.status.Active := by
  simp [active, filter_eq_nil_iff]

section Steps

variable {q : StationQueue} {i : ℕ} {c : QueueCall}

lemma QueueInv.moved (h : q.QueueInv) (hc : q.calls[i]? = some c) (hne : c ≠ .advancing)
    {c' : QueueCall} (hne' : c' ≠ .advancing) (hbusy : c'.busy = some () → c.busy = some () ∨
    q.Clear) (hlocks : ∀ id, c'.locks = some id → .finishing id ∉ q.calls ∧
      ∃ e, q.entries[id]? = some e ∧ e.status = .serving)
    (hplace : ∀ t st, place c' = some (t, st) →
      st = entryStatus q.active ∧ ∀ e ∈ q.entries, e.joinedAt ≤ t) :
    QueueInv { q with calls := q.calls.set i c' } where
  one := h.one
  order := h.order
  served hawaited := (h.served hawaited).imp_right fun hmem => by
    obtain ⟨c'', hmem', rfl⟩ := exists_mem_set (P := fun x => x = .advancing) (a := c') hc
      (fun hx => absurd hx hne) ⟨_, hmem, rfl⟩
    exact hmem'
  alone := h.alone.set hc fun _ hk => hbusy hk
  locked := h.locked.set hc fun k hk => .inr fun b hb hbk =>
    (hlocks k hk).1 (eq_finishing hbk ▸ hb)
  free hmem := h.free ((mem_set_cases hmem).resolve_left hne'.symm)
  finishing := forall_mem_set h.finishing fun id hid => (hlocks id hid).2
  counts := forall_mem_set h.counts hplace

/-- A join counts: what it will write goes by the entries that are there. -/
lemma QueueInv.count (h : q.QueueInv) {bus : String} {t : ℤ}
    (hc : q.calls[i]? = some (.checked bus t)) (hclear : q.Clear)
    (hlast : ∀ e ∈ q.entries, e.joinedAt ≤ t) :
    QueueInv { q with calls := q.calls.set i (.counted bus t q.active) } := by
  refine h.moved hc (by simp) (by simp) (fun _ => .inr hclear) nofun fun t' st hplace => ?_
  cases hplace
  exact ⟨rfl, hlast⟩

/-- A join commits: only it was busy, so it had counted what is there. -/
lemma QueueInv.joined (h : q.QueueInv) {e : Entry} (hc : q.calls[i]? = some (.inserted e)) :
    QueueInv { q with entries := q.entries ++ [e], calls := q.calls.set i (.done .created) } := by
  have hfree : ∀ c ∈ q.calls.set i (.done .created), c.busy ≠ some () :=
    h.alone.released hc rfl nofun
  have hmem := mem_of_getElem? hc
  obtain ⟨hstatus, hlast⟩ := h.counts _ hmem e.joinedAt e.status rfl
  have hserved : q.Awaited → q.Served :=
    fun hawaited => (h.served hawaited).resolve_right fun hadv => by
    cases h.alone.eq hmem hadv rfl rfl
  refine
    { one := h.one.concat fun k hk b hb hbk => ?_, served := fun hawaited => .inl ?_, order := ?_,
      alone := .of_free fun _ => hfree, locked := h.locked.set hc nofun,
      free := fun hadv => absurd rfl (hfree _ hadv),
      finishing := forall_mem_set (fun c hc' id hid => ?_) nofun,
      counts := fun c hc' t st hplace => absurd (busy_of_place hplace) (hfree c hc') }
  · -- it is served only if nobody was active
    rw [dispenser_eq_some, hstatus, entryStatus] at hk
    split_ifs at hk with hzero
    exact active_eq_zero.mp hzero b hb (.inr (dispenser_eq_some.mp hbk))
  · by_cases hzero : q.active = 0
    · exact ⟨e, by simp, by rw [hstatus, entryStatus, if_pos hzero]⟩
    · obtain ⟨x, hx, hactive⟩ : ∃ x ∈ q.entries, x.status.Active := by
        by_contra hnone
        exact hzero (active_eq_zero.mpr fun x hx hactive => hnone ⟨x, hx, hactive⟩)
      obtain ⟨y, hy, hserving⟩ : q.Served := by
        rcases hactive with hwaiting | hserving
        · exact hserved ⟨x, hx, hwaiting⟩
        · exact ⟨x, hx, hserving⟩
      exact ⟨y, mem_append_left _ hy, hserving⟩
  · intro x hx hserving w hw hwaiting
    rcases mem_append.mp hx with hx | hx
    · rcases mem_append.mp hw with hw | hw
      · exact h.order x hx hserving w hw hwaiting
      · rw [mem_singleton.mp hw]
        exact hlast x hx
    · -- a bus that is served at once finds nobody waiting
      obtain rfl := mem_singleton.mp hx
      rcases mem_append.mp hw with hw | hw
      · rw [hstatus, entryStatus] at hserving
        split_ifs at hserving with hzero
        exact absurd (.inl hwaiting) (active_eq_zero.mp hzero w hw)
      · rw [mem_singleton.mp hw, hserving] at hwaiting
        cases hwaiting
  · obtain ⟨x, hx, hserving⟩ := h.finishing c hc' id hid
    exact ⟨x, getElem?_append_old hx, hserving⟩

/-- The bus that is served departs, and nobody else was. -/
lemma QueueInv.departed (h : q.QueueInv) (hc : q.calls[i]? = some c) (he : q.entries[id]? = some e)
    (hserving : e.status = .serving) (hst : ¬ st.Active) (hclear : q.Clear)
    (hother : ∀ j d, j ≠ i → q.calls[j]? = some d → d.locks ≠ some id) :
    QueueInv { q with entries := q.setStatus id e st, calls := q.calls.set i .advancing } := by
  have hfree : ∀ b ∈ q.setStatus id e st, dispenser b ≠ some () := by
    refine h.one.released he (dispenser_eq_some.mpr hserving) fun hk => hst (.inr ?_)
    exact dispenser_eq_some.mp hk
  have hunserved :
    ¬ Served { q with entries := q.setStatus id e st, calls := q.calls.set i .advancing } :=
    fun ⟨x, hx, hxs⟩ => hfree x hx (dispenser_eq_some.mpr hxs)
  refine
    { one := .of_free fun _ => hfree, served := fun _ => .inr (mem_set_self hc),
      order := fun x hx hxs => absurd ⟨x, hx, hxs⟩ hunserved,
      alone := h.alone.set hc fun _ _ => .inr hclear, locked := h.locked.set hc nofun,
      free := fun _ => hunserved, finishing := fun d hd id' hid => ?_,
      counts := forall_mem_set (fun d hd t st' hplace => ?_) nofun }
  · -- any other completion has locked the entry that was served: this one
    obtain ⟨j, hj⟩ := mem_iff_getElem?.mp hd
    rcases getElem?_set_cases hj with ⟨-, rfl⟩ | ⟨hne, hj⟩
    · cases hid
    · obtain ⟨x, hx, hxs⟩ := h.finishing d (mem_of_getElem? hj) id' hid
      have heq :=
        h.one id' id x e () hx he (dispenser_eq_some.mpr hxs) (dispenser_eq_some.mpr hserving)
      exact absurd (heq ▸ hid) (hother j d hne hj)
  · exact absurd (busy_of_place hplace) (hclear d hd)

lemma QueueInv.idle (h : q.QueueInv) (hc : q.calls[i]? = some .advancing) (hnone : ¬ q.Awaited) :
    QueueInv { q with calls := q.calls.set i (.done .ok) } := by
  have hfree : ∀ c ∈ q.calls.set i (.done .ok), c.busy ≠ some () := h.alone.released hc rfl nofun
  exact
    { one := h.one, served := fun hawaited => absurd hawaited hnone, order := h.order,
      alone := .of_free fun _ => hfree, locked := h.locked.set hc nofun,
      free := fun hadv => absurd rfl (hfree _ hadv),
      finishing := forall_mem_set h.finishing nofun,
      counts := fun d hd t st hplace => absurd (busy_of_place hplace) (hfree d hd) }

/-- The bus that has waited longest is promoted to a free dispenser. -/
lemma QueueInv.promoted (h : q.QueueInv) (hc : q.calls[i]? = some .advancing)
    (he : q.entries[id]? = some e) (hfirst : q.NoneBefore e.joinedAt) :
    QueueInv
      { q with entries := q.setStatus id e .serving, calls := q.calls.set i (.done .ok) } := by
  have hunserved : ¬ q.Served := h.free (mem_of_getElem? hc)
  have hfree : ∀ c ∈ q.calls.set i (.done .ok), c.busy ≠ some () := h.alone.released hc rfl nofun
  refine
    { one := h.one.set he fun _ _ =>
        .inr fun b hb hbk => hunserved ⟨b, hb, dispenser_eq_some.mp hbk⟩,
      served := fun _ => .inl ⟨_, mem_set_self he, rfl⟩,
      order := fun x hx hserving w hw hwaiting => ?_,
      alone := .of_free fun _ => hfree, locked := h.locked.set hc nofun,
      free := fun hadv => absurd rfl (hfree _ hadv),
      finishing := forall_mem_set (fun d hd id' hid => ?_) nofun,
      counts := fun d hd t st hplace => absurd (busy_of_place hplace) (hfree d hd) }
  · have hw' := mem_of_setStatus hw (by simp [hwaiting])
    rcases mem_setStatus hx with rfl | hold
    · exact hfirst w hw' hwaiting
    · exact absurd ⟨x, hold, hserving⟩ hunserved
  · obtain ⟨x, hx, hxs⟩ := h.finishing d hd id' hid
    exact absurd ⟨x, mem_of_getElem? hx, hxs⟩ hunserved

end Steps

lemma Request.call_idle (r : Request) (now : ℤ) :
    (r.call now).busy = none ∧ (r.call now).locks = none := by
  cases r <;> exact ⟨rfl, rfl⟩

lemma QueueInv.start (hq : q.QueueInv) (r : Request) (now : ℤ) :
    QueueInv { q with clock := now, calls := q.calls ++ [r.call now] } := by
  obtain ⟨hbusy, hlocks⟩ := r.call_idle now
  exact
    { one := hq.one, served := fun hawaited => (hq.served hawaited).imp_right (mem_append_left _),
      order := hq.order, alone := hq.alone.concat fun k hk => by simp [hbusy] at hk,
      locked := hq.locked.concat fun k hk => by simp [hlocks] at hk,
      free := fun hadv => hq.free ((mem_append.mp hadv).resolve_right fun hlast => by
        rw [← mem_singleton.mp hlast] at hbusy
        cases hbusy),
      finishing := forall_mem_concat hq.finishing fun id hid => by simp [hlocks] at hid,
      counts := forall_mem_concat hq.counts fun t st hplace => by
        simp [busy_of_place hplace] at hbusy }

lemma QueueInv.step {q' : StationQueue} {e : Event} (hq : q.QueueInv) (hok : q.Orderly e)
    (h : q.step e = some q') : q'.QueueInv := by
  cases e with
  | start r now =>
    simp only [StationQueue.step] at h
    split_ifs at h
    cases h
    exact hq.start r now
  | statement i choice =>
    simp only [StationQueue.step, Option.bind_eq_some_iff, Option.map_eq_some_iff] at h
    obtain ⟨c, hc, ⟨entries, c'⟩, hstatement, rfl⟩ := h
    have hturn := hok c hc
    cases statement_cases hstatement with
    | passed _ _ hne hbusy hlocks =>
      refine hq.moved hc hne ?_ ?_ ?_ ?_
      · rintro rfl
        cases hbusy
      · simp [hbusy]
      · simp [hlocks]
      · exact fun t st hplace => by simp [busy_of_place hplace] at hbusy
    | counted bus t => exact hq.count hc hturn.1 hturn.2
    | inserted bus t n =>
      refine hq.moved hc (by simp) (by simp) (fun _ => .inl rfl) nofun fun t' st hplace => ?_
      exact hq.counts _ (mem_of_getElem? hc) t' st hplace
    | joined e => exact hq.joined hc
    | locked id e he hserving hfree =>
      refine hq.moved hc (by simp) (by simp) nofun (fun id' hid => ?_) nofun
      cases hid
      exact ⟨hfree, e, he, hserving⟩
    | completed id e he =>
      obtain ⟨x, hx, hserving⟩ := hq.finishing _ (mem_of_getElem? hc) id rfl
      obtain rfl := Option.some.inj (hx.symm.trans he)
      exact hq.departed hc he hserving (by decide) hturn fun j d hne hj hd =>
        hne (hq.locked j i d _ id hj hc hd rfl)
    | departed id e he hactive hfree =>
      obtain ⟨hclear, hserving⟩ := hturn e he hactive
      exact hq.departed hc he hserving (by decide) hclear fun j d _ hj hd =>
        hfree (eq_finishing hd ▸ mem_of_getElem? hj)
    | idle hnone => exact hq.idle hc hnone
    | promoted id e he hwaiting hfirst => exact hq.promoted hc he hfirst

/-- **One bus at the dispenser**, in every run in which nothing counts or departs between the count
and the commit of a join or between a departure and its `advanceQueue`, joins count in turn, and
only the bus that is served departs. -/
theorem one_bus_at_the_dispenser {status : String} {vehicles : List String} {events : List Event}
    (hok : Meets step Orderly (.init status vehicles) events) :
    Throughout step DispenserOk (.init status vehicles) events := by
  have hinit : QueueInv (.init status vehicles) :=
    ⟨Exclusive.nil, fun ⟨_, he, _⟩ => (nomatch he), nofun, Exclusive.nil, Exclusive.nil, nofun,
      nofun, nofun⟩
  exact Meets.throughout (fun _ hq => hq.dispenserOk) (fun _ _ _ hq hok h =>
    hq.step hok h) hinit hok

/-- A join from its start to its commit, as the call at `i`. -/
def joinEvents (i : ℕ) (bus : String) (now : ℤ) : List Event :=
  .start (.join bus) now :: replicate 4 (.statement i .go)

/-- A bus is served, a second one waits, and the first one leaves. -/
def handover : List Event :=
  joinEvents 0 "A" 1 ++ joinEvents 1 "B" 2 ++
    [.start (.leave 0) 3, .statement 2 .go, .statement 2 (.promote 1)]

theorem handover_one_bus : (∃ q, run step (.init "online" ["A", "B"]) handover = some q ∧ q.Quiet ∧
        q.entries.map Entry.status = [.left, .serving]) ∧
      Throughout step DispenserOk (.init "online" ["A", "B"]) handover :=
  ⟨⟨_, rfl, by decide, rfl⟩, one_bus_at_the_dispenser (by decide +kernel)⟩

/-- One bus is served and two wait; the first of these leaves. -/
def waitingBusLeaves : List Event :=
  joinEvents 0 "A" 1 ++ joinEvents 1 "B" 2 ++ joinEvents 2 "C" 3 ++
    [.start (.leave 1) 4, .statement 3 .go, .statement 3 (.promote 2)]

/-- The third bus is sent to the dispenser that the first one occupies. -/
theorem waiting_bus_leaves_two_served :
    ∃ q, run step (.init "online" ["A", "B", "C"]) waitingBusLeaves = some q ∧ q.Quiet ∧
      q.entries.map Entry.status = [.serving, .left, .serving] ∧ ¬ q.DispenserOk := by
  refine ⟨_, rfl, by decide, rfl, fun hok => ?_⟩
  have heq : 0 = 2 := hok.1 0 2 _ _ () rfl rfl rfl rfl
  omega

end StationQueue

end H2Fleet.Infra
