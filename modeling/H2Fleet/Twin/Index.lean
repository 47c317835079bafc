import H2Fleet.Core.Interaction
import H2Fleet.Twin.State

/-!
# The index of the hot twins

The commands that `apply_update` and `snapshot_once` send to Redis, in any interleaving of any
number of them.  An update reads the hot state, sets it and adds the bus to the set `twin:buses`; a
snapshot reads the set, reads the hot states of its members, and removes from the set the members
that had none.  Hot states expire at any time.

**What goes wrong.**  A bus that comes back between the read and the removal of a snapshot has its
hot state set and its entry added, and then the entry is removed.  The next snapshots do not see it,
until its next reading adds it again.
-/

namespace H2Fleet.Twin.Index

open Function

/-! ## Redis -/

/-- The keys `twin:<bus>` and the set `twin:buses`. -/
structure World where
  hot : Store
  index : List ℕ

inductive Query where
  | get (bus : ℕ)
  | set (bus : ℕ) (state : TwinState)
  | sadd (bus : ℕ)
  | smembers
  | mget (buses : List ℕ)
  | srem (buses : List ℕ)

@[reducible] def Answer : Query → Type
  | .get _ => Option TwinState
  | .set _ _ => Unit
  | .sadd _ => Unit
  | .smembers => List ℕ
  | .mget _ => List (Option TwinState)
  | .srem _ => Unit

/-- The commands; the environment has nothing to decide. -/
def World.answer (w : World) : (q : Query) → Unit → Option (World × Answer q)
  | .get bus, _ => some (w, w.hot bus)
  | .set bus state, _ => some ({ w with hot := update w.hot bus (some state) }, ())
  | .sadd bus, _ => some ({ w with index := w.index.insert bus }, ())
  | .smembers, _ => some (w, w.index)
  | .mget buses, _ => some (w, buses.map w.hot)
  | .srem buses, _ => some ({ w with index := w.index.filter fun bus => bus ∉ buses }, ())

def World.expire (w : World) (bus : ℕ) : Option World :=
  some { w with hot := update w.hot bus none }

/-! ## The service -/

inductive Outcome where
  | applied
  | snapshot (ids : List ℕ) (states : List TwinState)

/-- `apply_update`, up to the event it publishes. -/
def applyUpdate (t : TelemetryEnriched) (now : ℤ) : Prog Answer Outcome := do
  let prev ← Prog.query (.get t.busID)
  let state := fromTelemetry prev t now
  let _ ← Prog.query (.set t.busID state)
  let _ ← Prog.query (.sadd state.busID)
  return .applied

/-- `partition_states`; stored states are not corrupt, nor under another key. -/
def partitionStates (buses : List ℕ) (values : List (Option TwinState)) :
    List ℕ × List TwinState × List ℕ :=
  ((buses.zip values).filterMap fun p => if p.2.isSome then some p.1 else none,
    (buses.zip values).filterMap Prod.snd,
    (buses.zip values).filterMap fun p => if p.2.isSome then none else some p.1)

/-- `snapshot_once`, up to the rows that it inserts. -/
def snapshotOnce : Prog Answer Outcome := do
  let buses ← Prog.query .smembers
  if buses = [] then return .snapshot [] []
  let values ← Prog.query (.mget buses)
  let (ids, states, stale) := partitionStates buses values
  if stale ≠ [] then
    let _ ← Prog.query (.srem stale)
  return .snapshot ids states

inductive Entry where
  | update (t : TelemetryEnriched) (now : ℤ)
  | snapshot

def twins : Service World Answer Outcome Entry Unit ℕ where
  program
    | .update t now => applyUpdate t now
    | .snapshot => snapshotOnce
  answer := World.answer
  ambient := World.expire

abbrev Twins := Pool World Answer Outcome

/-- No hot states, and nothing in flight. -/
def Twins.init : Twins := ⟨⟨fun _ => none, []⟩, fun _ => none⟩

variable {p : Twins}

/-! ## Updates in flight -/

def Query.Updates (bus : ℕ) : Query → Prop
  | .get b => b = bus
  | .set b _ => b = bus
  | .sadd b => b = bus
  | _ => False

/-- An `apply_update` of the bus is in flight. -/
def Underway (p : Twins) (bus : ℕ) : Prop :=
  ∃ c h q k, p.calls c = some ⟨h, .ask q k⟩ ∧ q.Updates bus

/-- **The property.**  Without updates in flight each bus with a hot state is in the index, for
snapshots to find. -/
def LiveIndexed (p : Twins) : Prop :=
  (∀ bus, ¬ Underway p bus) → ∀ bus, p.shared.hot bus ≠ none →
    bus ∈ p.shared.index ∧ ∀ w buses, p.shared.answer .smembers () = some (w, buses) → bus ∈ buses

/-- **The condition on a step.**  No bus that a snapshot removes has come back since it was read as
having no state, unless an update is underway. -/
def PrunesDead (p : Twins) : PoolEvent Entry Unit ℕ → Prop
  | .next c _ =>
    match p.calls c with
    | some ⟨_, .ask (.srem stale) _⟩ => ∀ bus ∈ stale, p.shared.hot bus ≠ none → Underway p bus
    | _ => True
  | _ => True

/-- What an update asks next; after a removal, nothing is asked. -/
def follows (h : List (Exchange Answer)) (q : Query) : Prop :=
  match h with
  | ⟨.get bus, _⟩ :: _ => ∃ state, q = .set bus state
  | ⟨.set bus _, _⟩ :: _ => q = .sadd bus
  | ⟨.srem _, _⟩ :: _ => False
  | _ => True

/-- An update does not return before it has added the bus. -/
def finished (h : List (Exchange Answer)) : Prop :=
  match h with
  | ⟨.get _, _⟩ :: _ => False
  | ⟨.set _ _, _⟩ :: _ => False
  | _ => True

lemma program_safe (e : Entry) : Prog.Safe follows (fun h _ => finished h) []
    (twins.program e) := by
  cases e with
  | update t now =>
    refine ⟨trivial, fun prev => ⟨⟨_, rfl⟩, fun _ => ⟨rfl, fun _ => trivial⟩⟩⟩
  | snapshot =>
    refine ⟨trivial, fun buses => ?_⟩
    change Prog.Safe follows _ _ (if buses = [] then _ else _)
    split
    · trivial
    · refine ⟨trivial, fun values => ?_⟩
      change Prog.Safe follows _ _ (if (partitionStates buses values).2.2 ≠ [] then _ else _)
      split
      · exact ⟨trivial, fun _ => trivial⟩
      · trivial

/-! ## Live buses -/

/-- A bus with a hot state is in the index, or on its way there. -/
def Kept (p : Twins) : Prop :=
  ∀ bus, p.shared.hot bus ≠ none → bus ∈ p.shared.index ∨ Underway p bus

lemma Kept.liveIndexed (h : Kept p) : LiveIndexed p := by
  intro hquiet bus hhot
  have hmem := (h bus hhot).resolve_right (hquiet bus)
  refine ⟨hmem, fun w buses hanswer => ?_⟩
  cases hanswer
  exact hmem

lemma underway_of_hist (hobeys : p.Obeys follows fun h _ => finished h) {c bus : ℕ}
    {call : Call Answer Outcome} (hc : p.calls c = some call)
    (hhead : (∃ prev rest, call.hist = ⟨.get bus, prev⟩ :: rest) ∨
      ∃ state u rest, call.hist = ⟨.set bus state, u⟩ :: rest) : Underway p bus := by
  obtain ⟨hist, prog⟩ := call
  have hsafe := (hobeys c _ hc).2
  rcases hhead with ⟨prev, rest, rfl⟩ | ⟨state, u, rest, rfl⟩
  · cases prog with
    | done a => exact absurd hsafe id
    | ask q k =>
      obtain ⟨state, rfl⟩ := hsafe.1
      exact ⟨c, _, _, k, hc, rfl⟩
  · cases prog with
    | done a => exact absurd hsafe id
    | ask q k =>
      have hq : q = .sadd bus := hsafe.1
      subst hq
      exact ⟨c, _, _, k, hc, rfl⟩

variable {ev : PoolEvent Entry Unit ℕ}

lemma Kept.step {p p' : Twins} (h : Kept p) (hobeys : p'.Obeys follows fun h _ => finished h)
    (hok : PrunesDead p ev) (hs : twins.step p ev = some p') : Kept p' := by
  cases Service.step_move hs with
  | start c e hfree =>
    intro bus hhot
    refine (h bus hhot).imp id ?_
    rintro ⟨d, hist, q, k, hd, hq⟩
    have hne : d ≠ c := by
      rintro rfl
      rw [hfree] at hd
      cases hd
    exact ⟨d, hist, q, k, by simp [update_of_ne hne, hd], hq⟩
  | ambient b s hexpire =>
    cases hexpire
    intro bus hhot
    have hne : bus ≠ b := by
      rintro rfl
      exact hhot (update_self ..)
    dsimp only at hhot
    rw [update_of_ne hne] at hhot
    exact h bus hhot
  | next c x hist q k w a hcall hanswer =>
    -- the call that has moved, in the new pool
    have hmoved : (update p.calls c (some ⟨⟨q, a⟩ :: hist, k a⟩)) c =
        some ⟨⟨q, a⟩ :: hist, k a⟩ := update_self ..
    have hother : ∀ {bus}, ¬ q.Updates bus → Underway p bus →
        Underway ⟨w, update p.calls c (some ⟨⟨q, a⟩ :: hist, k a⟩)⟩ bus := by
      rintro bus hnot ⟨d, hist', q', k', hd, hq⟩
      have hne : d ≠ c := by
        rintro rfl
        cases hcall.symm.trans hd
        exact hnot hq
      exact ⟨d, hist', q', k', (update_of_ne hne ..).trans hd, hq⟩
    cases q with
    | get b =>
      cases hanswer
      intro bus hhot
      by_cases hb : b = bus
      · subst hb
        exact .inr (underway_of_hist hobeys hmoved (.inl ⟨_, _, rfl⟩))
      · exact (h bus hhot).imp id (hother hb)
    | set b state =>
      cases hanswer
      intro bus hhot
      by_cases hb : b = bus
      · subst hb
        exact .inr (underway_of_hist hobeys hmoved (.inr ⟨_, _, _, rfl⟩))
      · dsimp only at hhot
        rw [update_of_ne (Ne.symm hb)] at hhot
        exact (h bus hhot).imp id (hother hb)
    | sadd b =>
      cases hanswer
      intro bus hhot
      by_cases hb : b = bus
      · subst hb
        exact .inl List.mem_insert_self
      · exact (h bus hhot).imp (fun hmem => List.mem_insert_of_mem hmem) (hother hb)
    | smembers | mget =>
      cases hanswer
      exact fun bus hhot => (h bus hhot).imp id (hother id)
    | srem stale =>
      cases hanswer
      intro bus hhot
      have hdead : ∀ bus ∈ stale, p.shared.hot bus ≠ none → Underway p bus := by
        simpa only [PrunesDead, hcall] using hok
      by_cases hstale : bus ∈ stale
      · exact .inr (hother id (hdead bus hstale hhot))
      · exact (h bus hhot).imp (fun hmem => List.mem_filter.mpr ⟨hmem, by simpa using hstale⟩)
          (hother id)

/-- A snapshot removes a bus whose hot state is gone at that moment. -/
def PrunesExpired (w : World) : Query → Unit → Prop
  | .srem stale, _ => ∀ bus ∈ stale, w.hot bus = none
  | _, _ => True

instance decidablePrunesExpired (w : World) (q) (x) : Decidable (PrunesExpired w q x) := by
  unfold PrunesExpired; split <;> infer_instance

lemma prunesDead_of_expired (h : p.Answering PrunesExpired ev) : PrunesDead p ev := by
  cases ev with
  | start c e => trivial
  | ambient v => trivial
  | next c x =>
    cases hc : p.calls c with
    | none => simp only [PrunesDead, hc]
    | some call =>
      obtain ⟨hist, prog⟩ := call
      cases prog with
      | done a => simp only [PrunesDead, hc]
      | ask q k =>
        rw [Pool.answering_next hc] at h
        cases q with
        | srem stale =>
          simp only [PrunesDead, hc]
          exact fun bus hbus hhot => absurd (h bus hbus) hhot
        | get b | set b state | sadd b | smembers | mget buses => simp only [PrunesDead, hc]

/-- **No live twin falls out of the index**, in every run whose steps meet the condition. -/
theorem live_twins_indexed {evs : List (PoolEvent Entry Unit ℕ)}
    (h : Meets twins.step PrunesDead Twins.init evs) :
    Throughout twins.step LiveIndexed Twins.init evs := by
  refine h.throughout (fun (p : Twins) (hp : Kept p ∧ p.Obeys follows fun h _ => finished h) =>
    hp.1.liveIndexed) ?_ ⟨fun _ hhot => absurd rfl hhot, nofun⟩
  intro p ev p' hp hok hs
  have hobeys := hp.2.step program_safe hs
  exact ⟨hp.1.step hobeys hok hs, hobeys⟩

/-- A hot state expires, and a snapshot removes the bus. -/
theorem live_twins_indexed_expired : Throughout twins.step LiveIndexed Twins.init
      [.start 0 (.update (readingAt 1 30 60).reading 1), .next 0 (), .next 0 (), .next 0 (),
      .ambient 7,
        .start 1 .snapshot, .next 1 (), .next 1 (), .next 1 ()] :=
  live_twins_indexed (Meets.of_run (fun _ _ _ _ h => prunesDead_of_expired h)
    (by decide +kernel : Meets twins.step (Pool.Answering PrunesExpired) Twins.init _) rfl)

/-- **A bus that comes back is removed**: an update adds it after the snapshot has read. -/
theorem returning_bus_is_removed : ¬ Throughout twins.step LiveIndexed Twins.init
      [.start 0 (.update (readingAt 1 30 60).reading 1), .next 0 (), .next 0 (), .next 0 (),
      .ambient 7,
        .start 1 .snapshot, .next 1 (), .next 1 (),
        .start 2 (.update (readingAt 2 30 60).reading 2), .next 2 (), .next 2 (), .next 2 (),
        .next 1 ()] := by
  intro h
  refine absurd ((h.last rfl) ?_ 7 (by decide +kernel)).1 (by decide +kernel)
  rintro bus ⟨c, hist, q, k, hc, -⟩
  rcases c with _ | _ | _ | c <;> cases hc

end H2Fleet.Twin.Index
