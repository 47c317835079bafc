import H2Fleet.Citizen.Drt

/-!
# The life cycle of a DRT request

Riders, operators, drivers and the consumer of `drt.requested` move a request, each with a guard on
the status in the WHERE clause of its UPDATE, whatever the handlers have read before.

That the vehicle is set exactly once is in three parts: a request has no vehicle while it is
`requested` and has one from `assigned` on (`DrtRequest.Formed`); only the step to `assigned`
changes it; and a vehicle that is set stays.
-/

namespace H2Fleet.Citizen

/-! ## The life cycle -/

def DrtStatus.next : DrtStatus → List DrtStatus
  | .requested => [.assigned, .cancelled]
  | .assigned => [.enroute, .cancelled]
  | .enroute => [.completed]
  | .completed => []
  | .cancelled => []

namespace DrtRequest

structure Formed (r : DrtRequest) : Prop where
  unset : r.status = .requested → r.vehicleID = none
  set : r.status = .assigned ∨ r.status = .enroute ∨ r.status = .completed → r.vehicleID ≠ none

/-- The status stays or takes an edge; only the step to `assigned` sets the vehicle. -/
structure Moves (r r' : DrtRequest) : Prop where
  status : r'.status = r.status ∨ r'.status ∈ r.status.next
  vehicle : r'.vehicleID ≠ r.vehicleID →
    r.vehicleID = none ∧ r.status = .requested ∧ r'.status = .assigned

/-- The status takes edges, `completed` and `cancelled` are final, and a set vehicle stays. -/
structure Follows (r r' : DrtRequest) : Prop where
  status : Relation.ReflTransGen (fun a b => b ∈ DrtStatus.next a) r.status r'.status
  final : r.status = .completed ∨ r.status = .cancelled → r'.status = r.status
  vehicle : ∀ v, r.vehicleID = some v → r'.vehicleID = some v

variable {r r' r'' : DrtRequest}

lemma Follows.refl (r : DrtRequest) : r.Follows r := ⟨.refl, fun _ => rfl, fun _ hv => hv⟩

lemma Follows.trans (h : r.Follows r') (h' : r'.Follows r'') : r.Follows r'' := by
  refine ⟨h.status.trans h'.status, fun hfinal => ?_, fun v hv => h'.vehicle v (h.vehicle v hv)⟩
  have hsame := h.final hfinal
  exact (h'.final (by rwa [hsame])).trans hsame

/-! ## One step -/

lemma Change.formed (h : r.Change r') (hr : r.Formed) : r'.Formed := by
  cases h with
  | same => exact hr
  | cancelled hstatus => exact ⟨nofun, by rintro (h | h | h) <;> cases h⟩
  | assigned vehicle driver now hstatus => exact ⟨nofun, fun _ => by simp⟩
  | progressed p hstatus =>
    cases p with
    | start => exact ⟨nofun, fun _ => hr.set (.inl hstatus)⟩
    | complete => exact ⟨nofun, fun _ => hr.set (.inr (.inl hstatus))⟩
  | erased marker => exact ⟨hr.unset, hr.set⟩

lemma Change.moves (h : r.Change r') (hr : r.Formed) : r.Moves r' := by
  cases h with
  | same => exact ⟨.inl rfl, fun hne => absurd rfl hne⟩
  | cancelled hstatus =>
    refine ⟨.inr ?_, fun hne => absurd rfl hne⟩
    rcases hstatus with hstatus | hstatus <;> simp [hstatus, DrtStatus.next]
  | assigned vehicle driver now hstatus =>
    exact ⟨.inr (by simp [hstatus, DrtStatus.next]), fun _ => ⟨hr.unset hstatus, hstatus, rfl⟩⟩
  | progressed p hstatus =>
    refine ⟨.inr ?_, fun hne => absurd rfl hne⟩
    cases p <;> simp_all [Progression.before, Progression.after, DrtStatus.next]
  | erased marker => exact ⟨.inl rfl, fun hne => absurd rfl hne⟩

lemma Moves.follows (h : r.Moves r') : r.Follows r' := by
  refine ⟨?_, fun hfinal => ?_, fun v hv => ?_⟩
  · rcases h.status with hsame | hedge
    · rw [hsame]
    · exact .single hedge
  · refine h.status.resolve_right fun hedge => ?_
    rcases hfinal with hfinal | hfinal <;> simp [hfinal, DrtStatus.next] at hedge
  · by_contra hne
    have hnone := (h.vehicle (by rwa [hv])).1
    rw [hnone] at hv
    cases hv

end DrtRequest

/-! ## Every run -/

def World.Formed (w : World) : Prop :=
  ∀ (id : ℕ) (r : DrtRequest), w.requests[id]? = some r → r.Formed

lemma World.Changes.formed {w w' : World} (h : w.Changes w') (hw : w.Formed) : w'.Formed := by
  intro id r' hr'
  rcases h.new id r' hr' with ⟨r, hr, hchange⟩ | ⟨hstatus, hvehicle⟩
  · exact hchange.formed (hw id r hr)
  · refine ⟨fun _ => hvehicle, fun hset => ?_⟩
    rw [hstatus] at hset
    rcases hset with h | h | h <;> cases h

lemma follows_of_run {id : ℕ} : ∀ {evs : List Event} {p p' : Calls} {r : DrtRequest},
    p.shared.Formed → run step p evs = some p' → p.shared.requests[id]? = some r →
      ∃ r', p'.shared.requests[id]? = some r' ∧ r.Follows r'
  | [], p, p', r, _, hrun, hr => by
    cases hrun
    exact ⟨r, hr, .refl r⟩
  | ev :: evs, p, p', r, hp, hrun, hr => by
    obtain ⟨q, hq, hrest⟩ := run_cons_eq_some.mp hrun
    have hchanges := step_changes hq
    obtain ⟨r₁, hr₁, hchange⟩ := hchanges.old id r hr
    obtain ⟨r', hr', hfollows⟩ := follows_of_run (hchanges.formed hp) hrest hr₁
    exact ⟨r', hr', (hchange.moves (hp id r hr)).follows.trans hfollows⟩

/-- **The life cycle**, in every interleaving from an empty table: requests are formed, each step
moves a request along an edge or leaves its status, and so does whatever happens later. -/
theorem drt_request_follows_lifecycle (vehicles : List Vehicle) (jobs : List Infra.Job)
    (distance : String → Point → WithTop ℚ) (now : ℤ) {evs : List Event} {p : Calls}
    (hrun : run step (start vehicles jobs distance now) evs = some p) {id : ℕ} {r : DrtRequest}
    (hr : p.shared.requests[id]? = some r) :
    r.Formed ∧ (∀ ev q, step p ev = some q → ∃ r', q.shared.requests[id]? = some r' ∧ r.Moves r') ∧
      ∀ later q, run step p later = some q → ∃ r', q.shared.requests[id]? = some r' ∧
      r.Follows r' := by
  have hstart : (start vehicles jobs distance now).shared.Formed := by
    intro id r hr
    simp [start] at hr
  have hp : p.shared.Formed := @run_invariant_always _ _ step (fun p => p.shared.Formed)
    (fun _ _ _ hs hstep => (step_changes hstep).formed hs) _ _ _ hstart hrun
  refine ⟨hp id r hr, fun ev q hq => ?_, fun later q hq => follows_of_run hp hq hr⟩
  obtain ⟨r', hr', hchange⟩ := (step_changes hq).old id r hr
  exact ⟨r', hr', hchange.moves (hp id r hr)⟩

/-- A ride is requested, and the consumer assigns the only bus. -/
def ride : List Event :=
  [.start 0 (.createDRTRequest "ada" (some ⟨⟨1, 1⟩, 1, false⟩)), .next 0 .done,
   .start 1 (.autoAssign ⟨some 0, ⟨1, 1⟩⟩), .next 1 .done,
   .next 1 ⟨.none, some ⟨"bus", "active", false⟩⟩, .next 1 .done, .next 1 .done]

theorem ride_follows_lifecycle :
    ∃ p r, run step (start [⟨"bus", "active", false⟩] [] (fun _ _ => 0) 0) ride = some p ∧
      p.shared.requests[0]? = some r ∧ r.vehicleID = some "bus" ∧ r.Formed ∧
      (∀ ev q, step p ev = some q → ∃ r', q.shared.requests[0]? = some r' ∧ r.Moves r') ∧
      ∀ later q, run step p later = some q → ∃ r', q.shared.requests[0]? = some r' ∧
      r.Follows r' := by
  have hride : (run step (start [⟨"bus", "active", false⟩] [] (fun _ _ => 0) 0) ride).map
      (·.shared.requests) = some [⟨"ada", false, some "bus", none, some 0, .assigned⟩] := by
    decide +kernel
  obtain ⟨p, hp, hrequests⟩ := Option.map_eq_some_iff.mp hride
  have hr : p.shared.requests[0]? = some ⟨"ada", false, some "bus", none, some 0, .assigned⟩ := by
    rw [hrequests]
    rfl
  exact ⟨p, _, hp, hr, rfl, drt_request_follows_lifecycle _ _ _ _ hp hr⟩

end H2Fleet.Citizen
