import H2Fleet.Core.Workflow
import H2Fleet.Infra.Activities

/-!
# The lifecycle of an incident

`AckIncident`, `ResolveIncident` and `IncidentResponseWorkflow`, on one incident.  A handler updates
the row and then signals the workflow; the workflow has activities executed which update the row
again, each any number of times and at any delay.  A signal that could not be sent is only logged.

**Who may write what.**  `AckIncident` takes `open` and `in_progress` to `acknowledged`,
`SetIncidentInProgress` takes `open` and `acknowledged` to `in_progress`.  So an acknowledgement
that comes before the activity is executed is overwritten by it.  Nothing leads back to `open`, and
nothing leads away from `resolved`.
-/

namespace H2Fleet.Infra

open IncidentActivity Incident

/-! ## The workflow -/

inductive IncidentSignal where
  | leakDetected
  | incidentAcknowledged
  | incidentResolved
  deriving DecidableEq

/-- What `IncidentResponseWorkflow` waits for. -/
inductive IncidentPhase where
  | awaitingLeak
  | settingInProgress
  | waiting (acknowledged escalated : Bool)
  | escalating
  | markingResolved
  deriving DecidableEq

/-- `IncidentResponseWorkflow`.  A failed escalation is logged; the other activities end the run. -/
def incidentResponseWorkflow : Workflow IncidentPhase IncidentSignal IncidentActivity where
  start := .awaitingLeak
  listens
    | .awaitingLeak => [.leakDetected]
    | .waiting true _ => [.incidentResolved]
    | .waiting false _ => [.incidentResolved, .incidentAcknowledged]
    | _ => []
  receive
    | .awaitingLeak, .leakDetected => some .settingInProgress
    | .waiting _ _, .incidentResolved => some .markingResolved
    | .waiting _ escalated, .incidentAcknowledged => some (.waiting true escalated)
    | φ, _ => some φ
  timer
    | .waiting false false => some .escalating
    | _ => none
  activity
    | .settingInProgress => some .setIncidentInProgress
    | .escalating => some .escalateIncident
    | .markingResolved => some .markIncidentResolved
    | _ => none
  completed
    | .settingInProgress => some (.waiting false false)
    | .escalating => some (.waiting false true)
    | .markingResolved => none
    | φ => some φ
  failed
    | .escalating => some (.waiting false true)
    | _ => none

/-! ## The system -/

/-- The row with its column `resolved_at`. -/
structure IncidentRow where
  incident : Incident
  resolvedAt : Option ℤ

/-- `mark` is the number of `SetIncidentInProgress` executed before the UPDATE. -/
inductive IncidentCall where
  | ackIncident
  | resolveIncident
  /-- The row is written; the signal is next. -/
  | signalling (sg : IncidentSignal) (reply : Reply) (mark : ℕ)
  | answered (sg : IncidentSignal) (reply : Reply) (mark : ℕ)
  deriving DecidableEq

/-- `writes` counts the executions of `SetIncidentInProgress`. -/
structure Lifecycle where
  row : IncidentRow
  calls : List IncidentCall
  transit : List IncidentSignal
  workflow : Execution IncidentPhase IncidentSignal IncidentActivity
  writes : ℕ

namespace Lifecycle

open Option

variable (s : Lifecycle)

abbrev status : IncidentStatus := s.row.incident.status

/-- An incident just inserted.  `IngestLeak` and `TriggerSOS` go on to signal the workflow;
`OpenIncident` does not. -/
def init (i : Incident) (opening : Option Reply) : Lifecycle :=
  ⟨⟨{ i with status := .opened }, none⟩,
    opening.toList.map fun reply => .signalling .leakDetected reply 0, [], .fresh, 0⟩

def setCall (i : ℕ) (c : IncidentCall) : Lifecycle :=
  { s with calls := s.calls.set i c }

def update (i : ℕ) (now : ℤ) : IncidentCall → Option Lifecycle
  | .ackIncident =>
    if s.status = .opened ∨ s.status = .inProgress then
      some ({ s with row := { s.row with incident := s.row.incident.acknowledge } }.setCall i
        (.signalling .incidentAcknowledged .ok s.writes))
    else
      some (s.setCall i (.answered .incidentAcknowledged
        (.conflict "incident not found or not in an acknowledgeable status") s.writes))
  | .resolveIncident =>
    if s.row.incident.Active then
      some ({ s with row := ⟨s.row.incident.resolve, some now⟩ }.setCall i
        (.signalling .incidentResolved .ok s.writes))
    else some (s.setCall i (.answered .incidentResolved Safety.alreadyResolved s.writes))
  | _ => none

/-- `signal i sent` ends the call at `i`; its signal may be lost. -/
inductive Event where
  | ackIncident
  | resolveIncident
  | update (i : ℕ) (now : ℤ)
  | signal (i : ℕ) (sent : Bool)
  | deliver (k : ℕ)
  | move (m : Move)
  | write (j : ℕ)

def execute (a : IncidentActivity) : Lifecycle :=
  { s with
    row := { s.row with incident := a.write s.row.incident }
    writes := if a = .setIncidentInProgress then s.writes + 1 else s.writes }

def step : Event → Option Lifecycle
  | .ackIncident => some { s with calls := s.calls ++ [.ackIncident] }
  | .resolveIncident => some { s with calls := s.calls ++ [.resolveIncident] }
  | .update i now => (s.calls[i]?).bind (s.update i now)
  | .signal i sent =>
    match s.calls[i]? with
    | some (.signalling sg reply mark) =>
      some ({ s with transit := if sent then s.transit ++ [sg] else s.transit }.setCall i
        (.answered sg reply mark))
    | _ => none
  | .deliver k =>
    (s.transit[k]?).map fun sg =>
      { s with
        transit := s.transit.eraseIdx k
        workflow := s.workflow.deliver incidentResponseWorkflow sg }
  | .move m => (s.workflow.move incidentResponseWorkflow m).map fun x => { s with workflow := x }
  | .write j =>
    (s.workflow.write incidentResponseWorkflow j).map fun p =>
      { s with workflow := p.2 }.execute p.1

/-! ## What a step does to the row -/

def Resolved : Prop := s.status = .resolved

/-- What is left of an acknowledgement written after `mark` executions. -/
def Kept (mark : ℕ) : Prop :=
  s.status = .acknowledged ∨ s.status = .resolved ∨ (s.status = .inProgress ∧ mark < s.writes)

/-- **What every step does to the row.** -/
structure Later (s t : Lifecycle) : Prop where
  writes : s.writes ≤ t.writes
  resolved : s.Resolved → t.Resolved
  kept : ∀ mark, mark ≤ s.writes → s.Kept mark → t.Kept mark

open Later

variable {s t : Lifecycle} {i : ℕ}

lemma Later.of_eq (hstatus : t.status = s.status) (hwrites : s.writes ≤ t.writes) : Later s t := by
  refine ⟨hwrites, fun hs => hstatus.trans hs, fun mark _ hs => ?_⟩
  rw [Kept, hstatus]
  exact hs.imp_right (Or.imp_right fun h => ⟨h.1, h.2.trans_le hwrites⟩)

lemma Later.trans {u : Lifecycle} (h : Later s t) (h' : Later t u) : Later s u :=
  ⟨h.writes.trans h'.writes, fun hs => h'.resolved (h.resolved hs),
    fun mark hmark hs => h'.kept mark (hmark.trans h.writes) (h.kept mark hmark hs)⟩

lemma Later.of_status (hwrites : t.writes = s.writes)
    (hstatus : t.status = .acknowledged ∧ ¬ s.Resolved ∨ t.status = .resolved) : Later s t := by
  refine ⟨hwrites.ge, fun hs => ?_, fun mark _ _ => ?_⟩
  · rcases hstatus with ⟨-, hnot⟩ | hres
    · exact absurd hs hnot
    · exact hres
  · rcases hstatus with ⟨hack, -⟩ | hres
    · exact .inl hack
    · exact .inr (.inl hres)

lemma execute_later (s : Lifecycle) (a : IncidentActivity) : Later s (s.execute a) := by
  cases a with
  | setIncidentInProgress =>
    by_cases hset : s.status = .opened ∨ s.status = .acknowledged
    · have hst : (s.execute .setIncidentInProgress).status = .inProgress := by
        simp [execute, write, setInProgress, hset]
      refine ⟨Nat.le_succ _, fun hs => ?_, fun mark hmark _ => ?_⟩
      · rw [Resolved] at hs
        simp [hs] at hset
      · exact .inr (.inr ⟨hst, Nat.lt_succ_of_le hmark⟩)
    · refine of_eq ?_ (Nat.le_succ _)
      simp [execute, write, setInProgress, hset]
  | escalateIncident =>
    refine of_eq ?_ le_rfl
    simp only [execute, write, escalate]
    split_ifs <;> rfl
  | markIncidentResolved =>
    refine of_status rfl (.inr ?_)
    by_cases hactive : s.row.incident.Active
    · simp [execute, write, resolve, hactive]
    · simpa [execute, write, resolve, hactive] using not_not.mp hactive

variable {c : IncidentCall}

lemma update_later {now : ℤ} (h : s.update i now c = some t) : Later s t := by
  cases c with
  | ackIncident =>
    simp only [update] at h
    split_ifs at h with hst <;> cases h
    · refine of_status rfl (.inl ⟨?_, fun hres => ?_⟩)
      · simp [setCall, acknowledge, hst]
      · rw [Resolved] at hres
        simp [hres] at hst
    · exact of_eq rfl le_rfl
  | resolveIncident =>
    simp only [update] at h
    split_ifs at h with hactive <;> cases h
    · exact of_status rfl (.inr (by simp [setCall, resolve, hactive]))
    · exact of_eq rfl le_rfl
  | signalling sg reply mark => cases h
  | answered sg reply mark => cases h

lemma step_later {e : Event} (h : step s e = some t) : Later s t := by
  cases e with
  | ackIncident | resolveIncident =>
    cases h
    exact of_eq rfl le_rfl
  | update i now =>
    obtain ⟨c, -, hupdate⟩ := bind_eq_some_iff.mp h
    exact update_later hupdate
  | signal i sent =>
    simp only [step] at h
    split at h
    · cases h
      exact of_eq rfl le_rfl
    · cases h
  | deliver k =>
    obtain ⟨sg, -, rfl⟩ := map_eq_some_iff.mp h
    exact of_eq rfl le_rfl
  | move m =>
    obtain ⟨x, -, rfl⟩ := map_eq_some_iff.mp h
    exact of_eq rfl le_rfl
  | write j =>
    obtain ⟨⟨a, x⟩, -, rfl⟩ := map_eq_some_iff.mp h
    have hsame : Later s { s with workflow := x } := of_eq rfl le_rfl
    exact hsame.trans ({ s with workflow := x }.execute_later a)

lemma run_later {es : List Event} (hrun : run step s es = some t) : Later s t :=
  run_invariant_always (fun _ _ _ h hstep => h.trans (step_later hstep)) (of_eq rfl le_rfl) hrun

/-! ## What the signals say -/

def Justified (s : Lifecycle) (sg : IncidentSignal) : Prop := sg = .incidentResolved → s.Resolved

def CallSound (s : Lifecycle) : IncidentCall → Prop
  | .signalling sg _ mark =>
    s.Justified sg ∧ mark ≤ s.writes ∧ (sg = .incidentAcknowledged → s.Kept mark)
  | .answered sg reply mark =>
    mark ≤ s.writes ∧ (sg = .incidentAcknowledged → reply = .ok → s.Kept mark)
  | _ => True

/-- **The workflow marks an incident resolved only when it is.** -/
structure Sound (s : Lifecycle) : Prop where
  calls : ∀ c ∈ s.calls, s.CallSound c
  transit : ∀ sg ∈ s.transit, s.Justified sg
  workflow : s.workflow.Within (fun φ => φ = .markingResolved → s.Resolved) s.Justified
    (fun a => a = .markIncidentResolved → s.Resolved)
  resolvedAt : s.Resolved → s.row.resolvedAt ≠ none

lemma keeps_resolved (R : Prop) : incidentResponseWorkflow.Keeps (fun φ => φ = .markingResolved → R)
      (fun sg => sg = .incidentResolved → R) (fun a => a = .markIncidentResolved → R) where
  start := by simp [incidentResponseWorkflow]
  receive φ sg φ' hφ hlistens hsg hnext := by
    rintro rfl
    cases φ <;> cases sg <;> simp_all [incidentResponseWorkflow]
  timer φ φ' hφ hnext := by
    rintro rfl
    cases φ with
    | waiting acknowledged escalated =>
      cases acknowledged <;> cases escalated <;> simp [incidentResponseWorkflow] at hnext
    | _ => simp [incidentResponseWorkflow] at hnext
  activity φ a hφ hactivity := by
    rintro rfl
    cases φ <;> simp_all [incidentResponseWorkflow]
  completed φ φ' hφ hnext := by
    rintro rfl
    cases φ <;> simp_all [incidentResponseWorkflow]
  failed φ φ' hφ hnext := by
    rintro rfl
    cases φ <;> simp_all [incidentResponseWorkflow]

variable {s t : Lifecycle}

lemma Justified.later {sg : IncidentSignal} (h : s.Justified sg) (hst : Later s t) :
    t.Justified sg :=
  fun hsg => hst.resolved (h hsg)

lemma CallSound.later (h : s.CallSound c) (hst : Later s t) : t.CallSound c := by
  cases c with
  | signalling sg reply mark =>
    obtain ⟨hjust, hmark, hkept⟩ := h
    exact ⟨hjust.later hst, hmark.trans hst.writes, fun hsg => hst.kept mark hmark (hkept hsg)⟩
  | answered sg reply mark =>
    obtain ⟨hmark, hkept⟩ := h
    exact ⟨hmark.trans hst.writes, fun hsg hok => hst.kept mark hmark (hkept hsg hok)⟩
  | _ => trivial

lemma Sound.workflow_later (hs : s.Sound) (hst : Later s t) :
    s.workflow.Within (fun φ => φ = .markingResolved → t.Resolved) t.Justified
      (fun a => a = .markIncidentResolved → t.Resolved) :=
  hs.workflow.mono (fun _ h hφ => hst.resolved (h hφ)) (fun _ h => h.later hst)
    (fun _ h ha => hst.resolved (h ha))

lemma Sound.setCall (hs : s.Sound) (hst : Later s t) (hcalls : t.calls = s.calls.set i c)
    (hc : t.CallSound c) (htransit : t.transit = s.transit) (hworkflow : t.workflow = s.workflow)
    (hresolved : t.Resolved → t.row.resolvedAt ≠ none) : t.Sound := by
  refine ⟨fun d hd => ?_, fun sg hsg => ?_, ?_, hresolved⟩
  · rw [hcalls] at hd
    rcases mem_set_cases hd with rfl | hd
    · exact hc
    · exact (hs.calls d hd).later hst
  · rw [htransit] at hsg
    exact (hs.transit sg hsg).later hst
  · rw [hworkflow]
    exact hs.workflow_later hst

lemma update_sound (hs : s.Sound) {now : ℤ} (h : s.update i now c = some t) : t.Sound := by
  have hst := update_later h
  cases c with
  | ackIncident =>
    simp only [update] at h
    split_ifs at h with hstatus <;> cases h
    · have hack : s.row.incident.acknowledge.status = .acknowledged := by
        simp [acknowledge, hstatus]
      refine hs.setCall hst rfl ⟨nofun, le_rfl, fun _ => .inl hack⟩ rfl rfl fun hres => ?_
      exact absurd (hack.symm.trans hres) (by decide)
    · exact hs.setCall hst rfl ⟨le_rfl, nofun⟩ rfl rfl hs.resolvedAt
  | resolveIncident =>
    simp only [update] at h
    split_ifs at h with hactive <;> cases h
    · have hres : s.row.incident.resolve.status = .resolved := by simp [resolve, hactive]
      exact hs.setCall hst rfl ⟨fun _ => hres, le_rfl, nofun⟩ rfl rfl nofun
    · exact hs.setCall hst rfl ⟨le_rfl, nofun⟩ rfl rfl hs.resolvedAt
  | signalling sg reply mark => cases h
  | answered sg reply mark => cases h

lemma execute_sound (hs : s.Sound) {a : IncidentActivity}
    (ha : a = .markIncidentResolved → s.Resolved) : (s.execute a).Sound := by
  have hst := s.execute_later a
  refine ⟨fun c hc => (hs.calls c hc).later hst, fun sg hsg => (hs.transit sg hsg).later hst,
    hs.workflow_later hst, fun hres => hs.resolvedAt ?_⟩
  cases a with
  | setIncidentInProgress =>
    simp only [Resolved, execute, write, setInProgress] at hres
    split_ifs at hres
    exact hres
  | escalateIncident =>
    simp only [Resolved, execute, write, escalate] at hres
    split_ifs at hres <;> exact hres
  | markIncidentResolved => exact ha rfl

lemma step_sound {e : Event} (hs : s.Sound) (h : step s e = some t) : t.Sound := by
  have hst := step_later h
  have happend : ∀ c : IncidentCall, s.CallSound c → { s with calls := s.calls ++ [c] }.Sound :=
    fun c hc => { hs with calls := forall_mem_concat hs.calls hc }
  cases e with
  | ackIncident | resolveIncident =>
    cases h
    exact happend _ trivial
  | update i now =>
    obtain ⟨c, -, hupdate⟩ := bind_eq_some_iff.mp h
    exact update_sound hs hupdate
  | signal i sent =>
    simp only [step] at h
    split at h
    · next sg reply mark hi =>
        obtain ⟨hjust, hmark, hkept⟩ := hs.calls _ (List.mem_of_getElem? hi)
        cases h
        refine ⟨forall_mem_set hs.calls ⟨hmark, fun hsg _ => hkept hsg⟩, ?_, hs.workflow,
          hs.resolvedAt⟩
        cases sent with
        | false => exact hs.transit
        | true => exact forall_mem_concat hs.transit hjust
    · cases h
  | deliver k =>
    obtain ⟨sg, hsg, rfl⟩ := map_eq_some_iff.mp h
    refine ⟨hs.calls, fun sg' hsg' => hs.transit sg' (List.mem_of_mem_eraseIdx hsg'), ?_,
      hs.resolvedAt⟩
    exact hs.workflow.deliver (keeps_resolved s.Resolved) (hs.transit sg (List.mem_of_getElem? hsg))
  | move m =>
    obtain ⟨x, hx, rfl⟩ := map_eq_some_iff.mp h
    exact { hs with workflow := hs.workflow.move (keeps_resolved s.Resolved) hx }
  | write j =>
    obtain ⟨⟨a, x⟩, hx, rfl⟩ := map_eq_some_iff.mp h
    obtain ⟨ha, hwithin⟩ := hs.workflow.write hx
    have hsame : { s with workflow := x }.Sound := { hs with workflow := hwithin }
    exact execute_sound hsame ha

lemma sound_init (i : Incident) (opening : Option Reply) : (init i opening).Sound := by
  refine ⟨fun c hc => ?_, by simp [init], Execution.within_fresh, nofun⟩
  obtain ⟨reply, -, rfl⟩ := List.mem_map.mp hc
  exact ⟨nofun, le_rfl, nofun⟩

/-- **What an acknowledgement is worth.**  After a 200 of `AckIncident` the incident is
`acknowledged` or `resolved`, or `in_progress` by a later `SetIncidentInProgress`.  Once resolved it
stays so, with a `resolved_at`. -/
theorem acknowledgement_lasts (i : Incident) (opening : Option Reply) {es fs : List Event}
    (hs : run step (init i opening) es = some s) (ht : run step s fs = some t) :
    (∀ (j mark : ℕ), s.calls[j]? = some (.answered .incidentAcknowledged .ok mark) →
        t.status = .acknowledged ∨ t.status = .resolved ∨
        (t.status = .inProgress ∧ mark < t.writes)) ∧
      (s.status = .resolved → t.status = .resolved) ∧
      (t.status = .resolved → t.row.resolvedAt ≠ none) := by
  have hsound : s.Sound := run_invariant_always (fun _ _ _ h hstep => step_sound h hstep)
    (sound_init i opening) hs
  have hsound' : t.Sound := run_invariant_always (fun _ _ _ h hstep => step_sound h hstep) hsound ht
  have hlater := run_later ht
  refine ⟨fun j mark hj => ?_, hlater.resolved, hsound'.resolvedAt⟩
  obtain ⟨hmark, hkept⟩ := hsound.calls _ (List.mem_of_getElem? hj)
  exact hlater.kept mark hmark (hkept rfl rfl)

def leak : Incident := ⟨"h2_leak", "high", some "depot", .opened, 0, some "sensor-1", []⟩

/-- The leak is acknowledged after the workflow has set it in progress. -/
def acknowledgedLeak : List Event :=
  [.signal 0 true, .deliver 0, .move .take, .move .attempt, .write 0,
  .move .complete, .ackIncident, .update 1 0, .signal 1 true]

/-- Its workflow hears of it, and the leak is resolved. -/
def resolvedLeak : List Event := [.deliver 0, .move .take, .resolveIncident, .update 2 60000000,
  .signal 2 true, .deliver 0, .move .take, .move .attempt, .write 0, .move .complete]

theorem acknowledgement_lasts_leak :
    ∃ s t : Lifecycle, run step (init leak (some .accepted)) acknowledgedLeak = some s ∧
      s.status = .acknowledged ∧ run step s resolvedLeak = some t ∧ t.status = .resolved ∧
      t.row.resolvedAt ≠ none ∧ t.workflow.Closed := by
  obtain ⟨s, hs, hack, t, ht, hres, hclosed⟩ :
      ∃ s, run step (init leak (some .accepted)) acknowledgedLeak = some s ∧
      s.status = .acknowledged ∧
        ∃ t, run step s resolvedLeak = some t ∧ t.status = .resolved ∧ t.workflow.Closed := by
    decide +kernel
  exact ⟨s, t, hs, hack, ht, hres, (acknowledgement_lasts leak (some .accepted) hs ht).2.2 hres,
    hclosed⟩

/-- The leak is acknowledged while the activity's first attempt is under way. -/
def earlyAcknowledgement : List Event := [.signal 0 true, .deliver 0, .move .take, .move .attempt,
  .ackIncident, .update 1 0, .signal 1 true]

/-- **The activity takes the acknowledgement back.** -/
theorem acknowledgement_overwritten :
    ((run step (init leak (some .accepted)) earlyAcknowledgement).map fun s => s.calls[1]?) =
        some (some (.answered .incidentAcknowledged .ok 0)) ∧
      ((run step (init leak (some .accepted)) (earlyAcknowledgement ++ [.write 0])).map status) =
        some .inProgress := by
  decide +kernel

end Lifecycle

end H2Fleet.Infra
