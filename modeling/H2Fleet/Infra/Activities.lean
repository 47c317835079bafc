import H2Fleet.Infra.Incidents
import H2Fleet.Infra.Dispatch
import Mathlib.Logic.Function.Iterate

/-!
# The activities of the workflows

`workflow/activities.go`: four statements that the workflows have executed for them.  Temporal
executes an activity again when its result was lost, up to five times, and a comment says that all
four are idempotent.  Three of them are: their guard does not hold of the row they leave behind.
`EscalateIncident` asks for an unresolved incident, and every execution takes the severity one level
up.
-/

namespace H2Fleet.Infra

open Incident

/-! ## Executions -/

inductive IncidentActivity where
  | setIncidentInProgress
  | escalateIncident
  | markIncidentResolved
  deriving DecidableEq

def IncidentActivity.write : IncidentActivity → Incident → Incident
  | .setIncidentInProgress => setInProgress
  | .escalateIncident => escalate
  | .markIncidentResolved => resolve

inductive DispatchActivity where
  | requeueDispatchJob
  deriving DecidableEq

/-- `Activities`, each with the row it is about. -/
inductive Activity where
  | incident (a : IncidentActivity) (id : ℕ)
  | dispatch (a : DispatchActivity) (id : ℕ)

structure WorkflowTables where
  incidents : List Incident
  dispatch : Dispatch

def Activity.execute : Activity → WorkflowTables → WorkflowTables
  | .incident a id, db => { db with incidents := db.incidents.modify id a.write }
  | .dispatch .requeueDispatchJob id, db =>
    { db with dispatch := requeueDispatchJob db.dispatch id }

/-! ## The guarded activities -/

/-- **`SetIncidentInProgress` is idempotent**: `in_progress` is not in its WHERE. -/
lemma Incident.setInProgress_twice (i : Incident) :
    i.setInProgress.setInProgress = i.setInProgress := by
  by_cases h : i.status = .opened ∨ i.status = .acknowledged
  · simp [setInProgress, h]
  · simp [setInProgress, h]

lemma Incident.resolve_twice (i : Incident) : i.resolve.resolve = i.resolve := by
  by_cases h : i.Active
  · have hdone : i.resolve = { i with status := .resolved } := if_pos h
    rw [hdone]
    exact if_neg fun hactive => hactive rfl
  · have hkeep : i.resolve = i := if_neg h
    rw [hkeep, hkeep]

lemma requeueDispatchJob_twice (db : Dispatch) (id : ℕ) :
    requeueDispatchJob (requeueDispatchJob db id) id = requeueDispatchJob db id := by
  obtain hkeep | ⟨job, hjob, heq⟩ := requeueDispatchJob_writes db id
  · rw [hkeep]
    exact hkeep
  · have hrow : (requeueDispatchJob db id).jobs[id]? = some { job with status := .requeued } := by
      rw [heq]
      exact List.getElem?_set_self (List.getElem?_eq_some_iff.mp hjob).1
    rw [requeueDispatchJob, hrow]
    simp

/-! ## The escalation -/

lemma rank_escalateSeverity_le (severity : String) :
    rank (escalateSeverity severity) ≤ rank severity + 1 := by
  rw [escalateSeverity]
  split_ifs with hlow hmedium hhigh
  · rw [hlow]
    decide
  · rw [hmedium]
    decide
  · rw [hhigh]
    decide
  · exact Nat.le_succ _

variable {severity : String}

lemma escalateSeverity_twice (h : ¬ (severity = "low" ∨ severity = "medium")) :
    escalateSeverity (escalateSeverity severity) = escalateSeverity severity := by
  obtain ⟨hlow, hmedium⟩ := not_or.mp h
  by_cases hhigh : severity = "high"
  · rw [hhigh]
    decide
  · simp [escalateSeverity, hlow, hmedium, hhigh]

lemma rank_le_iterate_escalateSeverity (h : severity ∈ severities) (k : ℕ) :
    rank severity ≤ rank (escalateSeverity^[k] severity) := by
  induction k generalizing severity with
  | zero => exact le_rfl
  | succ k ih =>
    obtain ⟨hmem, hrank⟩ := escalateSeverity_spec h
    rw [Function.iterate_succ_apply]
    exact hrank.trans (ih hmem)

namespace Incident

open Function

/-- The incident goes up once more if it is escalated twice. -/
def Climbs (i : Incident) : Prop :=
  i.status ≠ .resolved ∧ (i.severity = "low" ∨ i.severity = "medium")
  deriving Decidable

variable {i : Incident}

lemma iterate_escalate (h : i.status ≠ .resolved) (k : ℕ) :
    escalate^[k] i = { i with severity := escalateSeverity^[k] i.severity } := by
  induction k generalizing i with
  | zero => rfl
  | succ k ih =>
    have hstep : i.escalate = { i with severity := escalateSeverity i.severity } := if_pos h
    rw [iterate_succ_apply, iterate_succ_apply, hstep]
    exact ih h

lemma escalate_twice (h : ¬ i.Climbs) : i.escalate.escalate = i.escalate := by
  by_cases hres : i.status = .resolved
  · simp [escalate, hres]
  · have hsev : ¬ (i.severity = "low" ∨ i.severity = "medium") := fun hsev => h ⟨hres, hsev⟩
    simp [escalate, hres, escalateSeverity_twice hsev]

lemma Climbs.iterate_ne (h : i.Climbs) (k : ℕ) : escalate^[k + 2] i ≠ i.escalate := by
  obtain ⟨hres, hsev⟩ := h
  -- below `high` a second step leaves the severity of the first
  obtain ⟨hmem, htwice⟩ : escalateSeverity i.severity ∈ severities ∧
      rank (escalateSeverity i.severity) + 1 = rank
      (escalateSeverity (escalateSeverity i.severity)) := by
    rcases hsev with h | h <;> rw [h] <;> decide
  have hstep : i.escalate = { i with severity := escalateSeverity i.severity } := if_pos hres
  have hmem' := (escalateSeverity_spec hmem).1
  have hle := rank_le_iterate_escalateSeverity hmem' k
  intro heq
  rw [iterate_escalate hres, hstep, iterate_add_apply] at heq
  have hrank := congrArg (fun j : Incident => rank j.severity) heq
  simp only [iterate_succ_apply, iterate_zero, id] at hrank
  omega

end Incident

/-! ## Retries -/

namespace Activity

/-- `EscalateIncident`, on an unresolved incident of severity `low` or `medium`. -/
def Climbs (db : WorkflowTables) : Activity → Prop
  | .incident .escalateIncident id => ∃ i ∈ db.incidents[id]?, i.Climbs
  | _ => False

variable {db : WorkflowTables}

/-- **Away from the ladder an activity is idempotent.** -/
lemma execute_twice {a : Activity} (h : ¬ a.Climbs db) :
    a.execute (a.execute db) = a.execute db := by
  cases a with
  | incident a id =>
    have hrow : ∀ i ∈ db.incidents[id]?, a.write (a.write i) = a.write i := by
      intro i hi
      cases a with
      | setIncidentInProgress => exact i.setInProgress_twice
      | escalateIncident => exact escalate_twice fun hclimbs => h ⟨i, hi, hclimbs⟩
      | markIncidentResolved => exact i.resolve_twice
    have hrows :
      (db.incidents.modify id a.write).modify id a.write = db.incidents.modify id a.write := by
      apply List.ext_getElem?
      intro j
      simp only [List.getElem?_modify]
      cases hj : db.incidents[j]? with
      | none => rfl
      | some i =>
        by_cases hid : id = j
        · simp [hid, hrow i (hid ▸ hj)]
        · simp [hid]
    simp only [execute, hrows]
  | dispatch a id =>
    cases a with
    | requeueDispatchJob => simp only [execute, requeueDispatchJob_twice]

lemma getElem?_iterate_execute (a : IncidentActivity) (id : ℕ) {i : Incident}
    (hi : db.incidents[id]? = some i) (k : ℕ) :
    (((incident a id).execute)^[k] db).incidents[id]? = some (a.write^[k] i) := by
  induction k generalizing db i with
  | zero => exact hi
  | succ k ih =>
    rw [Function.iterate_succ_apply, Function.iterate_succ_apply]
    exact ih (by simp [execute, hi])

/-- **On the ladder it is not.** -/
lemma Climbs.iterate_ne {a : Activity} (h : a.Climbs db) (k : ℕ) :
    a.execute^[k + 2] db ≠ a.execute db := by
  cases a with
  | incident a id =>
    cases a with
    | setIncidentInProgress => exact h.elim
    | escalateIncident =>
      obtain ⟨i, hi, hclimbs⟩ := h
      intro heq
      have honce := getElem?_iterate_execute .escalateIncident id hi 1
      have hrow := getElem?_iterate_execute .escalateIncident id hi (k + 2)
      rw [heq] at hrow
      exact hclimbs.iterate_ne k (Option.some.inj (hrow.symm.trans honce))
    | markIncidentResolved => exact h.elim
  | dispatch a id => exact h.elim

end Activity

/-- **When retries leave what one execution leaves**: exactly if the activity was executed once, or
is not `EscalateIncident` on an unresolved incident of severity `low` or `medium`. -/
theorem retried_activity_writes_once (a : Activity) (db : WorkflowTables) {k : ℕ} (hk : 1 ≤ k) :
    (a.execute^[k] db = a.execute db ∧ ∀ (j : ℕ) (i i' : Incident), db.incidents[j]? = some i →
          (a.execute^[k] db).incidents[j]? = some i' → rank i'.severity ≤ rank i.severity + 1) ↔
      k = 1 ∨ ¬ a.Climbs db := by
  constructor
  · rintro ⟨hsame, -⟩
    by_cases hone : k = 1
    · exact .inl hone
    · refine .inr fun hclimbs => ?_
      obtain ⟨m, rfl⟩ : ∃ m, k = m + 2 := ⟨k - 2, by omega⟩
      exact hclimbs.iterate_ne m hsame
  · intro h
    have hsame : a.execute^[k] db = a.execute db := by
      rcases h with rfl | hclimbs
      · rfl
      · obtain ⟨m, rfl⟩ : ∃ m, k = m + 1 := ⟨k - 1, by omega⟩
        rw [Function.iterate_succ_apply]
        exact Function.iterate_fixed (Activity.execute_twice hclimbs) m
    refine ⟨hsame, fun j i i' hi hi' => ?_⟩
    rw [hsame] at hi'
    clear hsame h
    cases a with
    | incident a id =>
      simp only [Activity.execute, List.getElem?_modify, hi] at hi'
      cases hi'
      split_ifs
      · cases a with
        | setIncidentInProgress =>
          obtain ⟨st, hst⟩ := i.setInProgress_status
          simp [IncidentActivity.write, hst]
        | escalateIncident =>
          simp only [IncidentActivity.write, escalate]
          split_ifs
          · exact rank_escalateSeverity_le i.severity
          · exact Nat.le_succ _
        | markIncidentResolved =>
          obtain ⟨st, hst⟩ := i.resolve_status
          simp [IncidentActivity.write, hst]
      · exact Nat.le_succ _
    | dispatch a id =>
      have heq : db.incidents[j]? = some i' := hi'
      rw [hi, Option.some.injEq] at heq
      rw [heq]
      exact Nat.le_succ _

def breakdown : Incident := ⟨"breakdown", "low", none, .opened, 0, none, []⟩

/-- The worker died before it could report the first write. -/
theorem retried_activity_writes_once_breakdown :
    ∃ db : WorkflowTables, (Activity.incident .markIncidentResolved 0).execute^[2] db =
        (Activity.incident .markIncidentResolved 0).execute db ∧
      ¬ (Activity.incident .markIncidentResolved 0).Climbs db :=
  ⟨⟨[breakdown], .init [] []⟩,
    ((retried_activity_writes_once (.incident .markIncidentResolved 0) _ (by decide)).mpr
      (.inr id)).1, id⟩

/-- **One missed deadline, two levels**: `medium` is written, and the retry writes `high`. -/
theorem escalation_retried_twice :
    (((Activity.incident .escalateIncident 0).execute^[2] ⟨[breakdown], .init [] []⟩).incidents.map
        Incident.severity = ["high"]) ∧
      (((Activity.incident .escalateIncident 0).execute ⟨[breakdown], .init [] []⟩).incidents.map
        Incident.severity = ["medium"]) := by
  decide

end H2Fleet.Infra
