import H2Fleet.Core.Workflow
import H2Fleet.Infra.Activities

/-!
# A dispatch job and its workflow

`DispatchWorkflow` with the handlers of one job: `CreateDispatchJob`, `AcceptDispatchJob` and
`CancelDispatchJob` write the row and then signal the workflow, and `RequeueDispatchJob` writes the
row when the accept timer has fired.  Signals go out in any order, since their handlers race.

**Where a job gets lost.**  After the timer the row of an unaccepted job is `requeued` and the
workflow waits for an assignment.  No handler makes one, and neither an accept nor a cancel takes a
requeued row.

**Where a workflow gets lost.**  A job can be cancelled before `CreateDispatchJob` has sent its
signal.  The run started by `job-cancelled` returns, `job-assigned` starts another one, and that one
waits for an accept of a cancelled job, then for an assignment, for ever.
-/

namespace H2Fleet.Infra

/-! ## The workflow -/

inductive JobSignal where
  | jobAssigned
  | jobAccepted
  | jobCancelled
  deriving DecidableEq

/-- What `DispatchWorkflow` waits for. -/
inductive DispatchPhase where
  /-- An assignment, or a cancellation while unassigned. -/
  | awaiting
  /-- An accept, a cancellation or the timer. -/
  | offered
  | requeuing
  deriving DecidableEq

def dispatchWorkflow : Workflow DispatchPhase JobSignal DispatchActivity where
  start := .awaiting
  listens
    | .awaiting => [.jobAssigned, .jobCancelled]
    | .offered => [.jobAccepted, .jobCancelled]
    | .requeuing => []
  receive
    | .awaiting, .jobAssigned => some .offered
    | .awaiting, .jobCancelled => none
    | .offered, .jobAccepted => none
    | .offered, .jobCancelled => none
    | φ, _ => some φ
  timer
    | .offered => some .requeuing
    | _ => none
  activity
    | .requeuing => some .requeueDispatchJob
    | _ => none
  completed
    | .requeuing => some .awaiting
    | φ => some φ
  failed _ := none

/-! ## The system -/

/-- `sending` are the signals of handlers that have written their row. -/
structure JobSystem where
  db : Dispatch
  sending : List JobSignal
  transit : List JobSignal
  workflow : Execution DispatchPhase JobSignal DispatchActivity

namespace JobSystem

/-- The job is not there yet, and its workflow was never started. -/
def init (db : Dispatch) : JobSystem := ⟨db, [], [], .fresh⟩

/-- The transaction of a handler, which signals if it has succeeded. -/
def answer (s : JobSystem) (sg : JobSignal) (p : Reply × Dispatch) : JobSystem :=
  { s with db := p.2, sending := if p.1.Success then s.sending ++ [sg] else s.sending }

inductive Event where
  | create (seen : Dispatch) (req : JobRequest)
  | accept (seen : Dispatch) (caller : String)
  | cancel
  | send (k : ℕ)
  | deliver
  | move (m : Move)
  | write (j : ℕ)

/-- One step, for the job `id`. -/
def step (cfg : DispatchConfig) (id : ℕ) (s : JobSystem) : Event → Option JobSystem
  | .create seen req =>
    if s.db.jobs.length = id then
      some (s.answer .jobAssigned (createDispatchJob cfg seen s.db req))
    else none
  | .accept seen caller => some (s.answer .jobAccepted (acceptDispatchJob seen s.db id caller))
  | .cancel => some (s.answer .jobCancelled (cancelDispatchJob s.db id))
  | .send k =>
    (s.sending[k]?).map fun sg =>
      { s with sending := s.sending.eraseIdx k, transit := s.transit ++ [sg] }
  | .deliver =>
    match s.transit with
    | [] => none
    | sg :: rest =>
      some { s with transit := rest, workflow := s.workflow.deliver dispatchWorkflow sg }
  | .move m => (s.workflow.move dispatchWorkflow m).map fun x => { s with workflow := x }
  | .write j =>
    (s.workflow.write dispatchWorkflow j).map fun p =>
      { s with db := requeueDispatchJob s.db id, workflow := p.2 }

end JobSystem

def Dispatch.jobStatus (db : Dispatch) (id : ℕ) : Option JobStatus := (db.jobs[id]?).map Job.status

namespace JobSystem

/-- All signals are consumed, no timer is set, and no writer or activity is under way. -/
def Quiescent (s : JobSystem) : Prop :=
  s.sending = [] ∧ s.transit = [] ∧ s.workflow.attempts = [] ∧
    ∀ r ∈ s.workflow.current, r.buffer = [] ∧ dispatchWorkflow.timer r.phase = none ∧
      dispatchWorkflow.activity r.phase = none
  deriving Decidable

/-- Some call of the three handlers changes the row. -/
def Movable (id : ℕ) (db : Dispatch) : Prop :=
  (∃ seen caller, (acceptDispatchJob seen db id caller).2.jobs[id]? ≠ db.jobs[id]?) ∨
    (cancelDispatchJob db id).2.jobs[id]? ≠ db.jobs[id]? ∨
    ∃ cfg seen req, (createDispatchJob cfg seen db req).2.jobs[id]? ≠ db.jobs[id]?

/-- Row and workflow agree, and a job neither accepted nor cancelled can be moved. -/
def Agree (id : ℕ) (s : JobSystem) : Prop :=
  (s.Quiescent → (s.workflow.Closed ↔
      s.db.jobStatus id = some .accepted ∨ s.db.jobStatus id = some .cancelled)) ∧
    ∀ job, s.db.jobs[id]? = some job → job.status = .accepted ∨ job.status = .cancelled ∨
      Movable id s.db

/-- `RequeueDispatchJob` does not find the job assigned and does not give up, and `job-assigned`
does not come after the workflow has closed. -/
def InTime (id : ℕ) (s : JobSystem) : Event → Prop
  | .write _ => s.db.jobStatus id ≠ some .assigned
  | .move .fail => s.db.jobStatus id ≠ some .assigned
  | .deliver => s.transit.head? = some .jobAssigned → ¬ s.workflow.Closed
  | _ => True

instance (id : ℕ) (s : JobSystem) (e) : Decidable (InTime id s e) := by
  unfold InTime; split <;> infer_instance

end JobSystem

/-! ## What the handlers do to the status -/

section Status

variable (cfg : DispatchConfig) (seen : Dispatch) {db : Dispatch} {id : ℕ}

lemma jobStatus_setJob {job : Job} {st : JobStatus} (hjob : db.jobs[id]? = some job) :
    (db.setJob id { job with status := st }).jobStatus id = some st := by
  have hlt := (List.getElem?_eq_some_iff.mp hjob).1
  simp [Dispatch.jobStatus, Dispatch.setJob, hlt]

lemma jobStatus_of_job {job : Job} (hjob : db.jobs[id]? = some job) :
    db.jobStatus id = some job.status := by
  simp [Dispatch.jobStatus, hjob]

lemma createDispatchJob_status (req : JobRequest) (hid : db.jobs.length = id) :
    ((createDispatchJob cfg seen db req).1.Success ∧
        (createDispatchJob cfg seen db req).2.jobStatus id = some .assigned) ∨
      (¬ (createDispatchJob cfg seen db req).1.Success ∧
        (createDispatchJob cfg seen db req).2 = db) := by
  simp only [createDispatchJob]
  split_ifs with hdriver hproper
  · exact .inr ⟨by simp, rfl⟩
  · cases hhours : hoursOfService cfg seen.jobs req with
    | some r =>
      refine .inr ⟨?_, rfl⟩
      simp only [hoursOfService] at hhours
      split_ifs at hhours
      · cases hhours
        simp
      · cases hstarts : req.startsAt with
        | none => simp [hstarts] at hhours
        | some s =>
          simp only [hstarts] at hhours
          split_ifs at hhours
          cases hhours
          simp
    | none =>
      simp only
      split
      · refine .inr ⟨?_, rfl⟩
        simp only
        split_ifs <;> simp
      · split
        · exact .inr ⟨by simp, rfl⟩
        · exact .inr ⟨by simp, rfl⟩
        · next db' hinsert =>
            refine .inl ⟨by simp, ?_⟩
            rw [insertJob_eq_ok hinsert]
            simp [Dispatch.jobStatus, ← hid, JobRequest.job]
  · exact .inr ⟨by simp, rfl⟩

lemma acceptDispatchJob_status (db : Dispatch) (id : ℕ) (caller : String) :
    ((acceptDispatchJob seen db id caller).1.Success ∧ db.jobStatus id = some .assigned ∧
        (acceptDispatchJob seen db id caller).2.jobStatus id = some .accepted) ∨
      (¬ (acceptDispatchJob seen db id caller).1.Success ∧
        (acceptDispatchJob seen db id caller).2 = db) := by
  have hrefuse : ¬ acceptDispatchJob.jobNotFound.Success := by decide
  simp only [acceptDispatchJob]
  split_ifs
  · exact .inr ⟨by simp [Reply.Success], rfl⟩
  · split
    · exact .inr ⟨by simp [Reply.Success], rfl⟩
    · split_ifs
      · exact .inr ⟨by simp [Reply.Success], rfl⟩
      · split
        · exact .inr ⟨hrefuse, rfl⟩
        · next job hjob =>
            split_ifs with hassigned
            · exact .inl
                ⟨by simp, by rw [jobStatus_of_job hjob, hassigned.1], jobStatus_setJob hjob⟩
            · exact .inr ⟨hrefuse, rfl⟩

lemma cancelDispatchJob_status (db : Dispatch) (id : ℕ) :
    ((cancelDispatchJob db id).1.Success ∧ (∃ st, db.jobStatus id = some st ∧ st.Active) ∧
        (cancelDispatchJob db id).2.jobStatus id = some .cancelled) ∨
      (¬ (cancelDispatchJob db id).1.Success ∧ (cancelDispatchJob db id).2 = db) := by
  simp only [cancelDispatchJob]
  split
  · exact .inr ⟨by simp [notActive], rfl⟩
  · next job hjob =>
      split_ifs with hactive
      · exact .inl ⟨by simp, ⟨job.status, jobStatus_of_job hjob, hactive⟩, jobStatus_setJob hjob⟩
      · exact .inr ⟨by simp [notActive], rfl⟩

lemma requeueDispatchJob_of_not_assigned (h : db.jobStatus id ≠ some .assigned) :
    requeueDispatchJob db id = db := by
  simp only [requeueDispatchJob]
  split
  · rfl
  · next job hjob =>
      rw [jobStatus_of_job hjob] at h
      exact if_neg fun hassigned => h (by rw [hassigned])

end Status

namespace JobSystem

open List Option

/-! ## What a row tells -/

/-- The signal is on its way to the open run, or there. -/
def Pending (s : JobSystem) (sg : JobSignal) : Prop :=
  sg ∈ s.sending ∨ sg ∈ s.transit ∨ ∃ r ∈ s.workflow.current, sg ∈ r.buffer

/-- The row was written before the signal. -/
def Justified (st : Option JobStatus) : JobSignal → Prop
  | .jobAssigned => st ≠ none
  | .jobAccepted => st = some .accepted ∨ st = some .cancelled
  | .jobCancelled => st = some .cancelled

/-- The workflow is closed, or it has the accept that will close it. -/
def Heard (s : JobSystem) : Prop :=
  s.workflow.Closed ∨ ∃ r ∈ s.workflow.current, .jobAccepted ∈ r.buffer ∧ r.phase ≠ .requeuing

def RowTells (s : JobSystem) : Option JobStatus → Prop
  | none => s.workflow.current = none ∧ s.workflow.finished = 0
  | some .assigned => ¬ s.workflow.Closed
  | some .accepted => s.Pending .jobAccepted ∨ s.workflow.Closed
  | some .cancelled => s.Pending .jobCancelled ∨ s.Heard
  | some _ => False

structure Consistent (id : ℕ) (s : JobSystem) : Prop where
  pending : ∀ sg, s.Pending sg → Justified (s.db.jobStatus id) sg
  row : s.RowTells (s.db.jobStatus id)

variable {id : ℕ} {s t : JobSystem} {sg : JobSignal}

lemma Justified.ne_none {st : Option JobStatus} (h : Justified st sg) : st ≠ none := by
  rintro rfl
  cases sg with
  | jobAssigned => exact h rfl
  | jobAccepted => rcases h with h | h <;> cases h
  | jobCancelled => cases h

lemma Justified.eq_assigned (h : Justified (some .assigned) sg) : sg = .jobAssigned := by
  cases sg with
  | jobAssigned => rfl
  | jobAccepted => rcases h with h | h <;> cases h
  | jobCancelled => cases h

/-- A row tells the same of a workflow with the same signals and run. -/
lemma Consistent.of_same (hs : Consistent id s) (hstatus : t.db.jobStatus id = s.db.jobStatus id)
    (hpending : ∀ sg, t.Pending sg ↔ s.Pending sg)
    (hclosed : t.workflow.Closed ↔ s.workflow.Closed) (hheard : t.Heard ↔ s.Heard)
    (hfresh : s.workflow.current = none ∧ s.workflow.finished = 0 →
      t.workflow.current = none ∧ t.workflow.finished = 0) : Consistent id t := by
  obtain ⟨hjust, hrow⟩ := hs
  rw [← hstatus] at hjust hrow
  refine ⟨fun sg hsg => hjust sg ((hpending sg).mp hsg), ?_⟩
  revert hrow
  cases t.db.jobStatus id with
  | none => exact hfresh
  | some st =>
    cases st <;> simp only [RowTells, hpending, hclosed, hheard, imp_self]

/-! ## The handlers -/

variable {p : Reply × Dispatch}

lemma answer_of_refused (h : ¬ p.1.Success) (hdb : p.2 = s.db) : s.answer sg p = s := by
  simp only [answer, if_neg h, hdb]

lemma pending_answer {sg sg' : JobSignal} (h : p.1.Success) :
    (s.answer sg p).Pending sg' ↔ s.Pending sg' ∨ sg' = sg := by
  simp only [Pending, answer, if_pos h, mem_append, mem_singleton]
  rw [or_right_comm]

lemma Consistent.answer (hs : Consistent id s) {st : JobStatus} (h : p.1.Success)
    (hst : p.2.jobStatus id = some st)
    (hjust : ∀ sg', Justified (s.db.jobStatus id) sg' → Justified (some st) sg')
    (hsg : Justified (some st) sg) (hrow : (s.answer sg p).RowTells (some st)) :
    Consistent id (s.answer sg p) := by
  refine ⟨fun sg' hsg' => ?_, ?_⟩
  · show Justified (p.2.jobStatus id) sg'
    rw [hst]
    rcases (pending_answer h).mp hsg' with hold | rfl
    · exact hjust sg' (hs.pending sg' hold)
    · exact hsg
  · show (s.answer sg p).RowTells (p.2.jobStatus id)
    rwa [hst]

lemma Consistent.create (hs : Consistent id s) {cfg : DispatchConfig} {seen : Dispatch}
    {req : JobRequest} (hid : s.db.jobs.length = id) :
    Consistent id (s.answer .jobAssigned (createDispatchJob cfg seen s.db req)) := by
  rcases createDispatchJob_status cfg seen req hid with ⟨hok, hst⟩ | ⟨hok, hdb⟩
  · have hnone : s.db.jobStatus id = none := by simp [Dispatch.jobStatus, ← hid]
    have hrow := hs.row
    rw [hnone] at hrow
    refine hs.answer hok hst (fun sg' hsg' => absurd hnone hsg'.ne_none) nofun fun hclosed => ?_
    exact absurd hrow.2 hclosed.2.ne'
  · rw [answer_of_refused hok hdb]
    exact hs

lemma Consistent.accept (hs : Consistent id s) {seen : Dispatch} {caller : String} :
    Consistent id (s.answer .jobAccepted (acceptDispatchJob seen s.db id caller)) := by
  rcases acceptDispatchJob_status seen s.db id caller with ⟨hok, hassigned, hst⟩ | ⟨hok, hdb⟩
  · refine hs.answer hok hst (fun sg' hsg' => ?_) (.inl rfl) (.inl ?_)
    · rw [hassigned] at hsg'
      rw [hsg'.eq_assigned]
      exact nofun
    · exact (pending_answer hok).mpr (.inr rfl)
  · rw [answer_of_refused hok hdb]
    exact hs

lemma Consistent.cancel (hs : Consistent id s) :
    Consistent id (s.answer .jobCancelled (cancelDispatchJob s.db id)) := by
  rcases cancelDispatchJob_status s.db id with ⟨hok, -, hst⟩ | ⟨hok, hdb⟩
  · refine hs.answer hok hst (fun sg' _ => ?_) rfl (.inl ?_)
    · cases sg' with
      | jobAssigned => exact nofun
      | jobAccepted => exact .inr rfl
      | jobCancelled => rfl
    · exact (pending_answer hok).mpr (.inr rfl)
  · rw [answer_of_refused hok hdb]
    exact hs

/-! ## Signals on their way -/

lemma Consistent.send (hs : Consistent id s) {k : ℕ} (hsg : s.sending[k]? = some sg) :
    Consistent id { s with sending := s.sending.eraseIdx k, transit := s.transit ++ [sg] } := by
  refine hs.of_same rfl (fun sg' => ?_) Iff.rfl Iff.rfl fun h => h
  have hmem : sg' ∈ s.sending ↔ sg' ∈ s.sending.eraseIdx k ∨ sg' = sg := by
    obtain ⟨hk, rfl⟩ := List.getElem?_eq_some_iff.mp hsg
    have hperm := (getElem_cons_eraseIdx_perm hk).mem_iff (a := sg')
    rw [← hperm, mem_cons, or_comm]
  simp only [Pending, hmem, mem_append, mem_singleton]
  tauto

variable {rest : List JobSignal}

lemma pending_deliver (htransit : s.transit = sg :: rest) (sg' : JobSignal) :
    ({ s with transit := rest, workflow := s.workflow.deliver dispatchWorkflow sg } :
        JobSystem).Pending sg' ↔ s.Pending sg' := by
  cases hrun : s.workflow.current with
  | none =>
    simp only [Pending, Execution.deliver, hrun, htransit, mem_cons, mem_def,
      some.injEq, exists_eq_left', reduceCtorEq, false_and, exists_false, or_false]
    tauto
  | some r =>
    simp only [Pending, Execution.deliver, hrun, htransit, mem_cons, mem_def,
      some.injEq, exists_eq_left', mem_append, not_mem_nil]
    tauto

lemma Heard.deliver (h : s.Heard) (hsg : s.workflow.Closed → sg = .jobAccepted) :
    ({ s with transit := rest, workflow := s.workflow.deliver dispatchWorkflow sg } :
        JobSystem).Heard := by
  refine .inr ?_
  rcases h with hclosed | ⟨r, hr, haccepted, hphase⟩
  · simp [Execution.deliver, hclosed.1, hsg hclosed, dispatchWorkflow]
  · exact ⟨{ r with buffer := r.buffer ++ [sg] }, by simp [Execution.deliver, mem_def.mp hr],
      mem_append_left _ haccepted, hphase⟩

variable (hs : Consistent id s)
include hs

lemma Consistent.deliver (htransit : s.transit = sg :: rest)
    (hok : sg = .jobAssigned → ¬ s.workflow.Closed) :
    Consistent id
      { s with transit := rest, workflow := s.workflow.deliver dispatchWorkflow sg } := by
  have hpending := pending_deliver htransit
  have hcoming : s.Pending sg := .inr (.inl (by simp [htransit]))
  have hjust := hs.pending sg hcoming
  refine ⟨fun sg' hsg' => hs.pending sg' ((hpending sg').mp hsg'), ?_⟩
  have hrow := hs.row
  show RowTells _ (s.db.jobStatus id)
  revert hjust hrow
  cases s.db.jobStatus id with
  | none => exact fun hjust _ => absurd rfl hjust.ne_none
  | some st =>
    cases st with
    | assigned =>
      rintro - - ⟨hnone, -⟩
      rw [Execution.deliver] at hnone
      split at hnone <;> cases hnone
    | accepted =>
      intro hjust hrow
      refine .inl ((hpending _).mpr ?_)
      rcases hrow with haccepted | hclosed
      · exact haccepted
      · -- the workflow was closed: only an accept can be on its way
        cases sg with
        | jobAssigned => exact absurd hclosed (hok rfl)
        | jobAccepted => exact hcoming
        | jobCancelled => cases hjust
    | cancelled =>
      intro _ hrow
      rcases hrow with hcancelled | hheard
      · exact .inl ((hpending _).mpr hcancelled)
      · by_cases hsg : sg = .jobCancelled
        · exact .inl ((hpending _).mpr (hsg ▸ hcoming))
        · refine .inr (hheard.deliver fun hclosed => ?_)
          cases sg with
          | jobAssigned => exact absurd hclosed (hok rfl)
          | jobAccepted => rfl
          | jobCancelled => exact absurd rfl hsg
    | inProgress => exact fun _ hrow => hrow
    | completed => exact fun _ hrow => hrow
    | requeued => exact fun _ hrow => hrow

/-! ## The run -/

variable {r : OpenRun DispatchPhase JobSignal}

namespace Consistent

lemma returned (hr : s.workflow.current = some r)
    (hst : s.db.jobStatus id ≠ some .assigned) (buffer : List JobSignal) :
    Consistent id { s with workflow := s.workflow.goTo buffer none } := by
  have hclosed := s.workflow.closed_goTo_none buffer
  refine ⟨fun sg hsg => hs.pending sg ?_, ?_⟩
  · rcases hsg with hsg | hsg | ⟨r', hr', -⟩
    · exact .inl hsg
    · exact .inr (.inl hsg)
    · cases hr'
  · have hrow := hs.row
    show RowTells _ (s.db.jobStatus id)
    revert hst hrow
    cases s.db.jobStatus id with
    | none => exact fun _ hrow => absurd (hr.symm.trans hrow.1) nofun
    | some st =>
      cases st with
      | assigned => exact fun hst _ => absurd rfl hst
      | accepted => exact fun _ _ => .inr hclosed
      | cancelled => exact fun _ _ => .inr (.inl hclosed)
      | inProgress => exact fun _ hrow => hrow
      | completed => exact fun _ hrow => hrow
      | requeued => exact fun _ hrow => hrow

lemma continued (hr : s.workflow.current = some r) {buffer : List JobSignal}
    {φ : DispatchPhase} (hsub : ∀ sg ∈ buffer, sg ∈ r.buffer)
    (hkeep : ∀ sg ∈ r.buffer, sg ≠ .jobAssigned → sg ∈ buffer)
    (hphase : .jobAccepted ∈ r.buffer → r.phase ≠ .requeuing → φ ≠ .requeuing) :
    Consistent id { s with workflow := s.workflow.goTo buffer (some φ) } := by
  have hopen : ¬ (s.workflow.goTo buffer (some φ)).Closed := fun hclosed => nomatch hclosed.1
  have hwas : ¬ s.workflow.Closed := fun hclosed => nomatch hr.symm.trans hclosed.1
  have hstill : ∀ sg, s.Pending sg → sg ≠ .jobAssigned →
      JobSystem.Pending { s with workflow := s.workflow.goTo buffer (some φ) } sg := by
    rintro sg (hsg | hsg | ⟨r', hr', hsg⟩) hne
    · exact .inl hsg
    · exact .inr (.inl hsg)
    · cases hr.symm.trans hr'
      exact .inr (.inr ⟨_, rfl, hkeep sg hsg hne⟩)
  refine ⟨fun sg hsg => hs.pending sg ?_, ?_⟩
  · rcases hsg with hsg | hsg | ⟨r', ⟨⟩, hsg⟩
    · exact .inl hsg
    · exact .inr (.inl hsg)
    · exact .inr (.inr ⟨r, hr, hsub sg hsg⟩)
  · have hrow := hs.row
    show RowTells _ (s.db.jobStatus id)
    revert hrow
    cases s.db.jobStatus id with
    | none => exact fun hrow => absurd (hr.symm.trans hrow.1) nofun
    | some st =>
      cases st with
      | assigned => exact fun _ => hopen
      | accepted =>
        rintro (haccepted | hclosed)
        · exact .inl (hstill _ haccepted nofun)
        · exact absurd hclosed hwas
      | cancelled =>
        rintro (hcancelled | hclosed | ⟨r', hr', haccepted, hne⟩)
        · exact .inl (hstill _ hcancelled nofun)
        · exact absurd hclosed hwas
        · cases hr.symm.trans hr'
          exact .inr (.inr ⟨_, rfl, hkeep _ haccepted nofun, hphase haccepted hne⟩)
      | inProgress => exact fun hrow => hrow
      | completed => exact fun hrow => hrow
      | requeued => exact fun hrow => hrow

lemma take (hr : s.workflow.current = some r) (hready : dispatchWorkflow.ready r = some sg) :
    Consistent id { s with
      workflow := s.workflow.goTo (r.buffer.erase sg) (dispatchWorkflow.receive r.phase sg) } := by
  obtain ⟨hlistens, hbuffer⟩ := Execution.mem_of_ready hready
  have hjust := hs.pending sg (.inr (.inr ⟨r, hr, hbuffer⟩))
  cases hphase : r.phase with
  | awaiting =>
    rw [hphase] at hlistens
    cases sg with
    | jobAssigned =>
      refine hs.continued hr (fun sg' => mem_of_mem_erase) (fun sg' hsg' hne => ?_) fun _ _ => nofun
      exact (mem_erase_of_ne hne).mpr hsg'
    | jobAccepted => exact absurd hlistens (by decide)
    | jobCancelled => exact hs.returned hr (fun hst => nomatch hst.symm.trans hjust) _
  | offered =>
    rw [hphase] at hlistens
    cases sg with
    | jobAssigned => exact absurd hlistens (by decide)
    | jobAccepted =>
      refine hs.returned hr (fun hst => ?_) _
      rcases hjust with hjust | hjust <;> cases hst.symm.trans hjust
    | jobCancelled => exact hs.returned hr (fun hst => nomatch hst.symm.trans hjust) _
  | requeuing =>
    rw [hphase] at hlistens
    cases hlistens

lemma move {m : Move} {x : Execution DispatchPhase JobSignal DispatchActivity}
    (hx : s.workflow.move dispatchWorkflow m = some x)
    (hok : m = .fail → s.db.jobStatus id ≠ some .assigned) :
    Consistent id { s with workflow := x } := by
  cases Execution.move_moved hx with
  | take hr hready => exact hs.take hr hready
  | @timer r φ hr hready htimer =>
    refine hs.continued hr (fun _ h => h) (fun _ h _ => h) fun haccepted _ => ?_
    -- an accept that is there would have been taken before the timer
    cases hphase : r.phase with
    | offered =>
      have hnone := find?_eq_none.mp hready .jobAccepted (by simp [hphase, dispatchWorkflow])
      exact absurd (by simpa using haccepted) hnone
    | awaiting | requeuing => simp [hphase, dispatchWorkflow] at htimer
  | attempt hr hactivity => exact hs.of_same rfl (fun _ => Iff.rfl) Iff.rfl Iff.rfl fun h => h
  | lose j => exact hs.of_same rfl (fun _ => Iff.rfl) Iff.rfl Iff.rfl fun h => h
  | @complete r a hr hactivity hexecuted =>
    cases hphase : r.phase with
    | requeuing => exact hs.continued hr (fun _ h => h) (fun _ h _ => h) fun _ _ => nofun
    | awaiting | offered => simp [hphase, dispatchWorkflow] at hactivity
  | fail hr hactivity => exact hs.returned hr (hok rfl) _

lemma write {j : ℕ} {p : DispatchActivity × Execution DispatchPhase JobSignal DispatchActivity}
    (hp : s.workflow.write dispatchWorkflow j = some p) (hok : s.db.jobStatus id ≠ some .assigned) :
    Consistent id { s with db := requeueDispatchJob s.db id, workflow := p.2 } := by
  obtain ⟨a, -, rfl⟩ := map_eq_some_iff.mp hp
  rw [requeueDispatchJob_of_not_assigned hok]
  refine hs.of_same rfl (fun sg => ?_) ?_ ?_ ?_
  · cases hr : s.workflow.current <;> simp [Pending, hr]
  · simp [Execution.Closed]
  · cases hr : s.workflow.current <;> simp [Heard, Execution.Closed, hr]
  · simp

lemma step {cfg : DispatchConfig} {e : Event} (hok : InTime id s e)
    (h : step cfg id s e = some t) : Consistent id t := by
  cases e with
  | create seen req =>
    simp only [JobSystem.step] at h
    split_ifs at h with hid
    cases h
    exact hs.create hid
  | accept seen caller =>
    cases h
    exact hs.accept
  | cancel =>
    cases h
    exact hs.cancel
  | send k =>
    obtain ⟨sg, hsg, rfl⟩ := map_eq_some_iff.mp h
    exact hs.send hsg
  | deliver =>
    simp only [JobSystem.step] at h
    split at h
    · cases h
    · next sg rest htransit =>
        cases h
        refine hs.deliver htransit fun hsg => hok ?_
        rw [htransit, hsg]
        rfl
  | move m =>
    obtain ⟨x, hx, rfl⟩ := map_eq_some_iff.mp h
    exact hs.move hx (by rintro rfl; exact hok)
  | write j =>
    obtain ⟨p, hp, rfl⟩ := map_eq_some_iff.mp h
    exact hs.write hp hok

end Consistent

omit hs

/-! ## Quiescent states -/

lemma Quiescent.not_pending (h : s.Quiescent) (sg : JobSignal) : ¬ s.Pending sg := by
  obtain ⟨hsending, htransit, -, hrun⟩ := h
  rintro (hsg | hsg | ⟨r, hr, hsg⟩)
  · simp [hsending] at hsg
  · simp [htransit] at hsg
  · simp [(hrun r hr).1] at hsg

lemma movable_of_assigned {db : Dispatch} {job : Job} (hjob : db.jobs[id]? = some job)
    (hst : job.status = .assigned) : Movable id db := by
  refine .inr (.inl fun hsame => ?_)
  have hlt := (List.getElem?_eq_some_iff.mp hjob).1
  have hactive : job.status.Active := .inl hst
  simp only [cancelDispatchJob, hjob, if_pos hactive, Dispatch.setJob, getElem?_set_self hlt,
    some.injEq] at hsame
  have heq := congrArg Job.status hsame
  simp [hst] at heq

lemma not_movable_of_requeued {db : Dispatch} {job : Job} (hjob : db.jobs[id]? = some job)
    (hst : job.status = .requeued) : ¬ Movable id db := by
  have hstatus := jobStatus_of_job hjob
  rw [hst] at hstatus
  rintro (⟨seen, caller, hne⟩ | hne | ⟨cfg, seen, req, hne⟩)
  · rcases acceptDispatchJob_status seen db id caller with ⟨-, hassigned, -⟩ | ⟨-, hdb⟩
    · cases hstatus.symm.trans hassigned
    · exact hne (by rw [hdb])
  · rcases cancelDispatchJob_status db id with ⟨-, ⟨st, hst', hactive⟩, -⟩ | ⟨-, hdb⟩
    · cases hstatus.symm.trans hst'
      revert hactive
      decide
    · exact hne (by rw [hdb])
  · rcases createDispatchJob_writes cfg seen db req with hdb | ⟨-, hdb⟩
    · exact hne (by rw [hdb])
    · rw [hdb] at hne
      exact hne (by rw [getElem?_append_old hjob, hjob])

lemma Consistent.agree (hs : Consistent id s) : Agree id s := by
  refine ⟨fun hquiet => ?_, fun job hjob => ?_⟩
  · have hnot := hquiet.not_pending
    have hrow := hs.row
    revert hrow
    cases s.db.jobStatus id with
    | none => exact fun hrow => iff_of_false (fun hclosed => absurd hrow.2 hclosed.2.ne') (by simp)
    | some st =>
      cases st with
      | assigned => exact fun hrow => iff_of_false hrow (by simp)
      | accepted =>
        rintro (haccepted | hclosed)
        · exact absurd haccepted (hnot _)
        · exact iff_of_true hclosed (.inl rfl)
      | cancelled =>
        rintro (hcancelled | hclosed | ⟨r, hr, haccepted, -⟩)
        · exact absurd hcancelled (hnot _)
        · exact iff_of_true hclosed (.inr rfl)
        · exact absurd (.inr (.inr ⟨r, hr, haccepted⟩)) (hnot .jobAccepted)
      | inProgress => exact False.elim
      | completed => exact False.elim
      | requeued => exact False.elim
  · have hrow := hs.row
    rw [jobStatus_of_job hjob] at hrow
    cases hst : job.status with
    | accepted => exact .inl rfl
    | cancelled => exact .inr (.inl rfl)
    | assigned => exact .inr (.inr (movable_of_assigned hjob hst))
    | inProgress => simp [hst, RowTells] at hrow
    | completed => simp [hst, RowTells] at hrow
    | requeued => simp [hst, RowTells] at hrow

lemma consistent_init (db : Dispatch) : Consistent db.jobs.length (init db) := by
  have hnone : (init db).db.jobStatus db.jobs.length = none := by simp [init, Dispatch.jobStatus]
  refine ⟨fun sg hsg => ?_, ?_⟩
  · rcases hsg with hsg | hsg | ⟨r, hr, -⟩
    · cases hsg
    · cases hsg
    · cases hr
  · rw [hnone]
    exact ⟨rfl, rfl⟩

/-- **Row and workflow agree in runs that are in time**: in every quiescent state the workflow is
closed exactly when the job is accepted or cancelled, and a job that is neither can be moved in
every state. -/
theorem dispatch_row_and_workflow_agree (cfg : DispatchConfig) (db : Dispatch) {es : List Event}
    (hok : Meets (step cfg db.jobs.length) (InTime db.jobs.length) (init db) es) :
    Throughout (step cfg db.jobs.length) (Agree db.jobs.length) (init db) es :=
  Meets.throughout (fun _ hs => hs.agree) (fun _ _ _ hs hok hstep => hs.step hok hstep)
    (consistent_init db) hok

def oneDriver : Dispatch := .init [⟨"ada", "active"⟩] ["bus-1"]

def anyShift : DispatchConfig := ⟨24, 24, fun t => t, fun t => t, fun _ _ => ""⟩

/-- The driver is offered an open-ended job. -/
def offer : List Event :=
  [.create oneDriver ⟨"ada", some "bus-1", "r1", none, none⟩, .send 0, .deliver,
  .move .take]

theorem dispatch_row_and_workflow_agree_accepted : ∃ s, run (step anyShift 0) (init oneDriver)
        (offer ++ [.accept oneDriver "ada", .send 0, .deliver, .move .take]) = some s ∧
      s.Quiescent ∧ s.workflow.Closed := by
  have hok : Meets (step anyShift 0) (InTime 0) (init oneDriver)
      (offer ++ [.accept oneDriver "ada", .send 0, .deliver, .move .take]) := by decide +kernel
  obtain ⟨s, hs, hquiet, hst⟩ : ∃ s, run (step anyShift 0) (init oneDriver)
      (offer ++ [.accept oneDriver "ada", .send 0, .deliver, .move .take]) = some s ∧
      s.Quiescent ∧ s.db.jobStatus 0 = some .accepted := by decide +kernel
  have hagree := (dispatch_row_and_workflow_agree anyShift oneDriver hok).last hs
  exact ⟨s, hs, hquiet, (hagree.1 hquiet).mpr (.inl hst)⟩

def timeout : List Event := [.move .timer, .move .attempt, .write 0, .move .complete]

/-- The job is cancelled before `CreateDispatchJob` has sent its signal. -/
def earlyCancel : List Event := [.create oneDriver ⟨"ada", some "bus-1", "r1", none, none⟩, .cancel,
  .send 1, .deliver, .move .take, .send 0, .deliver, .move .take]

/-- **A job and a workflow that are lost.**  After a timeout nothing can move the row; after an
early cancellation the workflow stays open. -/
theorem requeued_job_stays :
    (∃ s, run (step anyShift 0) (init oneDriver) (offer ++ timeout) = some s ∧ s.Quiescent ∧
        s.db.jobStatus 0 = some .requeued ∧ ¬ Movable 0 s.db) ∧
      ∃ s, run (step anyShift 0) (init oneDriver) (earlyCancel ++ timeout) = some s ∧ s.Quiescent ∧
        s.db.jobStatus 0 = some .cancelled ∧ ¬ s.workflow.Closed := by
  refine ⟨?_, by decide +kernel⟩
  obtain ⟨s, hs, hquiet, hst⟩ : ∃ s,
    run (step anyShift 0) (init oneDriver) (offer ++ timeout) = some s ∧
      s.Quiescent ∧ s.db.jobStatus 0 = some .requeued := by decide +kernel
  obtain ⟨job, hjob, hjobst⟩ := map_eq_some_iff.mp hst
  exact ⟨s, hs, hquiet, hst, not_movable_of_requeued hjob hjobst⟩

end JobSystem

end H2Fleet.Infra
