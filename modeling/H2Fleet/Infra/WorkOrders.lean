import H2Fleet.Core.Run
import H2Fleet.Core.Slots
import H2Fleet.Infra.Reply

/-!
# Depot work orders

`transitionWorkOrder` of `handlers/depot.go`, behind the assign, start, hold and close endpoints,
for one work order and any number of calls.  A call reads the status, looks the move up in
`workOrderTransitions`, and then updates the row by its id alone.

**What goes wrong.**  A start that has read `open` is carried out after a close that has read `open`
too: the closed work order is in progress again, with its `closed_at`.
-/

namespace H2Fleet.Infra

/-! ## The lifecycle -/

inductive WorkOrderStatus where
  | opened
  | assigned
  | inProgress
  | onHold
  | closed
  deriving DecidableEq

namespace WorkOrderStatus

def text : WorkOrderStatus → String
  | .opened => "open"
  | .assigned => "assigned"
  | .inProgress => "in_progress"
  | .onHold => "on_hold"
  | .closed => "closed"

def workOrderTransitions : WorkOrderStatus → List WorkOrderStatus
  | .opened => [.assigned, .inProgress, .closed]
  | .assigned => [.inProgress, .onHold, .opened, .closed]
  | .inProgress => [.onHold, .closed]
  | .onHold => [.inProgress, .closed]
  | .closed => []

/-- The lifecycle has an edge, or they are the same. -/
def Leads (a b : WorkOrderStatus) : Prop := a = b ∨ b ∈ a.workOrderTransitions
  deriving Decidable

lemma Leads.eq_closed {b : WorkOrderStatus} (h : closed.Leads b) : b = .closed := by
  rcases h with rfl | h
  · rfl
  · cases h

end WorkOrderStatus

/-! ## The row -/

/-- The columns of `infra.work_orders` that a transition reads or writes. -/
structure WorkOrder where
  status : WorkOrderStatus
  assignee : Option String
  startedAt : Option ℤ
  closedAt : Option ℤ
  deriving DecidableEq

/-- The row that `CreateWorkOrder` inserts. -/
def createWorkOrder (assignee : Option String) : WorkOrder :=
  ⟨if assignee.any (· ≠ "") then .assigned else .opened, assignee, none, none⟩

/-- The SET clause of the UPDATE. -/
def WorkOrder.transition (o : WorkOrder) (now : ℤ) (target : WorkOrderStatus) (assignee : String) :
    WorkOrder :=
  match target with
  | .assigned => { o with status := .assigned, assignee := some assignee }
  | .inProgress => { o with status := .inProgress, startedAt := some (o.startedAt.getD now) }
  | .closed => { o with status := .closed, closedAt := some now }
  | .opened => { o with status := .opened }
  | .onHold => { o with status := .onHold }

/-! ## Calls -/

inductive WorkOrderCall where
  /-- The SELECT is next. -/
  | loading (target : WorkOrderStatus) (assignee : Option String)
  /-- The UPDATE is next; `current` is the status that was read. -/
  | updating (current target : WorkOrderStatus) (assignee : String)
  | answered (r : Reply)

/-- The four endpoints; an assignment may be no JSON, or have no assignee. -/
inductive WorkOrderRequest where
  | assignWorkOrder (body : Option (Option String))
  | startWorkOrder
  | holdWorkOrder
  | closeWorkOrder

def WorkOrderRequest.call : WorkOrderRequest → WorkOrderCall
  | .assignWorkOrder none => .answered (.badRequest "invalid JSON body")
  | .assignWorkOrder (some assignee) => .loading .assigned assignee
  | .startWorkOrder => .loading .inProgress none
  | .holdWorkOrder => .loading .onHold none
  | .closeWorkOrder => .loading .closed none

/-- The call after its SELECT has read `current`. -/
def checkTransition (current target : WorkOrderStatus) (assignee : Option String) : WorkOrderCall :=
  if current = target then
    .answered (.conflict ("work order already in status " ++ target.text))
  else if target ∉ current.workOrderTransitions then
    .answered (.conflict
      ("invalid status transition from " ++ current.text ++ " to " ++ target.text))
  else if target = .assigned ∧ assignee.getD "" = "" then
    .answered (.badRequest "assignee is required when assigning a work order")
  else .updating current target (assignee.getD "")

/-- **The check**: what goes on to the UPDATE is an edge from the status read. -/
lemma checkTransition_updating {current target : WorkOrderStatus} {assignee : Option String}
    {c t : WorkOrderStatus} {a : String}
    (h : checkTransition current target assignee = .updating c t a) :
    t ∈ c.workOrderTransitions := by
  rw [checkTransition] at h
  split_ifs at h with hsame hedge hassignee
  cases h
  exact hedge

/-- `strayed` is not stored: the status was changed along no edge. -/
structure WorkOrderSystem where
  row : WorkOrder
  calls : List WorkOrderCall
  strayed : Bool

namespace WorkOrderSystem

def init (assignee : Option String) : WorkOrderSystem := ⟨createWorkOrder assignee, [], false⟩

variable (s : WorkOrderSystem)

def setCall (i : ℕ) (c : WorkOrderCall) : WorkOrderSystem :=
  { s with calls := s.calls.set i c }

/-- `taken`: another open work order has the prediction of this one. -/
inductive Event where
  | start (r : WorkOrderRequest)
  | load (i : ℕ)
  | update (i : ℕ) (now : ℤ) (taken : Bool)

def write (now : ℤ) (target : WorkOrderStatus) (assignee : String) : WorkOrderSystem :=
  { s with
    row := s.row.transition now target assignee
    strayed := s.strayed || !decide (s.row.status.Leads target) }

/-- An UPDATE that opens a closed work order is refused if another open one has its prediction. -/
def Refused (target : WorkOrderStatus) (taken : Bool) : Prop :=
  taken = true ∧ s.row.status = .closed ∧ target ≠ .closed
  deriving Decidable

def step : Event → Option WorkOrderSystem
  | .start r => some { s with calls := s.calls ++ [r.call] }
  | .load i =>
    match s.calls[i]? with
    | some (.loading target assignee) =>
      some (s.setCall i (checkTransition s.row.status target assignee))
    | _ => none
  | .update i now taken =>
    match s.calls[i]? with
    | some (.updating _ target assignee) =>
      if s.Refused target taken then some (s.setCall i (.answered .internal))
      else some ((s.write now target assignee).setCall i (.answered .ok))
    | _ => none

/-- Every change was an edge, and only a closed work order has a `closed_at`. -/
structure OnCourse : Prop where
  edges : s.strayed = false
  closed : s.row.closedAt ≠ none → s.row.status = .closed

/-- An UPDATE that is carried out finds the status that its call has read. -/
def Fresh : Event → Prop
  | .update i _ taken =>
    match s.calls[i]? with
    | some (.updating current target _) => s.Refused target taken ∨ s.row.status = current
    | _ => True
  | _ => True

instance (e) : Decidable (s.Fresh e) := by
  unfold Fresh; (repeat' split) <;> infer_instance

/-- On course, and every call about to write has looked its move up. -/
structure Checked : Prop where
  course : s.OnCourse
  edge : ∀ c ∈ s.calls, ∀ current target assignee, c = .updating current target assignee →
    target ∈ current.workOrderTransitions

variable {s t : WorkOrderSystem}

/-! ## One step -/

lemma OnCourse.write (hs : s.OnCourse) {target : WorkOrderStatus} (h : s.row.status.Leads target)
    (now : ℤ) (assignee : String) : (s.write now target assignee).OnCourse := by
  refine ⟨by simp [WorkOrderSystem.write, hs.edges, h], fun hclosed => ?_⟩
  have hstatus : (s.row.transition now target assignee).status = target := by cases target <;> rfl
  refine hstatus.trans ?_
  by_contra hne
  -- the work order was not closed, since `closed` leads nowhere else
  have hsame : s.row.closedAt ≠ none := by
    cases target with
    | closed => exact absurd rfl hne
    | _ => exact hclosed
  have hleads := h
  rw [hs.closed hsame] at hleads
  exact hne hleads.eq_closed

lemma step_update {i : ℕ} {now : ℤ} {taken : Bool} (h : step s (.update i now taken) = some t) :
    ∃ current target assignee, s.calls[i]? = some (.updating current target assignee) ∧
      (s.Refused target taken ∧ t = s.setCall i (.answered .internal) ∨
        ¬ s.Refused target taken ∧ t = (s.write now target assignee).setCall i
        (.answered .ok)) := by
  simp only [step] at h
  split at h
  · next current target assignee hi =>
      refine ⟨current, target, assignee, hi, ?_⟩
      split_ifs at h with hrefused
      · exact .inl ⟨hrefused, (Option.some.inj h).symm⟩
      · exact .inr ⟨hrefused, (Option.some.inj h).symm⟩
  · cases h

lemma WorkOrderRequest.call_ne_updating (r : WorkOrderRequest) (current target : WorkOrderStatus)
    (assignee : String) : r.call ≠ .updating current target assignee := by
  rcases r with (- | -) | - | - | - <;> exact nofun

lemma Checked.step (hs : s.Checked) {e : Event} (hok : s.Fresh e)
    (h : WorkOrderSystem.step s e = some t) : t.Checked := by
  cases e with
  | start r =>
    cases h
    refine ⟨⟨hs.course.edges, hs.course.closed⟩, forall_mem_concat hs.edge fun c t a hr => ?_⟩
    exact absurd hr (WorkOrderRequest.call_ne_updating r c t a)
  | load i =>
    simp only [WorkOrderSystem.step] at h
    split at h
    · cases h
      exact ⟨⟨hs.course.edges, hs.course.closed⟩,
        forall_mem_set hs.edge fun _ _ _ => checkTransition_updating⟩
    · cases h
  | update i now taken =>
    obtain ⟨current, target, assignee, hi, ⟨-, rfl⟩ | ⟨hnot, rfl⟩⟩ := step_update h
    · exact ⟨⟨hs.course.edges, hs.course.closed⟩, forall_mem_set hs.edge nofun⟩
    · simp only [Fresh, hi] at hok
      have hedge := hs.edge _ (List.mem_of_getElem? hi) current target assignee rfl
      rw [← hok.resolve_left hnot] at hedge
      have hwrite := hs.course.write (.inr hedge) now assignee
      exact ⟨⟨hwrite.edges, hwrite.closed⟩, forall_mem_set hs.edge nofun⟩

/-- **When a work order follows its lifecycle**: in any run in which every UPDATE finds the status
that its call has read, every change is an edge of `workOrderTransitions` and only a closed work
order has a `closed_at`. -/
theorem work_order_follows_lifecycle (assignee : Option String) {es : List Event}
    (hfresh : Meets step Fresh (init assignee) es) :
    Throughout step OnCourse (init assignee) es := by
  have hinit : (init assignee).Checked := ⟨⟨rfl, nofun⟩, fun c hc => absurd hc List.not_mem_nil⟩
  exact hfresh.throughout (fun _ hs => hs.course) (fun _ _ _ hs => hs.step) hinit

def oneAfterAnother : List Event := [.start (.assignWorkOrder (some (some "ada"))), .load 0,
  .update 0 0 false, .start .startWorkOrder, .load 1, .update 1 1 false, .start .holdWorkOrder,
  .load 2, .update 2 2 false, .start .closeWorkOrder, .load 3, .update 3 3 false]

theorem work_order_one_after_another : ∃ t, run step (init none) oneAfterAnother = some t ∧
      t.row = ⟨.closed, some "ada", some 1, some 3⟩ ∧
      Throughout step OnCourse (init none) oneAfterAnother := by
  obtain ⟨t, ht, hrow⟩ : ∃ t, run step (init none) oneAfterAnother = some t ∧
      t.row = ⟨.closed, some "ada", some 1, some 3⟩ := by decide +kernel
  exact ⟨t, ht, hrow, work_order_follows_lifecycle none (by decide +kernel)⟩

def startAndClose : List Event := [.start .startWorkOrder, .start .closeWorkOrder, .load 0, .load 1,
  .update 1 0 false, .update 0 1 false]

/-- **A closed work order is in progress again**, with its `closed_at`. -/
theorem closed_work_order_restarted :
    ((run step (init none) (startAndClose.take 5)).map row) = some ⟨.closed, none, none, some 0⟩ ∧
      ((run step (init none) startAndClose).map row) =
      some ⟨.inProgress, none, some 1, some 0⟩ := by
  decide +kernel

end WorkOrderSystem

end H2Fleet.Infra
