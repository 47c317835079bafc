import H2Fleet.Core.Interaction
import H2Fleet.Infra.Dispatch

/-!
# Demand-responsive transport

`handlers/drt.go` and `consumers/drt.go` of the citizen-api: the programs that write
`citizen.drt_requests`, one SQL statement after another.

**Outside the repository.**  Postgres executes one statement at a time.  `PickVehicle` gets any of
the nearest vehicles, as the ORDER BY leaves ties open; a vehicle without telemetry is at the
distance `⊤`, which is NULLS LAST.  Every statement can fail, before it was executed or after
(`Fault`).

**Events.**  `drt.requested` can be delivered to `AutoAssign` at any time, any number of times, with
any content; a failure to publish is only logged, and left out.
-/

namespace H2Fleet.Citizen

open Infra (Reply Job)

/-! ## Tables -/

inductive DrtStatus where
  | requested
  | assigned
  | enroute
  | completed
  | cancelled
  deriving DecidableEq

def DrtStatus.text : DrtStatus → String
  | .requested => "requested"
  | .assigned => "assigned"
  | .enroute => "enroute"
  | .completed => "completed"
  | .cancelled => "cancelled"

structure Point where
  lat : ℚ
  lon : ℚ

/-- `DRTRequest`; its id is its index. -/
structure DrtRequest where
  userSub : String
  requiresWheelchair : Bool
  vehicleID : Option String
  driverSub : Option String
  assignedAt : Option ℤ
  status : DrtStatus
  deriving DecidableEq

def DrtRequest.Serves (r : DrtRequest) (vehicle : String) : Prop :=
  r.vehicleID = some vehicle ∧ (r.status = .assigned ∨ r.status = .enroute)
  deriving Decidable

/-- A row of `fleet.vehicles`. -/
structure Vehicle where
  id : String
  status : String
  wheelchairAccessible : Bool
  deriving DecidableEq

/-- `distance` is that of the latest position of a vehicle. -/
structure World where
  requests : List DrtRequest
  vehicles : List Vehicle
  jobs : List Job
  distance : String → Point → WithTop ℚ
  now : ℤ

/-- `dispatchBusyWindowMinutes`, in microseconds. -/
def busyWindow : ℤ := 30 * 60 * 1000000

namespace World

/-- The vehicle is on an active dispatch job, or within 30 minutes of one. -/
def Busy (w : World) (vehicle : String) : Prop :=
  ∃ j ∈ w.jobs, j.vehicleID = some vehicle ∧ j.status.Active ∧
    (∀ t ∈ j.startsAt, t < w.now + busyWindow) ∧ ∀ t ∈ j.endsAt, w.now < t
  deriving Decidable

/-- The WHERE clause of `PickVehicle`. -/
def Available (w : World) (requiresWheelchair : Bool) (v : Vehicle) : Prop :=
  v.status = "active" ∧ (requiresWheelchair = true → v.wheelchairAccessible = true) ∧
    (∀ r ∈ w.requests, ¬ r.Serves v.id) ∧ ¬ w.Busy v.id
  deriving Decidable

/-- `v` can come first in the order of `PickVehicle`. -/
def Nearest (w : World) (pickup : Point) (requiresWheelchair : Bool) (v : Vehicle) : Prop :=
  w.Available requiresWheelchair v ∧ ∀ u ∈ w.vehicles, w.Available requiresWheelchair u →
    w.distance v.id pickup ≤ w.distance u.id pickup
  deriving Decidable

end World

/-! ## Statements -/

/-- The two progressions of `ProgressDRTRequest`. -/
inductive Progression where
  | start
  | complete

/-- `from` and `to`. -/
def Progression.before : Progression → DrtStatus
  | .start => .assigned
  | .complete => .enroute

def Progression.after : Progression → DrtStatus
  | .start => .enroute
  | .complete => .completed

inductive Statement where
  | insertRequest (userSub : String) (requiresWheelchair : Bool)
  | selectRequest (id : ℕ)
  | cancelRequest (id : ℕ)
  | validateVehicle (id : ℕ) (vehicle : String)
  | assignVehicle (id : ℕ) (vehicle : String) (driver : Option String)
  | progressRequest (id : ℕ) (p : Progression)
  | selectWheelchair (id : ℕ)
  | selectVehicle (pickup : Point) (requiresWheelchair : Bool)

/-- The outcome of the CASE in `validateAssignVehicle`. -/
inductive Reason where
  | noRequest
  | noVehicle
  | wheelchair
  | dispatch
  | none

/-- `pgx.ErrNoRows`, a violation of a foreign key, or any other error. -/
inductive DbError where
  | noRows
  | foreignKey
  | failed

@[reducible] def Value : Statement → Type
  | .insertRequest _ _ => DrtRequest
  | .selectRequest _ => DrtRequest
  | .cancelRequest _ => DrtRequest
  | .validateVehicle _ _ => Reason
  | .assignVehicle _ _ _ => ℕ
  | .progressRequest _ _ => DrtRequest
  | .selectWheelchair _ => Bool
  | .selectVehicle _ _ => String

abbrev Answer (q : Statement) : Type := Except DbError (Value q)

inductive Fault where
  | none
  | refused
  | lost
  deriving DecidableEq

/-- What the environment decides: whether the statement fails, and which vehicle comes first. -/
structure Choice where
  fault : Fault
  vehicle : Option Vehicle

def Choice.done : Choice := ⟨.none, none⟩

namespace World

variable (w : World)

def setRequest (id : ℕ) (r : DrtRequest) : World :=
  { w with requests := w.requests.set id r }

/-- `UPDATE … WHERE id = $1 AND p RETURNING …`. -/
def updateRequest (id : ℕ) (p : DrtRequest → Bool) (f : DrtRequest → DrtRequest) :
    World × Except DbError DrtRequest :=
  match w.requests[id]? with
  | some r => if p r then (w.setRequest id (f r), .ok (f r)) else (w, .error .noRows)
  | none => (w, .error .noRows)

/-- The UPDATE of `AssignDRT`, with the foreign key on `vehicle_id`. -/
def assign (id : ℕ) (vehicle : String) (driver : Option String) : World × Except DbError ℕ :=
  match w.requests[id]? with
  | some r =>
    if r.status = .requested then
      if ∃ v ∈ w.vehicles, v.id = vehicle then
        (w.setRequest id ⟨r.userSub, r.requiresWheelchair, some vehicle, driver, some w.now,
          .assigned⟩, .ok 1)
      else (w, .error .foreignKey)
    else (w, .ok 0)
  | none => (w, .ok 0)

/-- The CASE of `validateAssignVehicle`. -/
def validate (id : ℕ) (vehicle : String) : Reason :=
  match w.requests[id]?, w.vehicles.find? (·.id = vehicle) with
  | none, _ => .noRequest
  | some _, none => .noVehicle
  | some r, some v =>
    if r.requiresWheelchair && !v.wheelchairAccessible then .wheelchair
    else if w.Busy vehicle then .dispatch
    else .none

/-- A statement as Postgres executes it. -/
def perform : (q : Statement) → Choice → Option (World × Answer q)
  | .insertRequest userSub requiresWheelchair, _ =>
    let r : DrtRequest := ⟨userSub, requiresWheelchair, none, none, none, .requested⟩
    some ({ w with requests := w.requests ++ [r] }, .ok r)
  | .selectRequest id, _ =>
    some (w, match w.requests[id]? with | some r => .ok r | none => .error .noRows)
  | .cancelRequest id, _ =>
    some (w.updateRequest id (fun r => r.status = .requested || r.status = .assigned)
      fun r => { r with status := .cancelled })
  | .validateVehicle id vehicle, _ => some (w, .ok (w.validate id vehicle))
  | .assignVehicle id vehicle driver, _ => some (w.assign id vehicle driver)
  | .progressRequest id p, _ =>
    some (w.updateRequest id (fun r => r.status = p.before) fun r => { r with status := p.after })
  | .selectWheelchair id, _ =>
    some (w, match w.requests[id]? with
      | some r => .ok r.requiresWheelchair
      | none => .error .noRows)
  | .selectVehicle pickup requiresWheelchair, x =>
    match x.vehicle with
    | some v =>
      if v ∈ w.vehicles ∧ w.Nearest pickup requiresWheelchair v then some (w, .ok v.id) else none
    | none =>
      if ∀ v ∈ w.vehicles, ¬ w.Available requiresWheelchair v then some (w, .error .noRows)
      else none

def answer (q : Statement) (x : Choice) : Option (World × Answer q) :=
  match x.fault with
  | .none => w.perform q x
  | .refused => some (w, .error .failed)
  | .lost => (w.perform q x).map fun p => (p.1, .error .failed)

end World

/-! ## Handlers -/

/-- The end of a handler, or of the consumption of an event, committed or not. -/
inductive Ended where
  | reply (r : Reply)
  | committed
  | uncommitted

abbrev Handler (α : Type) := Prog Answer α

def ask (q : Statement) : Handler (Answer q) := Prog.query q

/-- `createDRTRequest`, without the labels. -/
structure CreateBody where
  pickup : Point
  passengers : ℤ
  requiresWheelchair : Bool

def createDRTRequest (sub : String) : Option CreateBody → Handler Ended
  | none => pure (.reply (.badRequest "invalid JSON body"))
  | some req =>
    if req.pickup.lat = 0 ∧ req.pickup.lon = 0 then
      pure (.reply (.badRequest "pickup \x7blat,lon\x7d is required"))
    else if req.passengers < 0 ∨ req.passengers > 20 then
      pure (.reply (.badRequest "passengers must be between 1 and 20"))
    else if sub = "" then pure (.reply (.unauthorized "authenticated subject required"))
    else do
      match ← ask (.insertRequest sub req.requiresWheelchair) with
      | .ok _ => pure (.reply .created)
      | .error _ => pure (.reply .internal)

/-- `staff`: the caller is an operator or a platform admin. -/
def cancelDRTRequest (id : ℕ) (sub : String) (staff : Bool) : Handler Ended := do
  match ← ask (.selectRequest id) with
  | .error .noRows => pure (.reply (.notFound "request not found"))
  | .error _ => pure (.reply .internal)
  | .ok d =>
    if d.userSub ≠ sub ∧ staff = false then pure (.reply (.notFound "request not found"))
    else if d.status ≠ .requested ∧ d.status ≠ .assigned then
      pure (.reply (.conflict ("request cannot be cancelled in status " ++ d.status.text)))
    else
      match ← ask (.cancelRequest id) with
      | .ok _ => pure (.reply .ok)
      | .error _ => pure (.reply .internal)

inductive AssignError where
  | notAssignable
  | unknownVehicle
  | wheelchairMismatch
  | vehicleBusy
  | db (e : DbError)

def validateAssignVehicle (id : ℕ) (vehicle : String) : Handler (Except AssignError Unit) := do
  match ← ask (.validateVehicle id vehicle) with
  | .error e => pure (.error (.db e))
  | .ok .noRequest => pure (.error .notAssignable)
  | .ok .noVehicle => pure (.error .unknownVehicle)
  | .ok .wheelchair => pure (.error .wheelchairMismatch)
  | .ok .dispatch => pure (.error .vehicleBusy)
  | .ok .none => pure (.ok ())

def assignDRT (id : ℕ) (vehicle driver : String) : Handler (Except AssignError Unit) := do
  match ← validateAssignVehicle id vehicle with
  | .error e => pure (.error e)
  | .ok () =>
    match ← ask (.assignVehicle id vehicle (if driver = "" then none else some driver)) with
    | .error e => pure (.error (.db e))
    | .ok affected =>
      if affected = 0 then pure (.error .notAssignable) else pure (.ok ())

/-- The body has `vehicle_id` and `driver_sub`. -/
def assignDRTRequest (id : ℕ) : Option (String × String) → Handler Ended
  | none => pure (.reply (.badRequest "body must include \"vehicle_id\""))
  | some (vehicle, driver) =>
    if vehicle = "" then pure (.reply (.badRequest "body must include \"vehicle_id\""))
    else do
      match ← assignDRT id vehicle driver with
      | .error .notAssignable =>
        pure (.reply (.conflict "request not found or not in requested status"))
      | .error .wheelchairMismatch =>
        pure (.reply (.unprocessable "request requires a wheelchair-accessible vehicle"))
      | .error .vehicleBusy =>
        pure (.reply (.conflict "vehicle has an overlapping active dispatch job"))
      | .error .unknownVehicle | .error (.db .foreignKey) =>
        pure (.reply (.unprocessable "vehicle_id does not reference a known vehicle"))
      | .error (.db _) => pure (.reply .internal)
      | .ok () =>
        match ← ask (.selectRequest id) with
        | .ok _ => pure (.reply .ok)
        | .error _ => pure (.reply .internal)

/-- `none`: the path ends neither in `/start` nor in `/complete`. -/
def progressDRTRequest (id : ℕ) : Option Progression → Handler Ended
  | none => pure (.reply (.notFound "unknown DRT progression"))
  | some p => do
    match ← ask (.progressRequest id p) with
    | .ok _ => pure (.reply .ok)
    | .error .noRows =>
      pure (.reply (.conflict ("request not found or not in " ++ p.before.text ++ " status")))
    | .error _ => pure (.reply .internal)

/-- The payload of `drt.requested`; a `request_id` may be missing. -/
structure DrtRequested where
  requestID : Option ℕ
  pickup : Point

def pickVehicle (pickup : Point) (requiresWheelchair : Bool) : Handler (Except DbError String) :=
  ask (.selectVehicle pickup requiresWheelchair)

def autoAssign (e : DrtRequested) : Handler Ended :=
  match e.requestID with
  | none => pure .uncommitted
  | some id => do
    match ← ask (.selectWheelchair id) with
    | .error .noRows => pure .committed
    | .error _ => pure .uncommitted
    | .ok requiresWheelchair =>
      match ← pickVehicle e.pickup requiresWheelchair with
      | .error .noRows => pure .committed
      | .error _ => pure .uncommitted
      | .ok vehicle =>
        match ← assignDRT id vehicle "" with
        | .ok () | .error .notAssignable | .error .vehicleBusy
        | .error .wheelchairMismatch => pure .committed
        | .error .unknownVehicle | .error (.db _) => pure .uncommitted

/-! ## Runs -/

inductive Entry where
  | createDRTRequest (sub : String) (body : Option CreateBody)
  | cancelDRTRequest (id : ℕ) (sub : String) (staff : Bool)
  | assignDRTRequest (id : ℕ) (body : Option (String × String))
  | progressDRTRequest (id : ℕ) (p : Option Progression)
  | autoAssign (e : DrtRequested)

def program : Entry → Handler Ended
  | .createDRTRequest sub body => Citizen.createDRTRequest sub body
  | .cancelDRTRequest id sub staff => Citizen.cancelDRTRequest id sub staff
  | .assignDRTRequest id body => Citizen.assignDRTRequest id body
  | .progressDRTRequest id p => Citizen.progressDRTRequest id p
  | .autoAssign e => Citizen.autoAssign e

/-- Fleet, jobs and positions change, time goes on, an erasure replaces a rider. -/
inductive Ambient where
  | fleet (vehicles : List Vehicle) (jobs : List Job) (distance : String → Point → WithTop ℚ)
  | tick (d : ℕ)
  | erase (sub marker : String)

def World.ambient (w : World) : Ambient → Option World
  | .fleet vehicles jobs distance =>
    some { w with vehicles := vehicles, jobs := jobs, distance := distance }
  | .tick d => some { w with now := w.now + d }
  | .erase sub marker =>
    some { w with requests := w.requests.map fun r =>
      if r.userSub = sub then { r with userSub := marker } else r }

/-- The DRT part of the citizen-api. -/
def service : Service World Answer Ended Entry Choice Ambient where
  program := program
  answer := World.answer
  ambient := World.ambient

abbrev Calls := Pool World Answer Ended

abbrev Event := PoolEvent Entry Choice Ambient

def step : Calls → Event → Option Calls := service.step

def start (vehicles : List Vehicle) (jobs : List Job) (distance : String → Point → WithTop ℚ)
    (now : ℤ) : Calls :=
  ⟨⟨[], vehicles, jobs, distance, now⟩, fun _ => none⟩

/-! ## What a step does to a request -/

inductive DrtRequest.Change (r : DrtRequest) : DrtRequest → Prop
  | same : Change r r
  | cancelled (h : r.status = .requested ∨ r.status = .assigned) :
      Change r { r with status := .cancelled }
  | assigned (vehicle : String) (driver : Option String) (now : ℤ) (h : r.status = .requested) :
      Change r ⟨r.userSub, r.requiresWheelchair, some vehicle, driver, some now, .assigned⟩
  | progressed (p : Progression) (h : r.status = p.before) : Change r { r with status := p.after }
  | erased (marker : String) : Change r { r with userSub := marker }

/-- Every request is there, changed at most as `Change` says; others are new. -/
structure World.Changes (w w' : World) : Prop where
  old : ∀ (id : ℕ) (r : DrtRequest), w.requests[id]? = some r →
    ∃ r', w'.requests[id]? = some r' ∧ r.Change r'
  new : ∀ (id : ℕ) (r' : DrtRequest), w'.requests[id]? = some r' →
    (∃ r, w.requests[id]? = some r ∧ r.Change r') ∨ r'.status = .requested ∧ r'.vehicleID = none

namespace World

variable {w w' : World}

lemma Changes.of_eq (h : w'.requests = w.requests) : w.Changes w' := by
  refine ⟨fun id r hr => ⟨r, h ▸ hr, .same⟩, fun id r' hr' => .inl ⟨r', h ▸ hr', .same⟩⟩

lemma Changes.setRequest {id : ℕ} {r r' : DrtRequest} (hr : w.requests[id]? = some r)
    (h : r.Change r') : w.Changes (w.setRequest id r') := by
  refine ⟨fun j s hs => ?_, fun j s hs => .inl ?_⟩
  · by_cases hj : j = id
    · subst hj
      cases hr.symm.trans hs
      exact ⟨r', List.getElem?_set_self (List.getElem?_eq_some_iff.mp hr).1, h⟩
    · exact ⟨s, getElem?_set_other hj hs, .same⟩
  · rcases getElem?_set_cases hs with ⟨rfl, rfl⟩ | ⟨-, hold⟩
    · exact ⟨r, hr, h⟩
    · exact ⟨s, hold, .same⟩

lemma Changes.updateRequest {id : ℕ} {p : DrtRequest → Bool} {f : DrtRequest → DrtRequest}
    (h : ∀ r, p r = true → r.Change (f r)) : w.Changes (w.updateRequest id p f).1 := by
  unfold World.updateRequest
  split
  · next r hr =>
      split_ifs with hp
      · exact .setRequest hr (h r hp)
      · exact .of_eq rfl
  · exact .of_eq rfl

lemma Changes.assign {id : ℕ} {vehicle : String} {driver : Option String} :
    w.Changes (w.assign id vehicle driver).1 := by
  unfold World.assign
  split
  · next r hr =>
      split_ifs with hstatus hknown
      · exact .setRequest hr (.assigned vehicle driver w.now hstatus)
      · exact .of_eq rfl
      · exact .of_eq rfl
  · exact .of_eq rfl

lemma Changes.insert {r : DrtRequest} (hstatus : r.status = .requested) (hv : r.vehicleID = none) :
    w.Changes { w with requests := w.requests ++ [r] } := by
  refine ⟨fun id s hs => ⟨s, getElem?_append_old hs, .same⟩, fun id s hs => ?_⟩
  rcases getElem?_append_cases hs with ⟨-, rfl⟩ | hold
  · exact .inr ⟨hstatus, hv⟩
  · exact .inl ⟨s, hold, .same⟩

variable {q : Statement} {x : Choice} {a : Answer q}

lemma perform_changes (h : w.perform q x = some (w', a)) : w.Changes w' := by
  have hfst : ∀ {p : World × Answer q}, some p = some (w', a) → w' = p.1 :=
    fun hp => (congrArg Prod.fst (Option.some.inj hp)).symm
  cases q with
  | insertRequest userSub requiresWheelchair => exact hfst h ▸ .insert rfl rfl
  | selectRequest id => exact hfst h ▸ .of_eq rfl
  | cancelRequest id =>
    exact hfst h ▸ .updateRequest fun r hr => .cancelled (by simpa using hr)
  | validateVehicle id vehicle => exact hfst h ▸ .of_eq rfl
  | assignVehicle id vehicle driver => exact hfst h ▸ .assign
  | progressRequest id p =>
    exact hfst h ▸ .updateRequest fun r hr => .progressed p (by simpa using hr)
  | selectWheelchair id => exact hfst h ▸ .of_eq rfl
  | selectVehicle pickup requiresWheelchair =>
    simp only [perform] at h
    split at h
    · split_ifs at h
      exact hfst h ▸ .of_eq rfl
    · split_ifs at h
      exact hfst h ▸ .of_eq rfl

lemma answer_world (h : w.answer q x = some (w', a)) :
    (x.fault = .refused ∧ w' = w) ∨ (x.fault ≠ .refused ∧ ∃ a', w.perform q x = some (w', a')) := by
  unfold answer at h
  split at h
  · next hx => exact .inr ⟨by simp [hx], a, h⟩
  · next hx => exact .inl ⟨hx, (congrArg Prod.fst (Option.some.inj h)).symm⟩
  · next hx =>
      obtain ⟨⟨w₁, b⟩, hb, heq⟩ := Option.map_eq_some_iff.mp h
      obtain rfl : w₁ = w' := congrArg Prod.fst heq
      exact .inr ⟨by simp [hx], b, hb⟩

lemma answer_changes (h : w.answer q x = some (w', a)) : w.Changes w' := by
  rcases answer_world h with ⟨-, rfl⟩ | ⟨-, a', ha'⟩
  · exact .of_eq rfl
  · exact perform_changes ha'

lemma ambient_changes {v : Ambient} (h : w.ambient v = some w') : w.Changes w' := by
  cases v with
  | fleet | tick => exact Option.some.inj h ▸ .of_eq rfl
  | erase sub marker =>
    cases h
    have hchange : ∀ r : DrtRequest,
        r.Change (if r.userSub = sub then { r with userSub := marker } else r) := by
      intro r
      split_ifs
      · exact .erased marker
      · exact .same
    refine ⟨fun id r hr => ⟨_, by rw [List.getElem?_map, hr]; rfl, hchange r⟩, fun id r' hr' => ?_⟩
    rw [List.getElem?_map, Option.map_eq_some_iff] at hr'
    obtain ⟨r, hr, rfl⟩ := hr'
    exact .inl ⟨r, hr, hchange r⟩

end World

lemma step_changes {p p' : Calls} {ev : Event} (h : step p ev = some p') :
    p.shared.Changes p'.shared := by
  cases Service.step_move h with
  | start c e hfree => exact .of_eq rfl
  | next c x hist q k w a hcall hanswer => exact World.answer_changes hanswer
  | ambient v w hw => exact World.ambient_changes hw

end H2Fleet.Citizen
