import H2Fleet.Core.Run
import H2Fleet.Core.Slots
import H2Fleet.Infra.Reply

/-!
# Dispatch jobs and charters

`handlers/dispatch.go`, `handlers/charters.go` and the activity `RequeueDispatchJob`, over the
tables `infra.drivers`, `infra.dispatch_jobs`, `infra.charter_bookings` and
`infra.charter_vehicles`.

Every handler writes in one transaction.  What it reads before may be out of date by then: each
handler gets the tables it reads from (`seen`) apart from those it writes to, and `seen` can be
anything.  The rows it changes are locked until it commits, and the unique indexes hold when it
commits.
-/

namespace H2Fleet.Infra

/-! ## Tables -/

inductive JobStatus where
  | assigned
  | accepted
  | inProgress
  | completed
  | cancelled
  | requeued
  deriving DecidableEq

/-- `status IN ('assigned','accepted','in_progress')`. -/
def JobStatus.Active (st : JobStatus) : Prop :=
  st = .assigned ∨ st = .accepted ∨ st = .inProgress
  deriving Decidable

structure Driver where
  sub : String
  status : String
  deriving DecidableEq

/-- `DispatchJob`; its id is its index.  `signalled`: its workflow was sent `job-assigned`. -/
structure Job where
  driverSub : String
  vehicleID : Option String
  route : String
  startsAt : Option ℤ
  endsAt : Option ℤ
  status : JobStatus
  signalled : Bool
  deriving DecidableEq

inductive BookingStatus where
  | confirmed
  | cancelled
  | completed
  deriving DecidableEq

/-- `CharterBooking`; its id is its index. -/
structure Booking where
  reference : String
  customerName : String
  startsAt : ℤ
  endsAt : ℤ
  status : BookingStatus
  deriving DecidableEq

/-- A row of `infra.charter_vehicles`. -/
structure CharterVehicle where
  bookingID : ℕ
  vehicleID : String
  jobID : ℕ
  deriving DecidableEq

structure Dispatch where
  drivers : List Driver
  vehicles : List String
  jobs : List Job
  bookings : List Booking
  links : List CharterVehicle
  deriving DecidableEq

open Dispatch

def Dispatch.init (drivers : List Driver) (vehicles : List String) : Dispatch :=
  ⟨drivers, vehicles, [], [], []⟩

/-! ## Windows -/

/-- `a < b`; a comparison with a null is not true. -/
def sqlLess : Option ℤ → Option ℤ → Bool
  | some a, some b => decide (a < b)
  | _, _ => false

/-- The window of the job in the conflict queries, against `[starts, ends)`. -/
def Job.overlaps (job : Job) (starts ends : Option ℤ) : Bool :=
  (starts.isNone || job.startsAt.isNone || sqlLess job.startsAt ends) &&
    (ends.isNone || job.endsAt.isNone || sqlLess starts job.endsAt)

/-- The job has a moment in common with `[starts, ends)`; a null bound is none. -/
def Job.Intersects (job : Job) (starts ends : ℤ) : Prop :=
  ∃ t, starts ≤ t ∧ t < ends ∧ (∀ s ∈ job.startsAt, s ≤ t) ∧ ∀ e ∈ job.endsAt, t < e

/-- A window with two bounds is not empty. -/
def Job.Proper (job : Job) : Prop := ∀ s ∈ job.startsAt, ∀ e ∈ job.endsAt, s < e
  deriving Decidable

variable {starts ends : ℤ} {db : Dispatch}

lemma Job.intersects_iff {job : Job} : job.Intersects starts ends ↔
    starts < ends ∧ job.Proper ∧ job.overlaps (some starts) (some ends) = true := by
  obtain ⟨_, _, _, js, je, _, _⟩ := job
  constructor
  · rintro ⟨t, h⟩
    cases js <;> cases je <;> simp [Job.Proper, Job.overlaps, sqlLess] at h ⊢ <;> omega
  · intro h
    refine ⟨max starts (js.getD starts), ?_⟩
    cases js <;> cases je <;> simp [Job.Proper, Job.overlaps, sqlLess] at h ⊢ <;> omega

/-- **The conflict queries test for an intersection of half-open windows**, given both bounds. -/
theorem Job.overlaps_iff {job : Job} (hproper : job.Proper) (h : starts < ends) :
    job.overlaps (some starts) (some ends) = true ↔ job.Intersects starts ends := by
  rw [Job.intersects_iff]
  exact ⟨fun hoverlaps => ⟨h, hproper, hoverlaps⟩, fun hmeet => hmeet.2.2⟩

/-! ## The unique indexes -/

def Occupied (jobs : List Job) (driver : String) (vehicle : Option String) : Prop :=
  ∃ job ∈ jobs, job.status.Active ∧
    (job.driverSub = driver ∨ (vehicle ≠ none ∧ job.vehicleID = vehicle))
  deriving Decidable

def Taken (jobs : List Job) (vehicle : String) : Prop :=
  ∃ job ∈ jobs, job.status.Active ∧ job.vehicleID = some vehicle
  deriving Decidable

def Dispatch.HasDriver (db : Dispatch) (sub : String) : Prop := ∃ d ∈ db.drivers, d.sub = sub
  deriving Decidable

/-- 23505 and 23503. -/
inductive SqlError where
  | uniqueViolation
  | foreignKeyViolation

/-- `INSERT INTO infra.dispatch_jobs`; the indexes are checked before the foreign keys. -/
def Dispatch.insertJob (db : Dispatch) (job : Job) : Except SqlError Dispatch :=
  if Occupied db.jobs job.driverSub job.vehicleID then .error .uniqueViolation
  else if ¬ db.HasDriver job.driverSub ∨ ∃ v ∈ job.vehicleID.toList, v ∉ db.vehicles then
    .error .foreignKeyViolation
  else .ok { db with jobs := db.jobs ++ [job] }

def Dispatch.setJob (db : Dispatch) (id : ℕ) (job : Job) : Dispatch :=
  { db with jobs := db.jobs.set id job }

/-! ## `CreateDispatchJob` -/

/-- The settings of the service; `dayStart` and `dayEnd` bound the civic day. -/
structure DispatchConfig where
  maxShiftHours : ℚ
  maxDailyHours : ℚ
  dayStart : ℤ → ℤ
  dayEnd : ℤ → ℤ
  formatFloat : ℚ → ℕ → String

/-- One hour in microseconds. -/
def hour : ℤ := 3600000000

structure JobRequest where
  driverSub : String
  vehicleID : Option String
  route : String
  startsAt : Option ℤ
  endsAt : Option ℤ

def hoursBetween (starts ends : ℤ) : ℚ := ((ends - starts : ℤ) : ℚ) / (hour : ℚ)

variable (cfg : DispatchConfig)

/-- An open-ended job counts as the longest shift. -/
def plannedHours (req : JobRequest) : ℚ :=
  match req.startsAt, req.endsAt with
  | some s, some e => hoursBetween s e
  | _, _ => cfg.maxShiftHours

/-- What a job adds to the total of the driver's day that `t` is in. -/
def Job.hoursOnDay (driver : String) (t : ℤ) (job : Job) : ℚ :=
  match job.startsAt with
  | none => 0
  | some s =>
    if job.driverSub = driver ∧ job.status.Active ∧ cfg.dayStart t ≤ s ∧ s < cfg.dayEnd t then
      hoursBetween s (job.endsAt.getD (s + ⌊cfg.maxShiftHours⌋ * hour))
    else 0

def dayTotal (jobs : List Job) (driver : String) (t : ℤ) : ℚ :=
  (jobs.map (Job.hoursOnDay cfg driver t)).sum

/-- The hours-of-service limits; `none` if they are met. -/
def hoursOfService (jobs : List Job) (req : JobRequest) : Option Reply :=
  let planned := plannedHours cfg req
  if req.startsAt.isSome ∧ req.endsAt.isSome ∧ cfg.maxShiftHours < planned then
    some (.unprocessable ("shift exceeds the hours-of-service limit (" ++
      cfg.formatFloat planned 1 ++ "h > " ++ cfg.formatFloat cfg.maxShiftHours 0 ++ "h max)"))
  else
    match req.startsAt with
    | none => none
    | some s =>
      let total := dayTotal cfg jobs req.driverSub s
      if cfg.maxDailyHours < total + planned then
        some (.unprocessable ("driver daily hours-of-service exceeded (" ++
          cfg.formatFloat total 1 ++ "h scheduled + " ++ cfg.formatFloat planned 1 ++
          "h new > " ++ cfg.formatFloat cfg.maxDailyHours 0 ++ "h max)"))
      else none

/-- The rows of the conflict query. -/
def JobRequest.Conflicts (req : JobRequest) (job : Job) : Prop :=
  job.status.Active ∧
    (job.driverSub = req.driverSub ∨ (req.vehicleID ≠ none ∧ job.vehicleID = req.vehicleID)) ∧
    job.overlaps req.startsAt req.endsAt = true
  deriving Decidable

/-- The row that is inserted; the workflow of the job is told afterwards. -/
def JobRequest.job (req : JobRequest) : Job :=
  ⟨req.driverSub, req.vehicleID, req.route, req.startsAt, req.endsAt, .assigned, true⟩

def createDispatchJob (seen db : Dispatch) (req : JobRequest) : Reply × Dispatch :=
  if req.driverSub = "" then (.badRequest "body must include \"driver_sub\"", db)
  else if ¬ req.job.Proper then (.badRequest "ends_at must be after starts_at", db)
  else
    match hoursOfService cfg seen.jobs req with
    | some r => (r, db)
    | none =>
      match seen.jobs.find? fun job => req.Conflicts job with
      | some job =>
        (if job.driverSub = req.driverSub then
          .conflict "driver already has an overlapping active dispatch job"
        else .conflict "vehicle already assigned to an overlapping active dispatch job", db)
      | none =>
        match db.insertJob req.job with
        | .error .uniqueViolation =>
          (.conflict "driver or vehicle already has an active dispatch job", db)
        | .error .foreignKeyViolation =>
          (.unprocessable "vehicle_id or driver_sub does not reference a known vehicle/driver", db)
        | .ok db' => (.created, db')

/-! ## The other handlers of jobs -/

def acceptDispatchJob (seen db : Dispatch) (id : ℕ) (caller : String) : Reply × Dispatch :=
  if caller = "" then (⟨401, "unauthorized", ""⟩, db)
  else
    match seen.drivers.find? fun d => d.sub = caller with
    | none => (⟨403, "driver not registered (POST /v1/drivers/register first)", ""⟩, db)
    | some driver =>
      if driver.status ≠ "active" then
        (⟨403, "driver is not active (status=" ++ driver.status ++ ")", ""⟩, db)
      else
        match db.jobs[id]? with
        | none => (jobNotFound, db)
        | some job =>
          if job.status = .assigned ∧ job.driverSub = caller then
            (.ok, db.setJob id { job with status := .accepted })
          else (jobNotFound, db)
where
  jobNotFound : Reply :=
    .notFound "job not found, not in assigned status, or assigned to another driver"

def notActive : Reply := .conflict "job not found or not in an active status"

def cancelDispatchJob (db : Dispatch) (id : ℕ) : Reply × Dispatch :=
  match db.jobs[id]? with
  | none => (notActive, db)
  | some job =>
    if job.status.Active then (.ok, db.setJob id { job with status := .cancelled })
    else (notActive, db)

def VehicleBusy (jobs : List Job) (vehicle : String) (starts ends : Option ℤ) : Prop :=
  ∃ job ∈ jobs, job.vehicleID = some vehicle ∧ job.status.Active ∧ job.overlaps starts ends = true
  deriving Decidable

/-- `SwapDispatchVehicle`.  The row is locked when read, so it is read from `db`; the other rows are
not. -/
def swapDispatchVehicle (seen db : Dispatch) (id : ℕ) (vehicleID reason : String) :
    Reply × Dispatch :=
  if vehicleID = "" ∨ reason = "" then
    (.badRequest "body must include \"vehicle_id\" and \"reason\"", db)
  else
    match db.jobs[id]? with
    | none => (notActive, db)
    | some job =>
      if ¬ job.status.Active then (notActive, db)
      else if VehicleBusy (seen.jobs.eraseIdx id) vehicleID job.startsAt job.endsAt then
        (.conflict "vehicle already assigned to an overlapping active dispatch job", db)
      else if Taken (db.jobs.eraseIdx id) vehicleID then (.internal, db)
      else if vehicleID ∉ db.vehicles then
        (.unprocessable "vehicle_id does not reference a known vehicle", db)
      else (.ok, db.setJob id { job with vehicleID := some vehicleID })

def requeueDispatchJob (db : Dispatch) (id : ℕ) : Dispatch :=
  match db.jobs[id]? with
  | none => db
  | some job =>
    if job.status = .assigned then db.setJob id { job with status := .requeued } else db

/-! ## Charters -/

def charterDriverSub (reference vehicleID : String) : String :=
  "charter:" ++ reference ++ ":" ++ vehicleID

structure CharterRequest where
  reference : String
  customerName : String
  startsAt : Option ℤ
  endsAt : Option ℤ
  vehicleIDs : List String

/-- `INSERT INTO infra.drivers … ON CONFLICT (sub) DO NOTHING`. -/
def Dispatch.insertDriver (db : Dispatch) (d : Driver) : Dispatch :=
  if db.HasDriver d.sub then db else { db with drivers := db.drivers ++ [d] }

def charterJob (reference : String) (starts ends : ℤ) (vehicleID : String) : Job :=
  ⟨charterDriverSub reference vehicleID, some vehicleID, "charter:" ++ reference, some starts,
    some ends, .assigned, false⟩

/-- The loop over the vehicles.  The transaction's own jobs are for other vehicles. -/
def bookVehicles (seen : Dispatch) (reference : String) (booking : ℕ) (starts ends : ℤ) :
    List String → Dispatch → Except Reply Dispatch
  | [], tx => .ok tx
  | v :: rest, tx =>
    if VehicleBusy seen.jobs v (some starts) (some ends) then
      .error (.conflict ("vehicle " ++ v ++ " already has an overlapping active dispatch job"))
    else
      match (tx.insertDriver ⟨charterDriverSub reference v, "off-duty"⟩).insertJob
          (charterJob reference starts ends v) with
      | .error .foreignKeyViolation =>
        .error (.unprocessable ("vehicle " ++ v ++ " does not reference a known vehicle"))
      | .error .uniqueViolation =>
        .error (.conflict ("vehicle " ++ v ++ " was booked concurrently"))
      | .ok tx' =>
        bookVehicles seen reference booking starts ends rest
          { tx' with links := tx'.links ++ [⟨booking, v, tx.jobs.length⟩] }

/-- The checks before the transaction: the window, or what is wrong. -/
def checkCharter (req : CharterRequest) : Except Reply (ℤ × ℤ) :=
  if req.reference = "" ∨ req.customerName = "" then
    .error (.badRequest "body must include \"reference\" and \"customer_name\"")
  else
    match req.startsAt, req.endsAt with
    | some starts, some ends =>
      if ¬ starts < ends then .error window
      else if req.vehicleIDs = [] then
        .error (.badRequest "vehicle_ids must name at least one vehicle")
      else if "" ∈ req.vehicleIDs ∨ ¬ req.vehicleIDs.Nodup then
        .error (.badRequest "vehicle_ids must be distinct, non-empty vehicle ids")
      else .ok (starts, ends)
    | _, _ => .error window
where
  window : Reply :=
    .badRequest "starts_at and ends_at are required and ends_at must be after starts_at"

/-- `CreateCharter`: a failed transaction leaves the tables as they were. -/
def createCharter (seen db : Dispatch) (req : CharterRequest) : Reply × Dispatch :=
  match checkCharter req with
  | .error r => (r, db)
  | .ok (starts, ends) =>
    match db.bookings.find? fun b => b.reference = req.reference with
    | some existing =>
      if existing.customerName = req.customerName ∧ existing.startsAt = starts ∧
          existing.endsAt = ends then (.ok, db)
      else (.conflict "reference already used by a different charter booking", db)
    | none =>
      match bookVehicles seen req.reference db.bookings.length starts ends req.vehicleIDs
          { db with
            bookings := db.bookings ++
              [⟨req.reference, req.customerName, starts, ends, .confirmed⟩] } with
      | .error r => (r, db)
      | .ok db' => (.created, db')

def Dispatch.Linked (db : Dispatch) (booking job : ℕ) : Prop :=
  ∃ l ∈ db.links, l.bookingID = booking ∧ l.jobID = job
  deriving Decidable

def Dispatch.cancelLinked (db : Dispatch) (booking : ℕ) (i : ℕ) (job : Job) : Job :=
  if db.Linked booking i ∧ job.status.Active then { job with status := .cancelled } else job

def cancelCharter (db : Dispatch) (id : ℕ) : Reply × Dispatch :=
  match db.bookings[id]? with
  | none => (notConfirmed, db)
  | some b =>
    if b.status = .confirmed then
      (.ok, { db with
        bookings := db.bookings.set id { b with status := .cancelled }
        jobs := db.jobs.mapIdx (db.cancelLinked id) })
    else (notConfirmed, db)
where
  notConfirmed : Reply := .conflict "charter booking not found or not in confirmed status"

/-! ## Calls, one after another -/

inductive DispatchEvent where
  | createJob (seen : Dispatch) (req : JobRequest)
  | acceptJob (seen : Dispatch) (id : ℕ) (caller : String)
  | cancelJob (id : ℕ)
  | swapVehicle (seen : Dispatch) (id : ℕ) (vehicleID reason : String)
  | createCharter (seen : Dispatch) (req : CharterRequest)
  | cancelCharter (id : ℕ)
  | requeueJob (id : ℕ)

/-- A call, or a timer of the workflow, which runs for jobs it was told of. -/
def Dispatch.step (cfg : DispatchConfig) (db : Dispatch) : DispatchEvent → Option Dispatch
  | .createJob seen req => some (createDispatchJob cfg seen db req).2
  | .acceptJob seen id caller => some (acceptDispatchJob seen db id caller).2
  | .cancelJob id => some (cancelDispatchJob db id).2
  | .swapVehicle seen id vehicleID reason =>
    some (swapDispatchVehicle seen db id vehicleID reason).2
  | .createCharter seen req => some (H2Fleet.Infra.createCharter seen db req).2
  | .cancelCharter id => some (H2Fleet.Infra.cancelCharter db id).2
  | .requeueJob id =>
    if (db.jobs[id]?).any Job.signalled then some (requeueDispatchJob db id) else none

/-! ## What the handlers write -/

lemma insertJob_eq_ok {db' : Dispatch} {job : Job} (h : db.insertJob job = .ok db') :
    db' = { db with jobs := db.jobs ++ [job] } := by
  simp only [insertJob] at h
  split_ifs at h
  exact (Except.ok.inj h).symm

@[simp] lemma insertDriver_jobs (db : Dispatch) (d : Driver) :
    (db.insertDriver d).jobs = db.jobs := by
  rw [insertDriver]
  split_ifs <;> rfl

@[simp] lemma insertDriver_vehicles (db : Dispatch) (d : Driver) :
    (db.insertDriver d).vehicles = db.vehicles := by
  rw [insertDriver]
  split_ifs <;> rfl

@[simp] lemma insertDriver_bookings (db : Dispatch) (d : Driver) :
    (db.insertDriver d).bookings = db.bookings := by
  rw [insertDriver]
  split_ifs <;> rfl

@[simp] lemma insertDriver_links (db : Dispatch) (d : Driver) :
    (db.insertDriver d).links = db.links := by
  rw [insertDriver]
  split_ifs <;> rfl

lemma hasDriver_insertDriver (db : Dispatch) (d : Driver) :
    (db.insertDriver d).HasDriver d.sub := by
  rw [insertDriver]
  split_ifs with h
  · exact h
  · exact ⟨d, by simp, rfl⟩

def Dispatch.withVehicle (tx : Dispatch) (reference : String) (booking : ℕ) (starts ends : ℤ)
    (v : String) : Dispatch :=
  { tx.insertDriver ⟨charterDriverSub reference v, "off-duty"⟩ with
    jobs := tx.jobs ++ [charterJob reference starts ends v]
    links := tx.links ++ [⟨booking, v, tx.jobs.length⟩] }

@[simp] lemma withVehicle_vehicles (tx : Dispatch) (reference : String) (booking : ℕ)
    (starts ends : ℤ) (v : String) :
    (tx.withVehicle reference booking starts ends v).vehicles = tx.vehicles :=
  insertDriver_vehicles tx _

@[simp] lemma withVehicle_bookings (tx : Dispatch) (reference : String) (booking : ℕ)
    (starts ends : ℤ) (v : String) :
    (tx.withVehicle reference booking starts ends v).bookings = tx.bookings :=
  insertDriver_bookings tx _

section Loop

variable {seen tx db' : Dispatch} {reference v : String} {booking : ℕ} {starts ends : ℤ}
  {rest : List String}

lemma bookVehicles_cons_eq_ok
    (h : bookVehicles seen reference booking starts ends (v :: rest) tx = .ok db') :
    bookVehicles seen reference booking starts ends rest
      (tx.withVehicle reference booking starts ends v) = .ok db' := by
  rw [bookVehicles] at h
  split_ifs at h
  split at h
  · cases h
  · cases h
  · next tx' hinsert =>
      obtain rfl := insertJob_eq_ok hinsert
      rw [insertDriver_jobs, insertDriver_links] at h
      exact h

lemma bookVehicles_cons_occupied (hbusy : ¬ VehicleBusy seen.jobs v (some starts) (some ends))
    (h : Occupied tx.jobs (charterDriverSub reference v) (some v)) :
    bookVehicles seen reference booking starts ends (v :: rest) tx =
      .error (.conflict ("vehicle " ++ v ++ " was booked concurrently")) := by
  have hjob : Occupied tx.jobs (charterJob reference starts ends v).driverSub
      (charterJob reference starts ends v).vehicleID := h
  rw [bookVehicles, if_neg hbusy, insertJob, insertDriver_jobs, if_pos hjob]

lemma bookVehicles_cons (hbusy : ¬ VehicleBusy seen.jobs v (some starts) (some ends))
    (h : ¬ Occupied tx.jobs (charterDriverSub reference v) (some v)) (hv : v ∈ tx.vehicles) :
    bookVehicles seen reference booking starts ends (v :: rest) tx =
      bookVehicles seen reference booking starts ends rest
        (tx.withVehicle reference booking starts ends v) := by
  have hjob : ¬ Occupied tx.jobs (charterJob reference starts ends v).driverSub
      (charterJob reference starts ends v).vehicleID := h
  have hkeys : ¬ (¬ (tx.insertDriver ⟨charterDriverSub reference v, "off-duty"⟩).HasDriver
        (charterJob reference starts ends v).driverSub ∨
      ∃ u ∈ (charterJob reference starts ends v).vehicleID.toList,
        u ∉ (tx.insertDriver ⟨charterDriverSub reference v, "off-duty"⟩).vehicles) := by
    rintro (hdriver | ⟨u, hu, hunknown⟩)
    · exact hdriver (hasDriver_insertDriver tx _)
    · obtain rfl : u = v := by simpa [charterJob] using hu
      rw [insertDriver_vehicles] at hunknown
      exact hunknown hv
  rw [bookVehicles, if_neg hbusy, insertJob, insertDriver_jobs, if_neg hjob, if_neg hkeys]
  simp only [insertDriver_links]
  rfl

end Loop

lemma createDispatchJob_writes (cfg : DispatchConfig) (seen db : Dispatch) (req : JobRequest) :
    (createDispatchJob cfg seen db req).2 = db ∨ (req.job.Proper ∧
        (createDispatchJob cfg seen db req).2 = { db with jobs := db.jobs ++ [req.job] }) := by
  simp only [createDispatchJob]
  split_ifs with hdriver hproper
  · exact .inl rfl
  · split
    · exact .inl rfl
    · split
      · exact .inl rfl
      · split
        · exact .inl rfl
        · exact .inl rfl
        · next db' hinsert => exact .inr ⟨hproper, insertJob_eq_ok hinsert⟩
  · exact .inl rfl

lemma cancelDispatchJob_writes (db : Dispatch) (id : ℕ) :
    ((cancelDispatchJob db id).2 = db ∧ ∀ job, db.jobs[id]? = some job → ¬ job.status.Active) ∨
      ∃ job, db.jobs[id]? = some job ∧
        (cancelDispatchJob db id).2 = db.setJob id { job with status := .cancelled } := by
  simp only [cancelDispatchJob]
  split
  · next hnone => exact .inl ⟨rfl, fun job hjob => (by rw [hnone] at hjob; cases hjob)⟩
  · next job hjob =>
      split_ifs with hactive
      · exact .inr ⟨job, hjob, rfl⟩
      · refine .inl ⟨rfl, fun job' hjob' => ?_⟩
        rw [hjob, Option.some.injEq] at hjob'
        exact hjob' ▸ hactive

def Swappable (seen db : Dispatch) (job : Job) (id : ℕ) (vehicleID reason : String) : Prop :=
  (vehicleID ≠ "" ∧ reason ≠ "") ∧ job.status.Active ∧
    ¬ VehicleBusy (seen.jobs.eraseIdx id) vehicleID job.startsAt job.endsAt ∧
    ¬ Taken (db.jobs.eraseIdx id) vehicleID ∧ vehicleID ∈ db.vehicles
  deriving Decidable

lemma swapDispatchVehicle_swaps {seen : Dispatch} {id : ℕ} {vehicleID reason : String} {job : Job}
    (hjob : db.jobs[id]? = some job) (h : Swappable seen db job id vehicleID reason) :
    swapDispatchVehicle seen db id vehicleID reason =
      (.ok, db.setJob id { job with vehicleID := some vehicleID }) := by
  obtain ⟨hbody, hactive, hbusy, htaken, hvehicle⟩ := h
  simp [swapDispatchVehicle, hbody, hjob, hactive, hbusy, htaken, hvehicle]

lemma swapDispatchVehicle_refuses {seen : Dispatch} {id : ℕ} {vehicleID reason : String}
    (h : ∀ job, db.jobs[id]? = some job → ¬ Swappable seen db job id vehicleID reason) :
    ∃ r : Reply, ¬ r.Success ∧ swapDispatchVehicle seen db id vehicleID reason = (r, db) := by
  by_cases hbody : vehicleID = "" ∨ reason = ""
  · exact ⟨_, Reply.not_success_badRequest _, by rw [swapDispatchVehicle, if_pos hbody]⟩
  cases hjob : db.jobs[id]? with
  | none =>
    exact ⟨notActive, by simp [notActive], by simp only [swapDispatchVehicle, if_neg hbody, hjob]⟩
  | some job =>
    simp only [swapDispatchVehicle, if_neg hbody, hjob]
    split_ifs with hactive hbusy htaken hvehicle
    · exact ⟨_, Reply.not_success_conflict _, rfl⟩
    · exact ⟨_, Reply.not_success_internal, rfl⟩
    · exact absurd ⟨not_or.mp hbody, hactive, hbusy, htaken, hvehicle⟩ (h job hjob)
    · exact ⟨_, Reply.not_success_unprocessable _, rfl⟩
    · exact ⟨_, by simp [notActive], rfl⟩

lemma requeueDispatchJob_writes (db : Dispatch) (id : ℕ) : requeueDispatchJob db id = db ∨
      ∃ job, db.jobs[id]? = some job ∧
        requeueDispatchJob db id = db.setJob id { job with status := .requeued } := by
  simp only [requeueDispatchJob]
  split
  · exact .inl rfl
  · next job hjob =>
      split_ifs
      · exact .inr ⟨job, hjob, rfl⟩
      · exact .inl rfl

structure CharterRequest.Valid (req : CharterRequest) (starts ends : ℤ) : Prop where
  named : ¬ (req.reference = "" ∨ req.customerName = "")
  startsAt : req.startsAt = some starts
  endsAt : req.endsAt = some ends
  window : starts < ends
  some_vehicle : req.vehicleIDs ≠ []
  distinct : ¬ ("" ∈ req.vehicleIDs ∨ ¬ req.vehicleIDs.Nodup)

lemma checkCharter_eq_ok {req : CharterRequest} :
    checkCharter req = .ok (starts, ends) ↔ req.Valid starts ends := by
  constructor
  · intro h
    by_cases hnamed : req.reference = "" ∨ req.customerName = ""
    · rw [checkCharter, if_pos hnamed] at h
      cases h
    rw [checkCharter, if_neg hnamed] at h
    split at h
    · next s e hs he =>
        split_ifs at h with hwindow hempty hdistinct
        obtain ⟨rfl, rfl⟩ := Prod.mk.inj (Except.ok.inj h)
        exact ⟨hnamed, hs, he, hwindow, hempty, hdistinct⟩
    · cases h
  · rintro ⟨hnamed, hs, he, hwindow, hempty, hdistinct⟩
    simp [checkCharter, if_neg hnamed, hs, he, hwindow, if_neg hempty, if_neg hdistinct]

/-- **A charter is booked as a whole or not at all.** -/
lemma createCharter_writes (seen db : Dispatch) (req : CharterRequest) :
    (createCharter seen db req).2 = db ∨ ∃ starts ends db', req.Valid starts ends ∧
        bookVehicles seen req.reference db.bookings.length starts ends req.vehicleIDs { db with
            bookings := db.bookings ++
              [⟨req.reference, req.customerName, starts, ends, .confirmed⟩] } = .ok db' ∧
        createCharter seen db req = (.created, db') := by
  simp only [createCharter]
  split
  · exact .inl rfl
  · next starts ends hcheck =>
      split
      · split_ifs <;> exact .inl rfl
      · split
        · exact .inl rfl
        · next db' hbook => exact .inr ⟨starts, ends, db', checkCharter_eq_ok.mp hcheck, hbook, rfl⟩

lemma cancelCharter_writes (db : Dispatch) (id : ℕ) : (cancelCharter db id).2 = db ∨
      ∃ b, db.bookings[id]? = some b ∧ (cancelCharter db id).2 = { db with
          bookings := db.bookings.set id { b with status := .cancelled }
          jobs := db.jobs.mapIdx (db.cancelLinked id) } := by
  simp only [cancelCharter]
  split
  · exact .inl rfl
  · next b hb =>
      split_ifs
      · exact .inr ⟨b, hb, rfl⟩
      · exact .inl rfl

/-- **What a step leaves.** -/
inductive Dispatch.Written (db : Dispatch) : DispatchEvent → Dispatch → Prop where
  | refused (e : DispatchEvent) : Written db e db
  | created (seen : Dispatch) (req : JobRequest) (hproper : req.job.Proper) :
      Written db (.createJob seen req) { db with jobs := db.jobs ++ [req.job] }
  | accepted (seen : Dispatch) (id : ℕ) (caller : String) (job : Job)
      (hjob : db.jobs[id]? = some job) (hassigned : job.status = .assigned) :
      Written db (.acceptJob seen id caller) (db.setJob id { job with status := .accepted })
  | cancelled (id : ℕ) (job : Job) (hjob : db.jobs[id]? = some job) :
      Written db (.cancelJob id) (db.setJob id { job with status := .cancelled })
  | swapped (seen : Dispatch) (id : ℕ) (vehicleID reason : String) (job : Job)
      (hjob : db.jobs[id]? = some job) (hswap : Swappable seen db job id vehicleID reason) :
      Written db (.swapVehicle seen id vehicleID reason)
        (db.setJob id { job with vehicleID := some vehicleID })
  | booked (seen : Dispatch) (req : CharterRequest) (starts ends : ℤ) (db' : Dispatch)
      (hvalid : req.Valid starts ends)
      (hbook : bookVehicles seen req.reference db.bookings.length starts ends req.vehicleIDs
      { db with
          bookings := db.bookings ++
            [⟨req.reference, req.customerName, starts, ends, .confirmed⟩] } = .ok db') :
      Written db (.createCharter seen req) db'
  | released (id : ℕ) (b : Booking) : Written db (.cancelCharter id) { db with
        bookings := db.bookings.set id { b with status := .cancelled }
        jobs := db.jobs.mapIdx (db.cancelLinked id) }
  | requeued (id : ℕ) (job : Job) (hjob : db.jobs[id]? = some job)
      (hsignalled : job.signalled = true) :
      Written db (.requeueJob id) (db.setJob id { job with status := .requeued })

lemma Dispatch.step_written {cfg : DispatchConfig} {db' : Dispatch} {e : DispatchEvent}
    (h : db.step cfg e = some db') : db.Written e db' := by
  cases e with
  | createJob seen req =>
    cases h
    rcases createDispatchJob_writes cfg seen db req with heq | ⟨hproper, heq⟩ <;> rw [heq]
    · exact .refused _
    · exact .created seen req hproper
  | acceptJob seen id caller =>
    cases h
    simp only [acceptDispatchJob]
    split_ifs
    · exact .refused _
    · split
      · exact .refused _
      · split_ifs
        · exact .refused _
        · split
          · exact .refused _
          · next job hjob =>
              split_ifs with hassigned
              · exact .accepted seen id caller job hjob hassigned.1
              · exact .refused _
  | cancelJob id =>
    cases h
    rcases cancelDispatchJob_writes db id with ⟨heq, -⟩ | ⟨job, hjob, heq⟩ <;> rw [heq]
    · exact .refused _
    · exact .cancelled id job hjob
  | swapVehicle seen id vehicleID reason =>
    cases h
    by_cases hswap : ∃ job, db.jobs[id]? = some job ∧ Swappable seen db job id vehicleID reason
    · obtain ⟨job, hjob, hswap⟩ := hswap
      rw [swapDispatchVehicle_swaps hjob hswap]
      exact .swapped seen id vehicleID reason job hjob hswap
    · simp only [not_exists, not_and] at hswap
      obtain ⟨r, -, heq⟩ := swapDispatchVehicle_refuses hswap
      rw [heq]
      exact .refused _
  | createCharter seen req =>
    cases h
    rcases createCharter_writes seen db req with heq | ⟨starts, ends, db', hvalid, hbook, heq⟩ <;>
      rw [heq]
    · exact .refused _
    · exact .booked seen req starts ends db' hvalid hbook
  | cancelCharter id =>
    cases h
    rcases cancelCharter_writes db id with heq | ⟨b, -, heq⟩ <;> rw [heq]
    · exact .refused _
    · exact .released id b
  | requeueJob id =>
    simp only [step] at h
    split_ifs at h with hsignalled
    cases h
    rcases requeueDispatchJob_writes db id with heq | ⟨job, hjob, heq⟩ <;> rw [heq]
    · exact .refused _
    · rw [hjob, Option.any_some] at hsignalled
      exact .requeued id job hjob hsignalled

end H2Fleet.Infra
