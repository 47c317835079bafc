import H2Fleet.Infra.Dispatch

/-!
# Windows and indexes

The comment on `CreateDispatchJob` says that with two bounds the overlap test is a real intersection
of time windows, and the conflict queries are that (`Job.overlaps_iff`).  The partial unique indexes
of migration 0005, which are to back them, are stricter: one active job for each driver and each
vehicle, whatever its window.  A request that passes the conflict query meets the index next.
-/

namespace H2Fleet.Infra

open List

/-! ## Proper windows -/

def WellFormed (db : Dispatch) : Prop := ∀ job ∈ db.jobs, job.Proper

variable {db db' : Dispatch} {job : Job} {reference : String} {starts ends : ℤ}
  {cfg : DispatchConfig}

lemma WellFormed.concat (h : WellFormed db) (hjob : job.Proper)
    (heq : db'.jobs = db.jobs ++ [job]) : WellFormed db' := by
  intro x hx
  rw [heq, mem_append, mem_singleton] at hx
  rcases hx with hx | rfl
  · exact h x hx
  · exact hjob

lemma WellFormed.setJob (h : WellFormed db) {id : ℕ} {job' : Job} (hjob : db.jobs[id]? = some job)
    (hstarts : job'.startsAt = job.startsAt) (hends : job'.endsAt = job.endsAt) :
    WellFormed (db.setJob id job') := by
  refine forall_mem_set h ?_
  rw [Job.Proper, hstarts, hends]
  exact h job (mem_of_getElem? hjob)

lemma WellFormed.bookVehicles {seen : Dispatch} {booking : ℕ} {vs : List String} {tx : Dispatch}
    (htx : WellFormed tx) (hwindow : starts < ends)
    (h : H2Fleet.Infra.bookVehicles seen reference booking starts ends vs tx = .ok db') :
    WellFormed db' := by
  induction vs generalizing tx with
  | nil => exact Except.ok.inj h ▸ htx
  | cons v vs ih =>
    refine ih (htx.concat ?_ rfl) (bookVehicles_cons_eq_ok h)
    intro s hs e he
    cases hs
    cases he
    exact hwindow

lemma WellFormed.step {e : DispatchEvent} (hdb : WellFormed db) (h : db.step cfg e = some db') :
    WellFormed db' := by
  cases Dispatch.step_written h with
  | refused => exact hdb
  | created seen req hproper => exact hdb.concat hproper rfl
  | accepted seen id caller job hjob => exact hdb.setJob hjob rfl rfl
  | cancelled id job hjob => exact hdb.setJob hjob rfl rfl
  | swapped seen id vehicleID reason job hjob => exact hdb.setJob hjob rfl rfl
  | booked seen req starts ends _ hvalid hbook =>
    have hstart : WellFormed { db with bookings := db.bookings ++
        [⟨req.reference, req.customerName, starts, ends, .confirmed⟩] } := hdb
    exact hstart.bookVehicles hvalid.window hbook
  | released id b =>
    intro x hx
    obtain ⟨i, hi, rfl⟩ := mem_mapIdx.mp hx
    have hproper := hdb _ (getElem_mem hi)
    simp only [Dispatch.cancelLinked]
    split_ifs <;> exact hproper
  | requeued id job hjob => exact hdb.setJob hjob rfl rfl

/-- **The windows of all jobs are proper.** -/
theorem wellFormed_of_run {drivers : List Driver} {vehicles : List String}
    {events : List DispatchEvent}
    (hrun : run (Dispatch.step cfg) (.init drivers vehicles) events = some db) : WellFormed db :=
  run_invariant_always (fun _ _ _ hs h => hs.step h) (fun job hjob => (by cases hjob)) hrun

/-! ## Windows that are free -/

/-- No active job of driver or vehicle has a moment in common with `[starts, ends)`. -/
def WindowFree (jobs : List Job) (driver : String) (vehicle : Option String) (starts ends : ℤ) :
    Prop :=
  ∀ job ∈ jobs, job.status.Active →
    (job.driverSub = driver ∨ (vehicle ≠ none ∧ job.vehicleID = vehicle)) →
    ¬ job.Intersects starts ends

lemma not_vehicleBusy {jobs : List Job} {vehicle : String} (hproper : ∀ job ∈ jobs, job.Proper)
    (hwindow : starts < ends)
    (hfree : ∀ job ∈ jobs, job.status.Active → job.vehicleID = some vehicle →
      ¬ job.Intersects starts ends) : ¬ VehicleBusy jobs vehicle (some starts) (some ends) := by
  rintro ⟨job, hjob, hvehicle, hactive, hoverlaps⟩
  rw [Job.overlaps_iff (hproper job hjob) hwindow] at hoverlaps
  exact hfree job hjob hactive hvehicle hoverlaps

/-! ### New jobs -/

/-- A request with both bounds and an existing driver and vehicle, within the limits. -/
structure JobRequest.Admissible (cfg : DispatchConfig) (db : Dispatch) (req : JobRequest)
    (starts ends : ℤ) : Prop where
  named : req.driverSub ≠ ""
  startsAt : req.startsAt = some starts
  endsAt : req.endsAt = some ends
  window : starts < ends
  driver : db.HasDriver req.driverSub
  vehicle : ∀ v ∈ req.vehicleID.toList, v ∈ db.vehicles
  shift : hoursBetween starts ends ≤ cfg.maxShiftHours
  day : dayTotal cfg db.jobs req.driverSub starts + hoursBetween starts ends ≤ cfg.maxDailyHours

lemma createDispatchJob_success (hdb : WellFormed db) {req : JobRequest}
    (h : req.Admissible cfg db starts ends)
    (hfree : WindowFree db.jobs req.driverSub req.vehicleID starts ends) :
    (createDispatchJob cfg db db req).1.Success ↔
    ¬ Occupied db.jobs req.driverSub req.vehicleID := by
  have hproper : req.job.Proper := by
    intro s hs e he
    cases h.startsAt.symm.trans hs
    cases h.endsAt.symm.trans he
    exact h.window
  have hfind : (db.jobs.find? fun job => req.Conflicts job) = none := by
    rw [find?_eq_none]
    intro job hjob hconflict
    obtain ⟨hactive, hsame, hoverlaps⟩ := of_decide_eq_true hconflict
    rw [h.startsAt, h.endsAt, Job.overlaps_iff (hdb job hjob) h.window] at hoverlaps
    exact hfree job hjob hactive hsame hoverlaps
  have hhours : hoursOfService cfg db.jobs req = none := by
    have hplanned : plannedHours cfg req = hoursBetween starts ends := by
      simp only [plannedHours, h.startsAt, h.endsAt]
    simp [hoursOfService, hplanned, h.startsAt, not_lt.mpr h.shift, not_lt.mpr h.day]
  simp only [createDispatchJob, if_neg h.named, hproper, not_true, if_false, hhours, hfind,
    Dispatch.insertJob]
  by_cases hoccupied : Occupied db.jobs req.driverSub req.vehicleID
  · have hjob : Occupied db.jobs req.job.driverSub req.job.vehicleID := hoccupied
    simp [hjob, hoccupied]
  · have hjob : ¬ Occupied db.jobs req.job.driverSub req.job.vehicleID := hoccupied
    have hkeys : ¬ (¬ db.HasDriver req.job.driverSub ∨
        ∃ v ∈ req.job.vehicleID.toList, v ∉ db.vehicles) := by
      rintro (hdriver | ⟨v, hv, hunknown⟩)
      · exact hdriver h.driver
      · exact hunknown (h.vehicle v hv)
    simp only [if_neg hjob, if_neg hkeys, Reply.success_created, hoccupied, not_false_eq_true]

/-! ### Charters -/

lemma occupied_concat_charterJob {jobs : List Job} {v v' : String} (hne : v ≠ v') :
    Occupied (jobs ++ [charterJob reference starts ends v]) (charterDriverSub reference v')
      (some v') ↔ Occupied jobs (charterDriverSub reference v') (some v') := by
  constructor
  · rintro ⟨job, hjob, hactive, hsame⟩
    rcases mem_append.mp hjob with hjob | hjob
    · exact ⟨job, hjob, hactive, hsame⟩
    · obtain rfl := mem_singleton.mp hjob
      rcases hsame with hdriver | ⟨-, hvehicle⟩
      · exact absurd (by simpa [charterJob, charterDriverSub] using hdriver) hne
      · exact absurd (Option.some.inj hvehicle) hne
  · rintro ⟨job, hjob, hactive, hsame⟩
    exact ⟨job, mem_append_left _ hjob, hactive, hsame⟩

/-- The loop ends exactly if every vehicle and every placeholder driver is free. -/
lemma bookVehicles_cases {seen : Dispatch} {booking : ℕ} :
    ∀ {vs : List String} {tx : Dispatch}, vs.Nodup → (∀ v ∈ vs, v ∈ tx.vehicles) →
    (∀ v ∈ vs, ¬ VehicleBusy seen.jobs v (some starts) (some ends)) →
    ((∀ v ∈ vs, ¬ Occupied tx.jobs (charterDriverSub reference v) (some v)) ∧
        ∃ db', bookVehicles seen reference booking starts ends vs tx = .ok db') ∨
      ((¬ ∀ v ∈ vs, ¬ Occupied tx.jobs (charterDriverSub reference v) (some v)) ∧
        ∃ r : Reply, ¬ r.Success ∧ bookVehicles seen reference booking starts ends vs tx = .error r)
  | [], tx, _, _, _ => .inl ⟨nofun, tx, rfl⟩
  | v :: vs, tx, hnodup, hvehicles, hbusy => by
    rw [nodup_cons] at hnodup
    have hfree := hbusy v mem_cons_self
    by_cases hoccupied : Occupied tx.jobs (charterDriverSub reference v) (some v)
    · refine .inr ⟨fun h => h v mem_cons_self hoccupied, _, ?_,
        bookVehicles_cons_occupied hfree hoccupied⟩
      exact Reply.not_success_conflict _
    · rw [bookVehicles_cons hfree hoccupied (hvehicles v mem_cons_self)]
      -- the rest of the loop, with the job of `v` in the table
      have hrest : ∀ u ∈ vs, (Occupied (tx.jobs ++ [charterJob reference starts ends v])
          (charterDriverSub reference u) (some u) ↔
            Occupied tx.jobs (charterDriverSub reference u) (some u)) :=
        fun u hu => occupied_concat_charterJob fun heq => hnodup.1 (heq ▸ hu)
      have hsame : (∀ u ∈ v :: vs, ¬ Occupied tx.jobs (charterDriverSub reference u) (some u)) ↔
          ∀ u ∈ vs, ¬ Occupied (tx.withVehicle reference booking starts ends v).jobs
            (charterDriverSub reference u) (some u) := by
        rw [forall_mem_cons]
        refine ⟨fun h u hu => (hrest u hu).not.mpr (h.2 u hu),
          fun h => ⟨hoccupied, fun u hu => (hrest u hu).not.mp (h u hu)⟩⟩
      rw [hsame]
      refine bookVehicles_cases hnodup.2 ?_ fun u hu => hbusy u (mem_cons_of_mem _ hu)
      intro u hu
      have hknown := hvehicles u (mem_cons_of_mem _ hu)
      simpa using hknown

lemma createCharter_success (hdb : WellFormed db) {req : CharterRequest}
    (hvalid : req.Valid starts ends) (hnew : ∀ b ∈ db.bookings, b.reference ≠ req.reference)
    (hvehicles : ∀ v ∈ req.vehicleIDs, v ∈ db.vehicles)
    (hfree : ∀ v ∈ req.vehicleIDs,
      WindowFree db.jobs (charterDriverSub req.reference v) (some v) starts ends) :
    (createCharter db db req).1.Success ↔
      ∀ v ∈ req.vehicleIDs, ¬ Occupied db.jobs (charterDriverSub req.reference v) (some v) := by
  have hfind : (db.bookings.find? fun b => b.reference = req.reference) = none := by
    rw [find?_eq_none]
    intro b hb heq
    exact hnew b hb (of_decide_eq_true heq)
  have hbusy : ∀ v ∈ req.vehicleIDs, ¬ VehicleBusy db.jobs v (some starts) (some ends) :=
    fun v hv => not_vehicleBusy hdb hvalid.window fun job hjob hactive hvehicle =>
      hfree v hv job hjob hactive (.inr ⟨by simp, hvehicle⟩)
  have hnodup : req.vehicleIDs.Nodup := not_not.mp (not_or.mp hvalid.distinct).2
  simp only [createCharter, checkCharter_eq_ok.mpr hvalid, hfind]
  have hcases := @bookVehicles_cases req.reference starts ends db db.bookings.length
    req.vehicleIDs { db with bookings := db.bookings ++
      [⟨req.reference, req.customerName, starts, ends, .confirmed⟩] } hnodup hvehicles hbusy
  rcases hcases with ⟨hall, db', hbook⟩ | ⟨hnot, r, hr, hbook⟩
  · rw [hbook]
    exact iff_of_true Reply.success_created hall
  · rw [hbook]
    exact iff_of_false hr hnot

/-! ### Swaps -/

lemma swapDispatchVehicle_success (hdb : WellFormed db) {id : ℕ} (hjob : db.jobs[id]? = some job)
    (hactive : job.status.Active) (hstarts : job.startsAt = some starts)
    (hends : job.endsAt = some ends) {vehicleID reason : String}
    (hbody : vehicleID ≠ "" ∧ reason ≠ "") (hvehicle : vehicleID ∈ db.vehicles)
    (hfree : ∀ other ∈ db.jobs.eraseIdx id, other.status.Active →
      other.vehicleID = some vehicleID → ¬ other.Intersects starts ends) :
    (swapDispatchVehicle db db id vehicleID reason).1.Success ↔
      ¬ Taken (db.jobs.eraseIdx id) vehicleID := by
  have hwindow : starts < ends :=
    hdb job (mem_of_getElem? hjob) starts hstarts ends hends
  have hbusy : ¬ VehicleBusy (db.jobs.eraseIdx id) vehicleID job.startsAt job.endsAt := by
    rw [hstarts, hends]
    exact not_vehicleBusy (fun x hx => hdb x (mem_of_mem_eraseIdx hx)) hwindow hfree
  by_cases htaken : Taken (db.jobs.eraseIdx id) vehicleID
  · have hnot : ∀ job', db.jobs[id]? = some job' →
        ¬ Swappable db db job' id vehicleID reason := fun _ _ h => h.2.2.2.1 htaken
    obtain ⟨r, hr, heq⟩ := swapDispatchVehicle_refuses hnot
    rw [heq]
    exact iff_of_false hr (not_not.mpr htaken)
  · rw [swapDispatchVehicle_swaps hjob ⟨hbody, hactive, hbusy, htaken, hvehicle⟩]
    exact iff_of_true Reply.success_ok htaken

/-! ## Disjoint windows -/

/-- **When a request with a free window succeeds**: if and only if its driver and vehicle have no
active job at all; for a charter all its vehicles and their placeholder drivers, for a swap the
vehicle, apart from the job itself. -/
theorem disjoint_window_accepted_iff {cfg : DispatchConfig} {drivers : List Driver}
    {vehicles : List String} {events : List DispatchEvent} {db : Dispatch}
    (hrun : run (Dispatch.step cfg) (.init drivers vehicles) events = some db) :
    (∀ (req : JobRequest) (starts ends : ℤ), req.Admissible cfg db starts ends →
      WindowFree db.jobs req.driverSub req.vehicleID starts ends →
      ((createDispatchJob cfg db db req).1.Success ↔
      ¬ Occupied db.jobs req.driverSub req.vehicleID)) ∧
    (∀ (req : CharterRequest) (starts ends : ℤ), req.Valid starts ends →
      (∀ b ∈ db.bookings, b.reference ≠ req.reference) →
      (∀ v ∈ req.vehicleIDs, v ∈ db.vehicles) →
      (∀ v ∈ req.vehicleIDs,
        WindowFree db.jobs (charterDriverSub req.reference v) (some v) starts ends) →
      ((createCharter db db req).1.Success ↔ ∀ v ∈ req.vehicleIDs,
          ¬ Occupied db.jobs (charterDriverSub req.reference v) (some v))) ∧
    (∀ (id : ℕ) (job : Job) (starts ends : ℤ) (vehicleID reason : String),
      db.jobs[id]? = some job → job.status.Active → job.startsAt = some starts →
      job.endsAt = some ends → vehicleID ≠ "" ∧ reason ≠ "" → vehicleID ∈ db.vehicles →
      (∀ other ∈ db.jobs.eraseIdx id, other.status.Active → other.vehicleID = some vehicleID →
        ¬ other.Intersects starts ends) →
      ((swapDispatchVehicle db db id vehicleID reason).1.Success ↔
        ¬ Taken (db.jobs.eraseIdx id) vehicleID)) := by
  have hdb := wellFormed_of_run hrun
  refine ⟨?_, ?_, ?_⟩
  · intro req starts ends hreq hfree
    exact createDispatchJob_success hdb hreq hfree
  · intro req starts ends hvalid hnew hvehicles hfree
    exact createCharter_success hdb hvalid hnew hvehicles hfree
  · intro id job starts ends vehicleID reason hjob hactive hstarts hends hbody hvehicle hfree
    exact swapDispatchVehicle_success hdb hjob hactive hstarts hends hbody hvehicle hfree

/-- The default limits, with days in UTC. -/
def defaultConfig : DispatchConfig where
  maxShiftHours := 10
  maxDailyHours := 10
  dayStart := fun t => t / (24 * hour) * (24 * hour)
  dayEnd := fun t => (t / (24 * hour) + 1) * (24 * hour)
  formatFloat := fun x _ => x.num.repr ++ "/" ++ x.den.repr

def threeDrivers : Dispatch :=
  .init [⟨"ada", "active"⟩, ⟨"ben", "active"⟩, ⟨"cy", "active"⟩] ["bus-1", "bus-2", "bus-3"]

def afterOneShift : Dispatch :=
  { threeDrivers with
    jobs := [⟨"ada", some "bus-1", "r1", some 0, some (2 * hour), .assigned, true⟩] }

/-- A job from 0 to 2 h on the first bus and one from 3 to 5 h on the second. -/
def twoShifts : List DispatchEvent :=
  [.createJob threeDrivers ⟨"ada", some "bus-1", "r1", some 0, some (2 * hour)⟩,
    .createJob afterOneShift ⟨"ben", some "bus-2", "r2", some (3 * hour), some (5 * hour)⟩]

def afterTwoShifts : Dispatch :=
  { threeDrivers with
    jobs := [⟨"ada", some "bus-1", "r1", some 0, some (2 * hour), .assigned, true⟩,
      ⟨"ben", some "bus-2", "r2", some (3 * hour), some (5 * hour), .assigned, true⟩] }

lemma run_twoShifts : run (Dispatch.step defaultConfig) threeDrivers twoShifts =
    some afterTwoShifts := by
  decide +kernel

/-- The third driver gets the third bus, a charter gets it, and the second job moves to it. -/
theorem third_bus_accepted :
    run (Dispatch.step defaultConfig) threeDrivers twoShifts = some afterTwoShifts ∧
      (createDispatchJob defaultConfig afterTwoShifts afterTwoShifts
        ⟨"cy", some "bus-3", "r3", some (6 * hour), some (8 * hour)⟩).1.Success ∧
      (createCharter afterTwoShifts afterTwoShifts
        ⟨"school", "city school", some (6 * hour), some (8 * hour), ["bus-3"]⟩).1.Success ∧
      (swapDispatchVehicle afterTwoShifts afterTwoShifts 1 "bus-3" "flat tyre").1.Success := by
  have hfree : ∀ driver, driver ≠ "ada" → driver ≠ "ben" →
      ¬ Occupied afterTwoShifts.jobs driver (some "bus-3") := by
    rintro driver hada hben ⟨job, hjob, -, hsame⟩
    simp only [afterTwoShifts, mem_cons, not_mem_nil, or_false] at hjob
    rcases hjob with rfl | rfl
    · rcases hsame with hsame | ⟨-, hsame⟩
      · exact hada hsame.symm
      · exact absurd hsame (by decide)
    · rcases hsame with hsame | ⟨-, hsame⟩
      · exact hben hsame.symm
      · exact absurd hsame (by decide)
  have hwindow : ∀ driver starts ends, driver ≠ "ada" → driver ≠ "ben" →
      WindowFree afterTwoShifts.jobs driver (some "bus-3") starts ends :=
    fun driver _ _ hada hben job hjob hactive hsame _ =>
      hfree driver hada hben ⟨job, hjob, hactive, hsame⟩
  obtain ⟨hcreate, hcharter, hswap⟩ := disjoint_window_accepted_iff run_twoShifts
  refine ⟨run_twoShifts, ?_, ?_, ?_⟩
  · refine (hcreate _ (6 * hour) (8 * hour) ?_ (hwindow "cy" _ _ (by decide) (by decide))).mpr
      (hfree "cy" (by decide) (by decide))
    exact ⟨by decide, rfl,
      rfl, by decide, by decide, by decide, by decide +kernel, by decide +kernel⟩
  · refine (hcharter _ (6 * hour) (8 * hour) ?_ ?_ ?_ ?_).mpr ?_
    · exact ⟨by decide, rfl, rfl, by decide, by decide, by decide⟩
    · decide
    · decide
    · intro v hv
      obtain rfl := mem_singleton.mp hv
      exact hwindow _ _ _ (by decide) (by decide)
    · intro v hv
      obtain rfl := mem_singleton.mp hv
      exact hfree _ (by decide) (by decide)
  · refine (hswap 1 _ (3 * hour) (5 * hour) _ _ rfl (by decide) rfl rfl (by decide) (by decide)
      ?_).mpr (by decide)
    intro other hother hactive hvehicle
    obtain rfl := mem_singleton.mp hother
    exact absurd hvehicle (by decide)

/-- The first bus is taken from 0 to 2 h.  A job and a charter for it from 6 to 8 h are refused, and
so is moving the job of 3 to 5 h to it. -/
theorem free_window_refused :
    run (Dispatch.step defaultConfig) threeDrivers twoShifts = some afterTwoShifts ∧
      (createDispatchJob defaultConfig afterTwoShifts afterTwoShifts
        ⟨"cy", some "bus-1", "r3", some (6 * hour), some (8 * hour)⟩).1 =
          .conflict "driver or vehicle already has an active dispatch job" ∧
      (createCharter afterTwoShifts afterTwoShifts
        ⟨"school", "city school", some (6 * hour), some (8 * hour), ["bus-1"]⟩).1 =
          .conflict "vehicle bus-1 was booked concurrently" ∧
      (swapDispatchVehicle afterTwoShifts afterTwoShifts 1 "bus-1" "flat tyre").1 = .internal := by
  refine ⟨run_twoShifts, ?_, ?_, ?_⟩ <;> decide +kernel

/-! ## The conditions in SQL -/

/-- The truth values of SQL; none is unknown. -/
def sqlOr : Option Bool → Option Bool → Option Bool
  | some true, _ | _, some true => some true
  | some false, some false => some false
  | _, _ => none

def sqlAnd : Option Bool → Option Bool → Option Bool
  | some false, _ | _, some false => some false
  | some true, some true => some true
  | _, _ => none

def sqlLt : Option ℤ → Option ℤ → Option Bool
  | some a, some b => some (decide (a < b))
  | _, _ => none

def isNull (x : Option ℤ) : Option Bool := some x.isNone

/-- The condition of `CreateDispatchJob` and of `SwapDispatchVehicle`. -/
def windowCondition (job : Job) (starts ends : Option ℤ) : Option Bool :=
  sqlAnd (sqlOr (sqlOr (isNull starts) (isNull job.startsAt)) (sqlLt job.startsAt ends))
    (sqlOr (sqlOr (isNull ends) (isNull job.endsAt)) (sqlLt starts job.endsAt))

def charterCondition (job : Job) (starts ends : ℤ) : Option Bool :=
  sqlAnd (sqlOr (isNull job.startsAt) (sqlLt job.startsAt (some ends)))
    (sqlOr (isNull job.endsAt) (sqlLt (some starts) job.endsAt))

/-- The windows have a moment in common, or the candidate is open-ended. -/
def ConflictDue (job : Job) (starts ends : Option ℤ) : Prop :=
  (∃ t : ℤ, (∀ s ∈ starts, s ≤ t) ∧ (∀ e ∈ ends, t < e) ∧ (∀ s ∈ job.startsAt, s ≤ t) ∧
    ∀ e ∈ job.endsAt, t < e) ∨ starts = none ∨ ends = none

lemma windowCondition_eq_true (job : Job) (starts ends : Option ℤ) :
    windowCondition job starts ends = some true ↔ job.overlaps starts ends = true := by
  obtain ⟨_, _, _, js, je, _, _⟩ := job
  rcases starts with _ | s <;> rcases ends with _ | e <;> cases js <;> cases je <;>
    simp only [windowCondition, Job.overlaps, isNull, sqlLt, sqlLess]
  all_goals grind [sqlOr, sqlAnd]

/-- **When the conflict conditions find what they should.** -/
theorem conflict_found_iff (job : Job) (starts ends : Option ℤ) :
    ((windowCondition job starts ends = some true ↔ ConflictDue job starts ends) ↔
      match starts, ends with
      | some s, some e => (∀ x ∈ job.startsAt, x < e) → (∀ x ∈ job.endsAt, s < x) → s < e ∧
          job.Proper
      | none, none => True
      | none, some _ => job.endsAt = none
      | some _, none => job.startsAt = none) ∧
    ∀ s e, charterCondition job s e = windowCondition job (some s) (some e) := by
  refine ⟨?_, fun s e => ?_⟩
  swap
  · rcases hs : job.startsAt with _ | s <;> rcases he : job.endsAt with _ | e <;>
      simp [charterCondition, windowCondition, isNull, sqlOr, hs, he]
  rw [windowCondition_eq_true]
  match starts, ends with
  | some s, some e =>
    have hmeet : ConflictDue job (some s) (some e) ↔ job.Intersects s e := by
      simp [ConflictDue, Job.Intersects]
    have hbounds : job.overlaps (some s) (some e) = true ↔
        (∀ x ∈ job.startsAt, x < e) ∧ ∀ x ∈ job.endsAt, s < x := by
      cases hs : job.startsAt <;> cases he : job.endsAt <;> simp [Job.overlaps, sqlLess, hs, he]
    rw [hmeet, Job.intersects_iff, hbounds]
    tauto
  | none, none => simp [ConflictDue, Job.overlaps]
  | none, some e => cases he : job.endsAt <;> simp [ConflictDue, Job.overlaps, sqlLess, he]
  | some s, none => cases hs : job.startsAt <;> simp [ConflictDue, Job.overlaps, sqlLess, hs]

/-- **An open-ended candidate misses the job that it overlaps.** -/
theorem open_ended_job_not_found :
    windowCondition ⟨"driver", none, "", some 0, some 10, .assigned, false⟩ (some 5) none = none ∧
      ConflictDue ⟨"driver", none, "", some 0, some 10, .assigned, false⟩ (some 5) none :=
  ⟨rfl, .inr (.inr rfl)⟩

end H2Fleet.Infra
