import H2Fleet.Infra.Dispatch

/-!
# The buses of a charter

A booking blocks its vehicles through dispatch jobs, one for each row of `infra.charter_vehicles`.
The charter handlers keep the two in step.  The handlers of single jobs do not know about bookings:
`CancelDispatchJob` and `SwapDispatchVehicle` take the job of a confirmed charter like any other.
Only `CreateDispatchJob` sends `job-assigned`, so no timer runs for the job of a charter.
-/

namespace H2Fleet.Infra

open List Dispatch

/-- A confirmed booking has an active job with its vehicle and window, a cancelled one a job that is
not active. -/
def LinkOk (b : Booking) (l : CharterVehicle) (job : Job) : Prop :=
  (b.status = .confirmed → job.status.Active ∧ job.vehicleID = some l.vehicleID ∧
    job.startsAt = some b.startsAt ∧ job.endsAt = some b.endsAt) ∧
  (b.status = .cancelled → ¬ job.status.Active)

def CharterOk (db : Dispatch) : Prop :=
  ∀ l ∈ db.links, ∀ b, db.bookings[l.bookingID]? = some b →
    ∃ job, db.jobs[l.jobID]? = some job ∧ LinkOk b l job

lemma not_active_cancelled : ¬ JobStatus.cancelled.Active := by decide

def Dispatch.Confirmed (db : Dispatch) (booking : ℕ) : Prop :=
  (db.bookings[booking]?).any (fun b => b.status = .confirmed) = true
  deriving Decidable

variable {booking : ℕ}

lemma Dispatch.confirmed_iff {db : Dispatch} :
    db.Confirmed booking ↔ ∃ b, db.bookings[booking]? = some b ∧ b.status = .confirmed := by
  rw [Confirmed, Option.any_eq_true]
  simp

/-- The job of a confirmed charter is not cancelled by itself, nor moved to another vehicle. -/
def KeepsCharters (db : Dispatch) : DispatchEvent → Prop
  | .cancelJob id => ∀ l ∈ db.links, l.jobID = id → ¬ db.Confirmed l.bookingID
  | .swapVehicle seen id vehicleID reason => ∀ l ∈ db.links, l.jobID = id →
      db.Confirmed l.bookingID → l.vehicleID = vehicleID ∨
        ∀ job ∈ db.jobs[id]?, ¬ Swappable seen db job id vehicleID reason
  | _ => True

instance (db : Dispatch) (e : DispatchEvent) : Decidable (KeepsCharters db e) := by
  unfold KeepsCharters; split <;> infer_instance

/-! ## The invariant -/

structure LinkInv (db : Dispatch) : Prop where
  ok : CharterOk db
  booked : ∀ l ∈ db.links, l.bookingID < db.bookings.length
  quiet : ∀ l ∈ db.links, ∃ job, db.jobs[l.jobID]? = some job ∧ job.signalled = false
  unique : (db.links.map CharterVehicle.jobID).Nodup

section Frame

variable {db : Dispatch}

variable (h : LinkInv db)
include h

lemma LinkInv.concatJob (job : Job) : LinkInv { db with jobs := db.jobs ++ [job] } where
  __ := h
  ok := by
    intro l hl b hb
    obtain ⟨job', hjob', hok⟩ := h.ok l hl b hb
    exact ⟨job', getElem?_append_old hjob', hok⟩
  quiet := by
    intro l hl
    obtain ⟨job', hjob', hquiet⟩ := h.quiet l hl
    exact ⟨job', getElem?_append_old hjob', hquiet⟩

lemma LinkInv.setJob {id : ℕ} {job job' : Job} (hjob : db.jobs[id]? = some job)
    (hsignalled : job'.signalled = job.signalled)
    (hlink : ∀ l ∈ db.links, l.jobID = id → ∀ b, db.bookings[l.bookingID]? = some b →
      LinkOk b l job → LinkOk b l job') : LinkInv (db.setJob id job') := by
  have hset : (db.jobs.set id job')[id]? = some job' := by
    rw [getElem?_set_self (List.getElem?_eq_some_iff.mp hjob).1]
  refine ⟨?_, h.booked, ?_, h.unique⟩
  · intro l hl b hb
    obtain ⟨old, hold, hok⟩ := h.ok l hl b hb
    by_cases hid : l.jobID = id
    · rw [hid, hjob] at hold
      cases hold
      exact ⟨job', hid ▸ hset, hlink l hl hid b hb hok⟩
    · exact ⟨old, getElem?_set_other hid hold, hok⟩
  · intro l hl
    obtain ⟨old, hold, hquiet⟩ := h.quiet l hl
    by_cases hid : l.jobID = id
    · rw [hid, hjob] at hold
      cases hold
      exact ⟨job', hid ▸ hset, hsignalled.trans hquiet⟩
    · exact ⟨old, getElem?_set_other hid hold, hquiet⟩

lemma LinkInv.concatBooking (b : Booking) : LinkInv { db with bookings := db.bookings ++ [b] } where
  __ := h
  ok := by
    intro l hl b' hb'
    refine h.ok l hl b' ?_
    rwa [getElem?_append_left (h.booked l hl)] at hb'
  booked := by
    intro l hl
    have hlt := h.booked l hl
    simp only [length_append, length_singleton]
    omega

lemma LinkInv.withVehicle {b : Booking} (hb : db.bookings[booking]? = some b)
    (hconfirmed : b.status = .confirmed) (reference v : String) :
    LinkInv (db.withVehicle reference booking b.startsAt b.endsAt v) := by
  have hjobs := h.concatJob (charterJob reference b.startsAt b.endsAt v)
  have hnew : (db.jobs ++ [charterJob reference b.startsAt b.endsAt v])[db.jobs.length]? =
      some (charterJob reference b.startsAt b.endsAt v) := getElem?_concat_length
  refine ⟨?_, ?_, ?_, ?_⟩
  · intro l hl b' hb'
    rw [withVehicle_bookings] at hb'
    rcases mem_append.mp hl with hl | hl
    · exact hjobs.ok l hl b' hb'
    · obtain rfl := mem_singleton.mp hl
      cases hb.symm.trans hb'
      refine ⟨_, hnew, fun _ => ⟨.inl rfl, rfl, rfl, rfl⟩, fun hcancelled => ?_⟩
      rw [hconfirmed] at hcancelled
      cases hcancelled
  · rw [withVehicle_bookings]
    exact forall_mem_concat h.booked (List.getElem?_eq_some_iff.mp hb).1
  · exact forall_mem_concat hjobs.quiet ⟨_, hnew, rfl⟩
  · -- the job of the new row has an index that no row had
    have hfresh : db.jobs.length ∉ db.links.map CharterVehicle.jobID := by
      intro hmem
      obtain ⟨l, hl, heq⟩ := mem_map.mp hmem
      obtain ⟨job, hjob, -⟩ := h.quiet l hl
      have hlt := (List.getElem?_eq_some_iff.mp hjob).1
      omega
    have hconcat := h.unique.concat hfresh
    rw [concat_eq_append] at hconcat
    rw [Dispatch.withVehicle, map_append, map_singleton]
    exact hconcat

lemma LinkInv.bookVehicles {seen : Dispatch} {reference : String} {b : Booking} {vs : List String}
    {db' : Dispatch} (hb : db.bookings[booking]? = some b) (hconfirmed : b.status = .confirmed)
    (hbook : H2Fleet.Infra.bookVehicles seen reference booking b.startsAt b.endsAt vs db = .ok db')
    : LinkInv db' := by
  induction vs generalizing db with
  | nil => exact Except.ok.inj hbook ▸ h
  | cons v vs ih =>
    refine ih (h.withVehicle hb hconfirmed reference v) ?_ (bookVehicles_cons_eq_ok hbook)
    rw [withVehicle_bookings]
    exact hb

lemma LinkInv.cancelCharter (id : ℕ) (b : Booking) : LinkInv { db with
      bookings := db.bookings.set id { b with status := .cancelled }
      jobs := db.jobs.mapIdx (db.cancelLinked id) } := by
  have hmap : ∀ l job, db.jobs[l]? = some job →
      (db.jobs.mapIdx (db.cancelLinked id))[l]? = some (db.cancelLinked id l job) := by
    intro l job hjob
    rw [getElem?_mapIdx, hjob, Option.map_some]
  refine ⟨?_, ?_, ?_, h.unique⟩
  · intro l hl b' hb'
    rcases getElem?_set_cases hb' with ⟨hid, rfl⟩ | ⟨hne, hold⟩
    · obtain ⟨job, hjob, -⟩ := h.quiet l hl
      refine ⟨_, hmap _ _ hjob, nofun, fun _ => ?_⟩
      have hlinked : db.Linked id l.jobID := ⟨l, hl, hid, rfl⟩
      simp only [cancelLinked, hlinked, true_and]
      split_ifs with hactive
      · exact not_active_cancelled
      · exact hactive
    · obtain ⟨job, hjob, hok⟩ := h.ok l hl b' hold
      have hunlinked : ¬ db.Linked id l.jobID := by
        rintro ⟨l', hl', hid', heq⟩
        rw [inj_on_of_nodup_map h.unique hl' hl heq] at hid'
        exact hne hid'
      refine ⟨_, hmap _ _ hjob, ?_⟩
      rw [cancelLinked, if_neg fun hboth => hunlinked hboth.1]
      exact hok
  · intro l hl
    rw [length_set]
    exact h.booked l hl
  · intro l hl
    obtain ⟨job, hjob, hquiet⟩ := h.quiet l hl
    refine ⟨_, hmap _ _ hjob, ?_⟩
    rw [cancelLinked]
    split_ifs <;> exact hquiet

omit h

end Frame

/-! ## Runs -/

lemma LinkInv.step {cfg : DispatchConfig} {db db' : Dispatch} {e : DispatchEvent} (hdb : LinkInv db)
    (hok : KeepsCharters db e) (h : db.step cfg e = some db') : LinkInv db' := by
  cases step_written h with
  | refused => exact hdb
  | created seen req => exact hdb.concatJob _
  | accepted seen id caller job hjob hassigned =>
    refine hdb.setJob hjob rfl fun l _ _ b _ hlink => ⟨fun hconfirmed => ?_, fun hcancelled => ?_⟩
    · exact ⟨.inr (.inl rfl), (hlink.1 hconfirmed).2⟩
    · exact absurd (.inl hassigned) (hlink.2 hcancelled)
  | cancelled id job hjob =>
    refine hdb.setJob hjob rfl fun l hl hid b hb _ => ⟨fun hconfirmed => ?_,
      fun _ => not_active_cancelled⟩
    exact absurd (confirmed_iff.mpr ⟨b, hb, hconfirmed⟩) (hok l hl hid)
  | swapped seen id vehicleID reason job hjob hswap =>
    refine hdb.setJob hjob rfl fun l hl hid b hb hlink => ⟨fun hconfirmed => ?_, hlink.2⟩
    obtain ⟨hactive, -, hwindow⟩ := hlink.1 hconfirmed
    rcases hok l hl hid (confirmed_iff.mpr ⟨b, hb, hconfirmed⟩) with hsame | hnot
    · exact ⟨hactive, by rw [hsame], hwindow⟩
    · exact absurd hswap (hnot job hjob)
  | booked seen req starts ends _ hvalid hbook =>
    have hstart := hdb.concatBooking ⟨req.reference, req.customerName, starts, ends, .confirmed⟩
    exact hstart.bookVehicles getElem?_concat_length rfl hbook
  | released id b => exact hdb.cancelCharter id b
  | requeued id job hjob hsignalled =>
    -- the workflow knows the job, so no charter does
    refine hdb.setJob hjob rfl fun l hl hid => ?_
    obtain ⟨job', hjob', hquiet⟩ := hdb.quiet l hl
    rw [hid, hjob, Option.some.injEq] at hjob'
    rw [hjob', hquiet] at hsignalled
    cases hsignalled

lemma LinkInv.broken {cfg : DispatchConfig} {db db' : Dispatch} {e : DispatchEvent}
    (hdb : LinkInv db) (hok : ¬ KeepsCharters db e) (h : db.step cfg e = some db') :
    ¬ CharterOk db' := by
  cases e with
  | cancelJob id =>
    simp only [KeepsCharters, not_forall, not_not] at hok
    obtain ⟨l, hl, rfl, hconfirmed⟩ := hok
    obtain ⟨b, hb, hconfirmed⟩ := confirmed_iff.mp hconfirmed
    obtain ⟨job, hjob, hlink⟩ := hdb.ok l hl b hb
    have hactive := (hlink.1 hconfirmed).1
    cases h
    rcases cancelDispatchJob_writes db l.jobID with ⟨-, hnot⟩ | ⟨job₁, hjob₁, heq⟩
    · exact absurd hactive (hnot job hjob)
    · rw [heq]
      intro hbroken
      obtain ⟨job', hjob', hlink'⟩ := hbroken l hl b hb
      rcases getElem?_set_cases hjob' with ⟨-, rfl⟩ | ⟨hne, -⟩
      · exact not_active_cancelled (hlink'.1 hconfirmed).1
      · exact hne rfl
  | swapVehicle seen id vehicleID reason =>
    simp only [KeepsCharters, not_forall, not_or, not_not] at hok
    obtain ⟨l, hl, rfl, hconfirmed, hother, job, hjob, hswap⟩ := hok
    obtain ⟨b, hb, hconfirmed⟩ := confirmed_iff.mp hconfirmed
    cases h
    rw [swapDispatchVehicle_swaps hjob hswap]
    intro hbroken
    obtain ⟨job', hjob', hlink'⟩ := hbroken l hl b hb
    rcases getElem?_set_cases hjob' with ⟨-, rfl⟩ | ⟨hne, -⟩
    · exact hother (Option.some.inj (hlink'.1 hconfirmed).2.1).symm
    · exact hne rfl
  | createJob | acceptJob | createCharter | cancelCharter | requeueJob =>
    exact absurd trivial hok

/-- **When a confirmed charter keeps its buses.**  A charter not booked leaves nothing; and every
row is in order throughout if and only if no step cancels the job of a confirmed charter by itself
or moves it to another vehicle. -/
theorem charters_keep_buses_iff {cfg : DispatchConfig} {drivers : List Driver}
    {vehicles : List String} {events : List DispatchEvent} {t : Dispatch}
    (hrun : run (step cfg) (.init drivers vehicles) events = some t) :
    (∀ (seen db : Dispatch) (req : CharterRequest), ¬ (createCharter seen db req).1.Success →
      (createCharter seen db req).2 = db) ∧
    (Throughout (step cfg) CharterOk (.init drivers vehicles) events ↔
      Meets (step cfg) KeepsCharters (.init drivers vehicles) events) := by
  refine ⟨fun seen db req hfailed => ?_, ?_⟩
  · rcases createCharter_writes seen db req with heq | ⟨_, _, db', -, -, heq⟩
    · exact heq
    · rw [heq] at hfailed
      exact absurd Reply.success_created hfailed
  · have hinit : LinkInv (.init drivers vehicles) :=
      ⟨nofun, nofun, nofun, nodup_nil⟩
    exact throughout_iff_meets_always (fun _ hs => hs.ok) LinkInv.step LinkInv.broken hinit hrun

def depot : Dispatch := .init [⟨"ada", "active"⟩] ["bus-1", "bus-2"]

def schoolTrip : CharterRequest := ⟨"school", "city school", some 0, some 10, ["bus-1"]⟩

def afterTrip : Dispatch := (createCharter depot depot schoolTrip).2

/-- A trip is booked, the other bus dispatched and cancelled, the trip cancelled. -/
def quietDay : List DispatchEvent :=
  [.createCharter depot schoolTrip, .createJob afterTrip ⟨"ada", some "bus-2", "r1", some 0, none⟩,
    .acceptJob afterTrip 1 "ada", .cancelJob 1, .cancelCharter 0]

def noLimits : DispatchConfig := ⟨100, 100, fun t => t, fun t => t, fun _ _ => ""⟩

theorem quietDay_keeps_charters : (∃ t, run (step noLimits) depot quietDay = some t ∧
        t.bookings.map Booking.status = [.cancelled] ∧
        t.jobs.map Job.status = [.cancelled, .cancelled]) ∧
      Throughout (step noLimits) CharterOk depot quietDay := by
  obtain ⟨t, ht, hend⟩ : ∃ t, run (step noLimits) depot quietDay = some t ∧
      t.bookings.map Booking.status = [.cancelled] ∧
      t.jobs.map Job.status = [.cancelled, .cancelled] := by decide +kernel
  exact ⟨⟨t, ht, hend⟩, (charters_keep_buses_iff ht).2.mpr (by decide +kernel)⟩

/-- The job of a confirmed trip is cancelled, or moved to the other bus. -/
theorem charter_loses_bus :
    (∃ t, run (step noLimits) depot [.createCharter depot schoolTrip, .cancelJob 0] = some t ∧
        t.bookings.map Booking.status = [.confirmed] ∧ t.links = [⟨0, "bus-1", 0⟩] ∧
        t.jobs.map Job.status = [.cancelled]) ∧
      ∃ t, run (step noLimits) depot
          [.createCharter depot schoolTrip, .swapVehicle afterTrip 0 "bus-2" "flat tyre"] = some t ∧
        t.bookings.map Booking.status = [.confirmed] ∧ t.links = [⟨0, "bus-1", 0⟩] ∧
        t.jobs.map Job.vehicleID = [some "bus-2"] :=
  ⟨⟨_, rfl, rfl, rfl, rfl⟩, _, rfl, rfl, rfl, rfl⟩

end H2Fleet.Infra
