import H2Fleet.Core.History
import H2Fleet.Infra.CharterLinks

/-!
# The replay of a charter

A `CreateCharter` whose reference is taken is answered with the booking that has it, if the request
is the client's retry: the comment says that the same window and vehicles make it one.  The code
compares the customer and the window, and asks neither for the vehicles nor whether the booking was
cancelled since.
-/

namespace H2Fleet.Infra

open List

/-- What the handler compares. -/
def CharterRequest.SameTerms (req first : CharterRequest) : Prop :=
  req.customerName = first.customerName ∧ req.startsAt = first.startsAt ∧ req.endsAt = first.endsAt
  deriving Decidable

def CharterRequest.SameVehicles (req first : CharterRequest) : Prop :=
  ∀ v, v ∈ req.vehicleIDs ↔ v ∈ first.vehicleIDs

def Booking.Of (b : Booking) (req : CharterRequest) : Prop :=
  b.reference = req.reference ∧ b.customerName = req.customerName ∧ some b.startsAt = req.startsAt ∧
    some b.endsAt = req.endsAt

def Books (id : ℕ) (first : CharterRequest) (db : Dispatch) (e : DispatchEvent) : Prop :=
  ∃ seen, e = .createCharter seen first ∧ (createCharter seen db first).1 = .created ∧
    db.bookings.length = id

variable {db db' : Dispatch} {req : CharterRequest} {b : Booking} {starts ends : ℤ}

lemma createCharter_reused (seen : Dispatch) (hvalid : req.Valid starts ends) (hb : b ∈ db.bookings)
    (href : b.reference = req.reference) : ∃ c ∈ db.bookings, c.reference = req.reference ∧
      createCharter seen db req =
        (if c.customerName = req.customerName ∧ c.startsAt = starts ∧ c.endsAt = ends then .ok
          else .conflict "reference already used by a different charter booking", db) := by
  cases hfind : db.bookings.find? fun b => b.reference = req.reference with
  | none => exact absurd href (by simpa using find?_eq_none.mp hfind b hb)
  | some c =>
    refine ⟨c, mem_of_find?_eq_some hfind, by simpa using find?_some hfind, ?_⟩
    simp only [createCharter, checkCharter_eq_ok.mpr hvalid, hfind]
    split_ifs <;> rfl

lemma checkCharter_code {r : Reply} (h : checkCharter req = .error r) : r.code = 400 := by
  rw [checkCharter] at h
  split at h
  · cases h
    rfl
  · split at h
    · split_ifs at h <;> cases h <;> rfl
    · cases h
      rfl

lemma bookVehicles_bookings {seen : Dispatch} {reference : String} {booking : ℕ} {vs : List String}
    (h : bookVehicles seen reference booking starts ends vs db = .ok db') :
    db'.bookings = db.bookings := by
  induction vs generalizing db with
  | nil => rw [Except.ok.inj h]
  | cons v vs ih => rw [ih (bookVehicles_cons_eq_ok h), withVehicle_bookings]

/-- **What a step does to the bookings**: it books a new reference, or changes a status. -/
lemma step_bookings {cfg : DispatchConfig} {e : DispatchEvent} (h : db.step cfg e = some db') :
    (∀ (id : ℕ) (b' : Booking), db'.bookings[id]? = some b' →
        ∃ b st, db.bookings[id]? = some b ∧ b' = { b with status := st }) ∨
      ∃ first b, Books db.bookings.length first db e ∧ b.Of first ∧
        (∀ c ∈ db.bookings, c.reference ≠ b.reference) ∧ db'.bookings = db.bookings ++ [b] := by
  cases e with
  | createCharter seen req =>
    cases h
    rcases createCharter_writes seen db req with heq | ⟨starts, ends, db', hvalid, hbook, heq⟩
    · exact .inl fun id b hb => ⟨b, b.status, heq ▸ hb, rfl⟩
    · refine .inr ⟨req, ⟨req.reference, req.customerName, starts, ends, .confirmed⟩,
        ⟨seen, rfl, by rw [heq], rfl⟩, ⟨rfl, rfl, hvalid.startsAt.symm, hvalid.endsAt.symm⟩,
        fun c hc href => ?_, by rw [heq, bookVehicles_bookings hbook]⟩
      obtain ⟨b, -, -, hreused⟩ := createCharter_reused seen hvalid hc href
      have hcode := congrArg (fun r => r.1.code) (hreused.symm.trans heq)
      split_ifs at hcode <;> cases hcode
  | cancelCharter id =>
    cases h
    refine .inl fun j b' hb' => ?_
    rcases cancelCharter_writes db id with heq | ⟨b, hb, heq⟩ <;> rw [heq] at hb'
    · exact ⟨b', b'.status, hb', rfl⟩
    · rcases getElem?_set_cases hb' with ⟨rfl, rfl⟩ | ⟨-, hold⟩
      · exact ⟨b, _, hb, rfl⟩
      · exact ⟨b', b'.status, hold, rfl⟩
  | _ => cases Dispatch.step_written h <;> exact .inl fun id b hb => ⟨b, b.status, hb, rfl⟩

section Runs

variable (cfg : DispatchConfig) (drivers : List Driver) (vehicles : List String)

/-- One booking for each reference, and each was made by a call. -/
structure Charters (es : List DispatchEvent) (db : Dispatch) : Prop where
  unique : ∀ (i j : ℕ) (b c : Booking), db.bookings[i]? = some b → db.bookings[j]? = some c →
    i ≠ j → b.reference ≠ c.reference
  origin : ∀ (id : ℕ) (b : Booking), db.bookings[id]? = some b →
    ∃ first, b.Of first ∧ Took (Dispatch.step cfg) (.init drivers vehicles) es (Books id first)

variable {cfg drivers vehicles} {es : List DispatchEvent}

lemma charters_of_run (hrun : run (Dispatch.step cfg) (.init drivers vehicles) es = some db) :
    Charters cfg drivers vehicles es db := by
  refine run_history ⟨fun i j b c hb => ?_, fun id b hb => ?_⟩ ?_ hrun
  · cases hb
  · cases hb
  intro es db e db' hrun hdb h
  rcases step_bookings h with hsame | ⟨first, b, hbooks, hof, hfresh, heq⟩
  · refine ⟨fun i j b' c' hb' hc' hij => ?_, fun id b' hb' => ?_⟩
    · obtain ⟨b, st, hb, rfl⟩ := hsame i b' hb'
      obtain ⟨c, st', hc, rfl⟩ := hsame j c' hc'
      exact hdb.unique i j b c hb hc hij
    · obtain ⟨b, st, hb, rfl⟩ := hsame id b' hb'
      obtain ⟨first, hof, htook⟩ := hdb.origin id b hb
      exact ⟨first, hof, htook.concat e⟩
  · constructor <;> rw [heq]
    · exact forall_pair_concat (fun _ _ => Ne.symm) hdb.unique fun _ c hc =>
        hfresh c (mem_of_getElem? hc)
    · refine forall_slot_concat (fun id c hc => ?_) ⟨first, hof, .last hrun hbooks⟩
      obtain ⟨first, hof, htook⟩ := hdb.origin id c hc
      exact ⟨first, hof, htook.concat e⟩

/-- **What the replay of a charter means.**  No two bookings have one reference, and a request with
the reference of a booking changes nothing and is answered 200 exactly for the same customer and
window.  Such an answer means a confirmed booking of the same request exactly if the vehicles are
the same too and it was not cancelled. -/
theorem charter_replayed_iff (hrun : run (Dispatch.step cfg) (.init drivers vehicles) es = some db)
    (seen : Dispatch) (req : CharterRequest) :
    (∀ (i j : ℕ) (b c : Booking), db.bookings[i]? = some b → db.bookings[j]? = some c → i ≠ j →
      b.reference ≠ c.reference) ∧
    ∀ (id : ℕ) (b : Booking), db.bookings[id]? = some b → b.reference = req.reference →
      ∃ first, Took (Dispatch.step cfg) (.init drivers vehicles) es (Books id first) ∧
        createCharter seen db req = (match checkCharter req with
          | .error r => r
          | .ok _ => if req.SameTerms first then .ok
            else .conflict "reference already used by a different charter booking", db) ∧
        (((createCharter seen db req).1 = .ok →
            b.status = .confirmed ∧ req.SameTerms first ∧ req.SameVehicles first) ↔
          ((checkCharter req).isOk = true → req.SameTerms first →
            b.status = .confirmed ∧ req.SameVehicles first)) := by
  have hdb := charters_of_run hrun
  refine ⟨hdb.unique, fun id b hb href => ?_⟩
  obtain ⟨first, ⟨-, hcustomer, hstarts, hends⟩, htook⟩ := hdb.origin id b hb
  refine ⟨first, htook, ?_⟩
  cases hcheck : checkCharter req with
  | error r =>
    have hne : r ≠ .ok := fun heq => absurd (checkCharter_code hcheck) (by rw [heq]; decide)
    simp [createCharter, hcheck, hne, Except.isOk, Except.toBool]
  | ok window =>
    have hvalid := checkCharter_eq_ok.mp hcheck
    obtain ⟨c, hc, hcref, heq⟩ := createCharter_reused seen hvalid (mem_of_getElem? hb) href
    obtain ⟨j, hj⟩ := mem_iff_getElem?.mp hc
    obtain rfl : j = id :=
      by_contra fun hne => hdb.unique j id c b hj hb hne (hcref.trans href.symm)
    cases hb.symm.trans hj
    have hterms :
      (b.customerName = req.customerName ∧ b.startsAt = window.1 ∧ b.endsAt = window.2) =
        req.SameTerms first := by
      rw [CharterRequest.SameTerms, hvalid.startsAt, hvalid.endsAt, ← hcustomer, ← hstarts, ← hends,
        Option.some.injEq, Option.some.injEq, @eq_comm _ req.customerName, @eq_comm _ window.1,
        @eq_comm _ window.2]
    simp only [hterms] at heq
    refine ⟨heq, ?_⟩
    rw [heq]
    by_cases hsame : req.SameTerms first
    · simp [hsame, Except.isOk, Except.toBool]
    · simp [hsame, Reply.ok, Reply.conflict]

end Runs

theorem charter_replayed_unchanged :
    run (Dispatch.step noLimits) depot [.createCharter depot schoolTrip] = some afterTrip ∧
      createCharter afterTrip afterTrip schoolTrip = (.ok, afterTrip) ∧
      ∃ first, Took (Dispatch.step noLimits) depot [.createCharter depot schoolTrip]
      (Books 0 first) := by
  have hrun : run (Dispatch.step noLimits) depot [.createCharter depot schoolTrip] =
    some afterTrip := rfl
  refine ⟨hrun, by decide +kernel, ?_⟩
  obtain ⟨-, hreplay⟩ := charter_replayed_iff hrun afterTrip schoolTrip
  obtain ⟨first, htook, -⟩ := hreplay 0 ⟨"school", "city school", 0, 10, .confirmed⟩ rfl rfl
  exact ⟨first, htook⟩

/-- **A cancelled charter is replayed**, for another bus. -/
theorem cancelled_charter_replayed :
    ((run (Dispatch.step noLimits) depot [.createCharter depot schoolTrip, .cancelCharter 0]).map
    fun db =>
      ((createCharter db db { schoolTrip with vehicleIDs := ["bus-2"] }).1,
        db.bookings.map Booking.status,
        db.links.map CharterVehicle.vehicleID)) = some (.ok, [.cancelled], ["bus-1"]) := by
  decide +kernel

end H2Fleet.Infra
