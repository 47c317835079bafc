import H2Fleet.Commerce.Fare
import H2Fleet.Core.Slots
import H2Fleet.Core.Run

/-!
# Campaigns and placements

One row of `commerce.ad_campaigns` and the calls that concern it.  `CreateAdPlacement` locks the
row, compares what is committed with the budget, and inserts.  `UpdateCampaign` reads the status in
one statement and writes it in another, which waits for the lock but looks at nothing.
-/

namespace H2Fleet.Commerce

/-! ## Rows and calls -/

inductive CampaignStatus where
  | draft
  | active
  | paused
  | ended
  deriving DecidableEq

def campaignStatusTransitions : CampaignStatus → CampaignStatus → Bool
  | .draft, new => new = .draft ∨ new = .active ∨ new = .ended
  | .active, new => new = .active ∨ new = .paused ∨ new = .ended
  | .paused, new => new = .paused ∨ new = .active ∨ new = .ended
  | .ended, new => new = .ended

/-- `createPlacementRequest`, and the row that is made of it. -/
structure Placement where
  inventoryID : String
  startsAt : ℤ
  endsAt : ℤ
  costMinor : ℤ
  cost_range : InInt64 costMinor

def Placement.refusal (p : Placement) : Option String :=
  if p.inventoryID = "" then some "campaign_id and inventory_id are required"
  else if p.endsAt ≤ p.startsAt then some "ends_at must be after starts_at"
  else if p.costMinor < 0 then some "cost_minor must not be negative"
  else none

/-- `checked` has the lock and has still to insert. -/
inductive BookingPc where
  | started
  | checked
  | done (code : ℕ) (error : String)
  deriving DecidableEq

structure Booking where
  req : Placement
  accepted : req.refusal = none
  pc : BookingPc

/-- An `UpdateCampaign` call that has `read` a status and not written. -/
structure StatusUpdate where
  read : CampaignStatus
  status : CampaignStatus
  edge : campaignStatusTransitions read status = true

/-- The row, its placements, the booking that has locked it, the calls.  `CreateCampaign` refuses a
negative budget. -/
structure Campaign where
  status : CampaignStatus
  budgetMinor : ℤ
  budget_range : 0 ≤ budgetMinor ∧ budgetMinor < 2 ^ 63
  placements : List Placement
  lock : Option ℕ
  bookings : List Booking
  updates : List StatusUpdate

/-- A booking is told whether its slot is active, and the exclusion constraint lets it in. -/
inductive AdEvent where
  | book (req : Placement)
  | check (i : ℕ) (slot : Option Bool)
  | insert (i : ℕ) (overlaps : Bool)
  | rollback (i : ℕ)
  | readStatus (status : CampaignStatus)
  | writeStatus (i : ℕ)

namespace Campaign

open Option

variable (s : Campaign)

def committed : ℤ := (s.placements.map (·.costMinor)).sum

/-- What the transaction is refused with.  A sum that does not fit is an error of `Scan`; the
addition wraps. -/
def refuse (p : Placement) (slot : Option Bool) : Option (ℕ × String) :=
  if s.status = .ended then some (409, "cannot book placements on an ended campaign")
  else if slot = none then some (404, "inventory slot not found")
  else if slot = some false then some (409, "inventory slot is inactive")
  else if ¬ InInt64 s.committed then some (500, "internal error")
  else if s.budgetMinor < toInt64 (s.committed + p.costMinor) then some (409, "budget_exceeded")
  else none

def goOn (i : ℕ) (b : Booking) (pc : BookingPc) (lock : Option ℕ) : Campaign :=
  { s with bookings := s.bookings.set i { b with pc := pc }, lock := lock }

/-- **One step.**  UPDATEs wait for the lock, as bookings do. -/
def step : AdEvent → Option Campaign
  | .book req =>
    if h : req.refusal = none then some { s with bookings := s.bookings ++ [⟨req, h, .started⟩] }
      else some s
  | .check i slot => (s.bookings[i]?.filter fun b => b.pc = .started ∧ s.lock = none).map fun b =>
    match s.refuse b.req slot with
    | some (code, error) => s.goOn i b (.done code error) none
    | none => s.goOn i b .checked (some i)
  | .insert i overlaps => (s.bookings[i]?.filter fun b => b.pc = .checked).map fun b =>
    if overlaps then
      s.goOn i b
        (.done 409 "slot_already_booked: an overlapping placement exists for this inventory slot")
        none
    else { s.goOn i b (.done 201 "") none with placements := s.placements ++ [b.req] }
  | .rollback i => (s.bookings[i]?.filter fun b => b.pc = .checked).map fun b =>
    s.goOn i b (.done 500 "internal error") none
  | .readStatus status =>
    if h : campaignStatusTransitions s.status status = true then
      some { s with updates := s.updates ++ [⟨s.status, status, h⟩] }
    else some s
  | .writeStatus i => (s.updates[i]?.filter fun _ => s.lock = none).map fun u =>
    { s with status := u.status, updates := s.updates.eraseIdx i }

/-! ## Under the lock -/

/-- **While booking `j` has the row** the lock is its own, the campaign is not ended, and the
comparison stands. -/
def Guarded (j : ℕ) (b : Booking) : Prop :=
  s.lock = some j ∧ s.status ≠ .ended ∧ InInt64 s.committed ∧
    toInt64 (s.committed + b.req.costMinor) ≤ s.budgetMinor

def AdInv : Prop := ∀ j b, s.bookings[j]? = some b → b.pc = .checked → s.Guarded j b

variable {s s' : Campaign} {e : AdEvent} {i : ℕ} {b : Booking}

/-- **The step rule of a booking**: if nobody else has the lock, nobody else relies on it. -/
lemma AdInv.goOn (h : s.AdInv) {pc : BookingPc} (hlock : ∀ j, s.lock = some j → j = i)
    (hs' : s'.bookings = s.bookings.set i { b with pc := pc })
    (hb : pc = .checked → s'.Guarded i b) : s'.AdInv := by
  intro j b' hj hpc
  rw [hs'] at hj
  rcases getElem?_set_cases hj with ⟨rfl, rfl⟩ | ⟨hne, hj⟩
  · exact hb hpc
  · exact absurd (hlock j (h j b' hj hpc).1) hne

lemma AdInv.step (h : s.AdInv) (hstep : s.step e = some s') : s'.AdInv := by
  cases e with
  | book req =>
    simp only [Campaign.step] at hstep
    split_ifs at hstep
    · cases hstep
      exact forall_slot_concat h nofun
    · cases hstep
      exact h
  | check i slot =>
    obtain ⟨b, hb, rfl⟩ := map_eq_some_iff.mp hstep
    have hfree : ∀ j, s.lock = some j → j = i := by
      simp [of_decide_eq_true (filter_eq_some_iff.mp hb).2]
    split
    · exact h.goOn hfree rfl nofun
    · next hnone =>
      refine h.goOn hfree rfl fun _ => ?_
      rw [refuse] at hnone
      split_ifs at hnone with hended hslot hinactive hsum hbudget
      exact ⟨rfl, hended, hsum, not_lt.mp hbudget⟩
  | insert i overlaps | rollback i =>
    obtain ⟨b, hb, rfl⟩ := map_eq_some_iff.mp hstep
    obtain ⟨hi, hpc⟩ := filter_eq_some_iff.mp hb
    have hown : ∀ j, s.lock = some j → j = i := by simp [(h i b hi (of_decide_eq_true hpc)).1]
    try split_ifs
    all_goals exact h.goOn hown rfl nofun
  | readStatus status =>
    simp only [Campaign.step] at hstep
    split_ifs at hstep <;> cases hstep <;> exact h
  | writeStatus i =>
    obtain ⟨u, hu, rfl⟩ := map_eq_some_iff.mp hstep
    have hlock := of_decide_eq_true (filter_eq_some_iff.mp hu).2
    intro j b hj hpc
    cases hlock.symm.trans (h j b hj hpc).1

/-! ## Budget and status -/

/-- A booking that is inserted has not left the range in its comparison. -/
def NoWrap (s : Campaign) : AdEvent → Prop
  | .insert i false => ∀ b, s.bookings[i]? = some b → b.pc = .checked →
      s.committed + b.req.costMinor < 2 ^ 63
  | _ => True

instance (s : Campaign) (e) : Decidable (s.NoWrap e) := by
  unfold NoWrap; split <;> infer_instance

/-- The status that is overwritten is the one that the call has read. -/
def StillRead (s : Campaign) : AdEvent → Prop
  | .writeStatus i => ∀ u ∈ s.updates[i]?, s.status = u.read
  | _ => True

instance (s : Campaign) (e) : Decidable (s.StillRead e) := by
  unfold StillRead; split <;> infer_instance

/-- **What a step does**: nothing, insert a booking, or write a status. -/
lemma effect_of_step (hstep : s.step e = some s') : s'.budgetMinor = s.budgetMinor ∧
    ((s'.status = s.status ∧ s'.placements = s.placements ∧ s.NoWrap e) ∨
    (∃ i b, e = .insert i false ∧ s.bookings[i]? = some b ∧ b.pc = .checked ∧ s'.status = s.status ∧
      s'.placements = s.placements ++ [b.req]) ∨
    ∃ i u, e = .writeStatus i ∧ s.updates[i]? = some u ∧ s'.status = u.status ∧
      s'.placements = s.placements) := by
  cases e with
  | insert i overlaps =>
    obtain ⟨b, hb, rfl⟩ := map_eq_some_iff.mp hstep
    obtain ⟨hi, hpc⟩ := filter_eq_some_iff.mp hb
    cases overlaps with
    | true => exact ⟨rfl, .inl ⟨rfl, rfl, trivial⟩⟩
    | false => exact ⟨rfl, .inr (.inl ⟨i, b, rfl, hi, of_decide_eq_true hpc, rfl, rfl⟩)⟩
  | writeStatus i =>
    obtain ⟨u, hu, rfl⟩ := map_eq_some_iff.mp hstep
    exact ⟨rfl, .inr (.inr ⟨i, u, rfl, (filter_eq_some_iff.mp hu).1, rfl, rfl⟩)⟩
  | book | readStatus =>
    simp only [Campaign.step] at hstep
    split_ifs at hstep <;> cases hstep <;> exact ⟨rfl, .inl ⟨rfl, rfl, trivial⟩⟩
  | check | rollback =>
    obtain ⟨_, -, rfl⟩ := map_eq_some_iff.mp hstep
    try split
    all_goals exact ⟨rfl, .inl ⟨rfl, rfl, trivial⟩⟩

def Within (s : Campaign) : Prop := s.committed ≤ s.budgetMinor

lemma within_step_iff (h : s.Within) (hinv : s.AdInv) (hstep : s.step e = some s') :
    s'.Within ↔ s.NoWrap e := by
  obtain ⟨hbudget, ⟨-, hplacements, hok⟩ | ⟨i, b, rfl, hi, hpc, -, hplacements⟩ |
    ⟨i, u, rfl, -, -, hplacements⟩⟩ := effect_of_step hstep
  · rw [Within, committed, hplacements, hbudget]
    exact iff_of_true h hok
  · obtain ⟨-, -, ⟨hlow, -⟩, hsum⟩ := hinv i b hi hpc
    have hcost : 0 ≤ b.req.costMinor := by
      have haccepted := b.accepted
      rw [Placement.refusal] at haccepted
      split_ifs at haccepted with _ _ hneg
      exact not_lt.mp hneg
    have hnew : s'.committed = s.committed + b.req.costMinor := by simp [committed, hplacements]
    rw [Within, hnew, hbudget]
    constructor
    · intro hle b' hi' _
      cases hi.symm.trans hi'
      exact lt_of_le_of_lt hle s.budget_range.2
    · intro hok
      rwa [toInt64_eq ⟨by omega, hok b hi hpc⟩] at hsum
  · rw [Within, committed, hplacements, hbudget]
    exact iff_of_true h trivial

structure Fresh (s : Campaign) : Prop where
  placements : s.placements = []
  bookings : s.bookings = []

lemma Fresh.inv (h : s.Fresh) : s.AdInv := by
  intro j b hj
  simp [h.bookings] at hj

/-- **The budget is kept** exactly if no comparison that lets a placement in wraps. -/
theorem campaign_within_budget_iff {s t : Campaign} (hs : s.Fresh) {es : List AdEvent}
    (hrun : run step s es = some t) : Throughout step Within s es ↔ Meets step NoWrap s es := by
  refine throughout_iff_meets (Q := fun _ => True) (fun s (h : s.AdInv ∧ s.Within) => h.2)
    (fun s e s' h _ hok hstep => ⟨h.1.step hstep, (within_step_iff h.2 h.1 hstep).mpr hok⟩)
    (fun s e s' h _ hbad hstep hwithin => hbad ((within_step_iff h.2 h.1 hstep).mp hwithin))
    ⟨hs.inv, ?_⟩ (fun _ _ => trivial) hrun
  rw [Within, committed, hs.placements]
  exact s.budget_range.1

def small : Campaign := ⟨.active, 100, by decide, [], none, [], []⟩

def twoBookings (cost cost' : ℤ) (h : InInt64 cost) (h' : InInt64 cost') : List AdEvent :=
  [.book ⟨"a", 0, 1, cost, h⟩, .book ⟨"b", 0, 1, cost', h'⟩, .check 0 (some true), .insert 0 false,
    .check 1 (some true)]

theorem campaign_within_budget_sixty :
    (run step small (twoBookings 60 60 (by decide) (by decide))).map (fun s =>
    s.bookings.map (·.pc)) =
      some [.done 201 "", .done 409 "budget_exceeded"] ∧
    Throughout step Within small (twoBookings 60 60 (by decide) (by decide)) :=
  ⟨by decide +kernel, (campaign_within_budget_iff ⟨rfl, rfl⟩ rfl).mpr (by decide +kernel)⟩

/-- **A cost at the end of the range wraps** and is taken for less than nothing. -/
theorem wrapped_cost_is_accepted : ∃ s, run step small
    (twoBookings 10 (2 ^ 63 - 1) (by decide) (by decide) ++ [.insert 1 false]) = some s ∧
      s.committed = 2 ^ 63 + 9 := by
  decide +kernel

/-- The step moves the status along an edge and does not leave `ended`. -/
def AlongEdge (s : Campaign) (e : AdEvent) : Prop := ∀ s', s.step e = some s' →
  campaignStatusTransitions s.status s'.status = true ∧ (s.status = .ended → s'.status = .ended)

/-- The step books nothing on an ended campaign. -/
def BooksOpen (s : Campaign) (e : AdEvent) : Prop := ∀ s', s.step e = some s' →
  s'.placements = s.placements ∨ s.status ≠ .ended ∧ s'.status = s.status

lemma AdInv.booksOpen (h : s.AdInv) : s.BooksOpen e := by
  intro s' hstep
  obtain ⟨-, ⟨-, hplacements, -⟩ | ⟨i, b, rfl, hi, hpc, hstatus, -⟩ | ⟨-, -, -, -, -,
    hplacements⟩⟩ :=
    effect_of_step hstep
  · exact .inl hplacements
  · exact .inr ⟨(h i b hi hpc).2.1, hstatus⟩
  · exact .inl hplacements

lemma alongEdge_of_stillRead (hok : s.StillRead e) : s.AlongEdge e := by
  intro s' hstep
  have hrefl : ∀ x : CampaignStatus, campaignStatusTransitions x x = true := by
    rintro (_ | _ | _ | _) <;> rfl
  have hlast : ∀ x : CampaignStatus, campaignStatusTransitions .ended x = true → x = .ended := by
    rintro (_ | _ | _ | _) <;> simp [campaignStatusTransitions]
  obtain ⟨-, ⟨hstatus, -⟩ | ⟨-, -, -, -, -, hstatus, -⟩ | ⟨i, u, rfl, hu, hstatus, -⟩⟩ :=
    effect_of_step hstep
  · rw [hstatus]
    exact ⟨hrefl _, id⟩
  · rw [hstatus]
    exact ⟨hrefl _, id⟩
  · -- the edge that `UpdateCampaign` has checked starts at the status that is overwritten
    have hedge := u.edge
    rw [← hok u hu, ← hstatus] at hedge
    exact ⟨hedge, fun hended => hlast _ (hended ▸ hedge)⟩

/-- **Statuses and bookings**: nothing is booked on an ended campaign, and if writes find the status
their call has read, every change is an edge. -/
theorem campaign_status_edges {s : Campaign} (hs : s.Fresh) (es : List AdEvent) :
    Meets step BooksOpen s es ∧ (Meets step StillRead s es → Meets step AlongEdge s es) := by
  have hstep : ∀ (s : Campaign) e s', s.AdInv → s.step e = some s' → s'.AdInv :=
    fun _ _ _ h => h.step
  have hany : Meets step (fun _ _ => True) s es := .of_forall fun _ _ => trivial
  exact ⟨hany.imp (fun _ _ h _ => h.booksOpen) hstep hs.inv,
    fun hok => hok.imp (fun _ _ _ => alongEdge_of_stillRead) hstep hs.inv⟩

/-- A campaign is paused and ended; a placement and a change come too late. -/
def pausedAndEnded : List AdEvent :=
  [.readStatus .paused, .writeStatus 0, .readStatus .ended, .book ⟨"a", 0, 1, 60, by decide⟩,
    .writeStatus 0, .check 0 (some true), .readStatus .active]

theorem campaign_status_edges_ended :
    (∃ s, run step small pausedAndEnded = some s ∧ s.status = .ended ∧
      s.bookings.map (·.pc) = [.done 409 "cannot book placements on an ended campaign"]) ∧
    Meets step BooksOpen small pausedAndEnded ∧ Meets step AlongEdge small pausedAndEnded := by
  have h := campaign_status_edges (s := small) ⟨rfl, rfl⟩ pausedAndEnded
  exact ⟨by decide +kernel, h.1, h.2 (by decide +kernel)⟩

/-- **An ended campaign is paused**: the call has read `active` before `ended` was written. -/
theorem ended_campaign_is_paused : ∃ s s',
    run step small [.readStatus .paused, .readStatus .ended, .writeStatus 1] = some s ∧
      s.step (.writeStatus 0) = some s' ∧ s.status = .ended ∧ s'.status = .paused :=
  ⟨_, _, rfl, rfl, rfl, rfl⟩

end Campaign

end H2Fleet.Commerce
