import Mathlib.Tactic

/-!
# Timetable, planner and feed

`nextArrivalsAfter` lists the departures of a route at a stop: every `HeadwayMin` minutes from 05:30
plus the ride to the stop, before 23:00, on the day that the moment it is given shows in its own
location.  `planJourney` gives it the arrival of the first leg for the second one, and that moment
is in UTC.  `gtfsFiles` describes the same service by the departures from the first stop.

Moments are nanoseconds, and a location is the offset that it has at each moment.
-/

namespace H2Fleet.Citizen

open List Option

/-! ## The timetable -/

def minute : ℤ := 60 * 10 ^ 9

def serviceStart : ℤ := 330 * minute
def serviceEnd : ℤ := 1380 * minute
def minutesPerStop : ℤ := 4

structure Route where
  routeID : String
  headwayMin : ℤ
  stopIDs : List String
  deriving DecidableEq

namespace Route

/-- `time.Duration(rt.HeadwayMin) * time.Minute`, in 64 bits. -/
def headway (rt : Route) : ℤ := (rt.headwayMin * minute).bmod (2 ^ 64)

/-- The headway is positive and fits. -/
def Regular (rt : Route) : Prop := 0 < rt.headwayMin ∧ rt.headwayMin * minute < 2 ^ 63
  deriving Decidable

lemma Regular.headway_eq {rt : Route} (h : rt.Regular) : rt.headway = rt.headwayMin * minute := by
  have := h.1
  have := h.2
  rw [headway, Int.bmod_eq_of_le] <;> rw [minute] at * <;> omega

end Route

variable (loc : ℤ → ℤ)

/-- `time.Date`: the offset is looked up as if the reading were UTC, and again where that leads. -/
def date (reading : ℤ) : ℤ :=
  if loc reading = 0 then reading else reading - loc (reading - loc reading)

/-- The reading at the beginning of the day of a moment. -/
def midnight (t : ℤ) : ℤ := (t + loc t) / (1440 * minute) * (1440 * minute)

def anchor (t : ℤ) : ℤ := date loc (midnight loc t + serviceStart)

def dayEnd (t : ℤ) : ℤ := date loc (midnight loc t + serviceEnd)

def utc (_ : ℤ) : ℤ := 0

/-- The loop of `nextArrivalsAfter`; none if it has not ended. -/
def loop (headway after stop : ℤ) : ℕ → ℤ → ℕ → Option (List ℤ)
  | 0, _, _ => none
  | fuel + 1, t, n =>
    if t < stop ∧ 0 < n then
      if after < t then (loop headway after stop fuel (t + headway) (n - 1)).map (t :: ·)
      else loop headway after stop fuel (t + headway) n
    else some []

/-- `serviceAnchor` and the ride to the stop. -/
def stopTime (after : ℤ) (i : ℕ) : ℤ := anchor loc after + i * minutesPerStop * minute

/-- A positive headway takes at least a nanosecond of the day in each round. -/
def nextArrivalsAfter (rt : Route) (i : ℕ) (after : ℤ) (n : ℕ) : List ℤ :=
  (loop rt.headway after (dayEnd loc after) ((dayEnd loc after - stopTime loc after i).toNat + 1)
    (stopTime loc after i) n).getD []

/-- **The departures of a service day**, that of the moment `t`. -/
def departures (t : ℤ) (rt : Route) (i : ℕ) : Set ℤ :=
  { x | x < dayEnd loc t ∧ ∃ k : ℕ, x = stopTime loc t i + k * (rt.headwayMin * minute) }

section Loop

variable {headway after stop : ℤ}

lemma mem_of_loop {x : ℤ} : ∀ {fuel n : ℕ} {t : ℤ} {l : List ℤ},
    loop headway after stop fuel t n = some l → x ∈ l →
    after < x ∧ x < stop ∧ ∃ k : ℕ, x = t + k * headway
  | fuel + 1, n, t, l, h, hx => by
    rw [loop] at h
    split_ifs at h with hgo hlisted
    · obtain ⟨l', hl', rfl⟩ := map_eq_some_iff.mp h
      rcases mem_cons.mp hx with rfl | hx
      · exact ⟨hlisted, hgo.1, 0, by simp⟩
      · obtain ⟨hafter, hstop, k, hk⟩ := mem_of_loop hl' hx
        exact ⟨hafter, hstop, k + 1, by push_cast; linarith⟩
    · obtain ⟨hafter, hstop, k, hk⟩ := mem_of_loop h hx
      exact ⟨hafter, hstop, k + 1, by push_cast; linarith⟩
    · cases h
      cases hx

/-- The first moment listed: those before it are not after the given one. -/
lemma head_of_loop {x : ℤ} : ∀ {fuel n : ℕ} {t : ℤ} {l : List ℤ},
    loop headway after stop fuel t n = some l → l.head? = some x →
    after < x ∧ ∃ k : ℕ, x = t + k * headway ∧ ∀ j < k, t + j * headway ≤ after
  | fuel + 1, n, t, l, h, hx => by
    rw [loop] at h
    split_ifs at h with hgo hlisted
    · obtain ⟨l', hl', rfl⟩ := map_eq_some_iff.mp h
      cases hx
      exact ⟨hlisted, 0, by simp, by simp⟩
    · obtain ⟨hafter, k, hk, hbefore⟩ := head_of_loop h hx
      refine ⟨hafter, k + 1, by push_cast; linarith, fun j hj => ?_⟩
      cases j with
      | zero => simpa using hlisted
      | succ j =>
        have hj := hbefore j (by omega)
        push_cast
        linarith
    · cases h
      cases hx

lemma loop_ends (hpos : 0 < headway) : ∀ {fuel n : ℕ} {t : ℤ}, stop - t ≤ fuel →
    ∃ l, loop headway after stop (fuel + 1) t n = some l
  | 0, n, t, hfuel => by
    push_cast at hfuel
    exact ⟨[], by rw [loop, if_neg (by omega)]⟩
  | fuel + 1, n, t, hfuel => by
    have hrest : ∀ m, ∃ l, loop headway after stop (fuel + 1) (t + headway) m = some l :=
      fun m => loop_ends hpos (by push_cast at hfuel; omega)
    rw [loop]
    split_ifs
    · obtain ⟨l, hl⟩ := hrest (n - 1)
      exact ⟨t :: l, by rw [hl]; rfl⟩
    · exact hrest n
    · exact ⟨[], rfl⟩

/-- Nothing is left out if `n` is large enough. -/
lemma mem_loop (hpos : 0 < headway) {k : ℕ} : ∀ {fuel n : ℕ} {t : ℤ} {l : List ℤ},
    loop headway after stop fuel t n = some l → stop - t ≤ n → after < t + k * headway →
    t + k * headway < stop → t + k * headway ∈ l
  | fuel + 1, n, t, l, h, hn, hafter, hstop => by
    have hle : 0 ≤ k * headway := by positivity
    rw [loop, if_pos ⟨by omega, by omega⟩] at h
    cases k with
    | zero =>
      rw [if_pos (by simpa using hafter)] at h
      obtain ⟨l', -, rfl⟩ := map_eq_some_iff.mp h
      simp
    | succ k =>
      have hnext : t + (k + 1 : ℕ) * headway = t + headway + k * headway := by push_cast; ring
      rw [hnext] at hafter hstop ⊢
      split_ifs at h
      · obtain ⟨l', hl', rfl⟩ := map_eq_some_iff.mp h
        exact mem_cons_of_mem _ (mem_loop hpos hl' (by omega) hafter hstop)
      · exact mem_loop hpos h (by omega) hafter hstop

lemma loop_increasing (hpos : 0 < headway) : ∀ {fuel n : ℕ} {t : ℤ} {l : List ℤ},
    loop headway after stop fuel t n = some l → l.length ≤ n ∧ l.Pairwise (· < ·)
  | fuel + 1, n, t, l, h => by
    rw [loop] at h
    split_ifs at h with hgo
    · obtain ⟨l', hl', rfl⟩ := map_eq_some_iff.mp h
      obtain ⟨hlength, hsorted⟩ := loop_increasing hpos hl'
      refine ⟨by rw [length_cons]; omega, hsorted.cons fun x hx => ?_⟩
      obtain ⟨-, -, k, rfl⟩ := mem_of_loop hl' hx
      have : 0 ≤ k * headway := by positivity
      omega
    · exact loop_increasing hpos h
    · cases h
      exact ⟨Nat.zero_le n, .nil⟩

end Loop

variable {loc} {rt : Route} {i : ℕ} {after : ℤ}

/-- With a positive headway the loop returns. -/
lemma loop_nextArrivalsAfter (hpos : 0 < rt.headway) (n : ℕ) :
    loop rt.headway after (dayEnd loc after) ((dayEnd loc after - stopTime loc after i).toNat + 1)
      (stopTime loc after i) n = some (nextArrivalsAfter loc rt i after n) := by
  obtain ⟨l, hl⟩ : ∃ l, loop rt.headway after (dayEnd loc after)
      ((dayEnd loc after - stopTime loc after i).toNat + 1) (stopTime loc after i) n = some l :=
    loop_ends hpos (Int.self_le_toNat _)
  rw [nextArrivalsAfter, hl, getD_some]

lemma Route.Regular.headway_pos (hreg : rt.Regular) : 0 < rt.headway := by
  rw [hreg.headway_eq]
  exact mul_pos hreg.1 (by decide)

lemma mem_nextArrivalsAfter_iff (hreg : rt.Regular) {n : ℕ}
    (hn : (dayEnd loc after - stopTime loc after i).toNat ≤ n) (x : ℤ) :
    x ∈ nextArrivalsAfter loc rt i after n ↔ after < x ∧ x ∈ departures loc after rt i := by
  have hloop := @loop_nextArrivalsAfter loc rt i after hreg.headway_pos n
  constructor
  · intro hx
    obtain ⟨hafter, hstop, k, hk⟩ := mem_of_loop hloop hx
    exact ⟨hafter, hstop, k, by rw [hk, hreg.headway_eq]⟩
  · rintro ⟨hafter, hstop, k, rfl⟩
    rw [← hreg.headway_eq] at hafter hstop ⊢
    exact mem_loop hreg.headway_pos hloop (by omega) hafter hstop

/-! ## When the loop ends -/

section Ends

variable {headway after stop t : ℤ} {n : ℕ}

lemma loop_eq_none (hneg : headway ≤ 0) (hn : 0 < n) : ∀ {fuel : ℕ} {t : ℤ}, t ≤ after → t < stop →
    loop headway after stop fuel t n = none
  | 0, _, _, _ => rfl
  | fuel + 1, t, hafter, hstop => by
    rw [loop, if_pos ⟨hstop, hn⟩, if_neg hafter.not_gt]
    exact loop_eq_none hneg hn (by omega) (by omega)

/-- At most `n` moments in increasing order, after the given one and before the stop. -/
def Enumerates (headway after stop t : ℤ) (n : ℕ) : Prop :=
  ∃ fuel l, loop headway after stop fuel t n = some l ∧ l.length ≤ n ∧ l.Pairwise (· < ·) ∧
    ∀ x ∈ l, after < x ∧ x < stop

lemma not_enumerates (hneg : headway ≤ 0) (hn : 0 < n) (hstop : t < stop)
    (hone : n = 1 → t ≤ after) : ¬ Enumerates headway after stop t n := by
  rintro ⟨fuel, l, hl, -, hsorted, -⟩
  by_cases hafter : t ≤ after
  · simp [loop_eq_none hneg hn hafter hstop] at hl
  · have hn2 : n ≠ 1 := fun h => hafter (hone h)
    cases fuel with
    | zero => simp [loop] at hl
    | succ fuel =>
      rw [loop, if_pos ⟨hstop, hn⟩, if_pos (not_le.mp hafter)] at hl
      obtain ⟨l', hl', rfl⟩ := map_eq_some_iff.mp hl
      -- the second moment is no later than the first
      cases fuel with
      | zero => simp [loop] at hl'
      | succ fuel =>
        rw [loop, if_pos ⟨by omega, by omega⟩] at hl'
        split_ifs at hl' with hnext
        · obtain ⟨l'', -, rfl⟩ := map_eq_some_iff.mp hl'
          have := (pairwise_cons.mp hsorted).1 _ mem_cons_self
          omega
        · rw [loop_eq_none hneg (by omega) (by omega) (by omega)] at hl'
          cases hl'

end Ends

/-- **When a lookup ends as it should**: the headway steps forward, or no step is taken. -/
theorem nextArrivalsAfter_ends_iff (loc : ℤ → ℤ) (rt : Route) (i : ℕ) (after : ℤ) (n : ℕ) :
    (Enumerates rt.headway after (dayEnd loc after) (stopTime loc after i) n ↔
      0 < rt.headway ∨ n = 0 ∨ dayEnd loc after ≤ stopTime loc after i ∨
        n = 1 ∧ after < stopTime loc after i) ∧
    (0 < rt.headway → ∃ fuel, loop rt.headway after (dayEnd loc after) fuel
      (stopTime loc after i) n = some (nextArrivalsAfter loc rt i after n)) := by
  have hreturns : 0 < rt.headway → ∃ fuel, loop rt.headway after (dayEnd loc after) fuel
      (stopTime loc after i) n = some (nextArrivalsAfter loc rt i after n) :=
    fun hpos => ⟨_, loop_nextArrivalsAfter hpos n⟩
  refine ⟨⟨fun h => ?_, ?_⟩, hreturns⟩
  · by_contra hbad
    simp only [not_or, not_lt, not_le, not_and] at hbad
    obtain ⟨hneg, hn, hstop, hone⟩ := hbad
    exact not_enumerates hneg (by omega) hstop hone h
  · rintro (hpos | rfl | hstop | ⟨rfl, hafter⟩)
    · obtain ⟨fuel, hfuel⟩ := hreturns hpos
      obtain ⟨hlength, hsorted⟩ := loop_increasing hpos hfuel
      refine ⟨fuel, _, hfuel, hlength, hsorted, fun x hx => ?_⟩
      obtain ⟨hafter, hstop, -⟩ := mem_of_loop hfuel hx
      exact ⟨hafter, hstop⟩
    · exact ⟨1, [], by simp [loop], by simp⟩
    · exact ⟨1, [], by simp [loop, hstop.not_gt], by simp⟩
    · by_cases hstop : stopTime loc after i < dayEnd loc after
      · exact ⟨2,
          [stopTime loc after i], by simp [loop, hafter, hstop], by simp, by simp, by
          simp [hafter, hstop]⟩
      · exact ⟨1, [], by simp [loop, hstop], by simp⟩

/-- **A route with headway 0 at noon**: the loop stays at 05:30 for ever. -/
theorem zero_headway_never_ends :
    ¬ ∃ fuel, (loop (Route.headway ⟨"A", 0, ["s1", "s2"]⟩) (720 * minute)
    (dayEnd utc (720 * minute)) fuel
      (stopTime utc (720 * minute) 0) 3).isSome = true := by
  rintro ⟨fuel, hfuel⟩
  rw [loop_eq_none (by decide) (by decide) (by decide +kernel) (by decide +kernel)] at hfuel
  cases hfuel

/-! ## The planner -/

/-- `JourneyLeg`; ids and names are those at the two positions. -/
structure JourneyLeg where
  route : Route
  fromIdx : ℕ
  toIdx : ℕ
  departAt : ℤ
  arriveAt : ℤ
  deriving DecidableEq

structure JourneyTransfer where
  transferStopID : String
  leg1 : JourneyLeg
  leg2 : JourneyLeg
  deriving DecidableEq

variable (loc)

def stopIndex (rt : Route) (id : String) : Option ℕ := rt.stopIDs.findIdx? (· = id)

def makeLeg (rt : Route) (fromIdx toIdx : ℕ) (after : ℤ) : Option JourneyLeg :=
  (nextArrivalsAfter loc rt fromIdx after 1).head?.map fun dep =>
    ⟨rt, fromIdx, toIdx, dep, dep + (toIdx - fromIdx) * minutesPerStop * minute⟩

def directRide (src dst : String) (now : ℤ) (rt : Route) : Option JourneyLeg := do
  let fromIdx ← stopIndex rt src
  let toIdx ← stopIndex rt dst
  if fromIdx < toIdx then makeLeg loc rt fromIdx toIdx (now - minute) else none

/-- Route `a` to the interchange `x`, then route `b`.  `ArriveAt` is in UTC, as `ScheduledAt` is. -/
def transferRide (src dst : String) (now : ℤ) (a b : Route) (x : String) :
    Option JourneyTransfer := do
  let fromIdx ← stopIndex a src
  let toIdx ← stopIndex b dst
  let aX ← stopIndex a x
  let bX ← stopIndex b x
  if b.routeID ≠ a.routeID ∧ fromIdx < aX ∧ bX < toIdx then
    let leg1 ← makeLeg loc a fromIdx aX (now - minute)
    let leg2 ← makeLeg utc b bX toIdx leg1.arriveAt
    return ⟨x, leg1, leg2⟩
  else none

def JourneyTransfer.key (T : JourneyTransfer) : String :=
  T.leg1.route.routeID ++ "|" ++ T.leg2.route.routeID ++ "|" ++ T.transferStopID

/-- `seen`: the keys of what has been found. -/
def addUnseen (found : List JourneyTransfer) (T : JourneyTransfer) : List JourneyTransfer :=
  if found.any (·.key = T.key) then found else found ++ [T]

def planJourney (routes : List Route) (src dst : String) (now : ℤ) :
    List JourneyLeg × List JourneyTransfer :=
  ((routes.filterMap (directRide loc src dst now)).mergeSort fun x y => x.departAt ≤ y.departAt,
    ((routes.flatMap fun a => routes.flatMap fun b =>
      a.stopIDs.filterMap (transferRide loc src dst now a b)).foldl addUnseen []).mergeSort
        fun x y => x.leg2.arriveAt ≤ y.leg2.arriveAt)

/-- **The leg is in the timetable** of the server's day of `now`. -/
def Agrees (now : ℤ) (leg : JourneyLeg) : Prop :=
  leg.departAt ∈ departures loc now leg.route leg.fromIdx ∧
    leg.arriveAt = leg.departAt + (leg.toIdx - leg.fromIdx) * minutesPerStop * minute ∧
    leg.arriveAt ≤ dayEnd loc now

/-- The ride between two positions. -/
def rideTime (f t : ℕ) : ℤ := (t - f) * minutesPerStop * minute

/-- The first departure after a moment. -/
def firstDeparture (rt : Route) (i : ℕ) (after : ℤ) : ℤ :=
  stopTime loc after i +
    max 0 ((after - stopTime loc after i) / (rt.headwayMin * minute) + 1) * (rt.headwayMin * minute)

/-- The anchors of the two days are a multiple of the headway apart, and the first ride after
`after` is within today's service. -/
def Fits (now : ℤ) (loc' : ℤ → ℤ) (after : ℤ) (rt : Route) (f t : ℕ) : Prop :=
  rt.headwayMin * minute ∣ anchor loc' after - anchor loc now ∧
    stopTime loc now f ≤ firstDeparture loc' rt f after ∧
    firstDeparture loc' rt f after + rideTime f t ≤ dayEnd loc now
  deriving Decidable

variable {loc}

lemma max_ediv_eq {s headway after : ℤ} (hpos : 0 < headway) {k : ℕ}
    (hafter : after < s + k * headway)
    (hbefore : ∀ j < k, s + j * headway ≤ after) : max 0 ((after - s) / headway + 1) = k := by
  cases k with
  | zero =>
    have hneg : (after - s) / headway < 0 := Int.ediv_neg_of_neg_of_pos (by simpa using hafter) hpos
    exact max_eq_left (by omega)
  | succ k =>
    have hlow : k ≤ (after - s) / headway :=
      Int.le_ediv_of_mul_le hpos (by linarith [hbefore k (by omega)])
    have hhigh : (after - s) / headway < k + 1 :=
      Int.ediv_lt_of_lt_mul hpos (by push_cast at hafter; linarith)
    rw [max_eq_right (by omega)]
    push_cast
    omega

lemma makeLeg_eq {loc : ℤ → ℤ} {rt : Route} {f t : ℕ} {after : ℤ} {leg : JourneyLeg}
    (hreg : rt.Regular) (hleg : makeLeg loc rt f t after = some leg) :
    leg = ⟨rt, f, t, firstDeparture loc rt f after,
    firstDeparture loc rt f after + rideTime f t⟩ := by
  obtain ⟨dep, hdep, rfl⟩ := map_eq_some_iff.mp hleg
  obtain ⟨hafter, k, hk, hbefore⟩ := head_of_loop (loop_nextArrivalsAfter hreg.headway_pos 1) hdep
  rw [hk] at hafter
  have hfirst : firstDeparture loc rt f after = dep := by
    rw [firstDeparture, ← hreg.headway_eq, max_ediv_eq hreg.headway_pos hafter hbefore, hk]
  rw [hfirst, rideTime]

lemma agrees_iff_fits {loc loc' : ℤ → ℤ} {rt : Route} {f t : ℕ} {after now : ℤ} {leg : JourneyLeg}
    (hreg : rt.Regular) (hft : f < t) (hleg : makeLeg loc' rt f t after = some leg) :
    Agrees loc now leg ↔ Fits loc now loc' after leg.route leg.fromIdx leg.toIdx := by
  obtain rfl := makeLeg_eq hreg hleg
  obtain ⟨k, hk⟩ : ∃ k : ℕ, firstDeparture loc' rt f after =
      stopTime loc' after f + k * (rt.headwayMin * minute) := by
    refine ⟨(max 0 ((after - stopTime loc' after f) / (rt.headwayMin * minute) + 1)).toNat, ?_⟩
    rw [Int.toNat_of_nonneg (le_max_left _ _), firstDeparture]
  have hheadway : 0 < rt.headwayMin * minute := mul_pos hreg.1 (by decide)
  have hride : 0 < rideTime f t := by
    rw [rideTime, minutesPerStop, minute]
    omega
  simp only [Agrees, Fits, departures, Set.mem_ofPred_eq, hk, stopTime, rideTime,
    true_and] at hride ⊢
  constructor
  · rintro ⟨⟨-, k', hk'⟩, harr⟩
    refine ⟨⟨k' - k, by linarith⟩, ?_, harr⟩
    have : 0 ≤ k' * (rt.headwayMin * minute) := by positivity
    linarith
  · rintro ⟨⟨q, hq⟩, hstart, harr⟩
    refine ⟨⟨by linarith, (q + k).toNat, ?_⟩, harr⟩
    have hqk : 0 ≤ q + k := by
      by_contra hneg
      nlinarith
    rw [Int.toNat_of_nonneg hqk]
    linarith

lemma mem_foldl_addUnseen {T : JourneyTransfer} {Ts found : List JourneyTransfer}
    (h : T ∈ Ts.foldl addUnseen found) : T ∈ found ∨ T ∈ Ts := by
  induction Ts generalizing found with
  | nil => exact .inl h
  | cons T' Ts ih =>
    rcases ih h with h | h
    · rw [addUnseen] at h
      split_ifs at h
      · exact .inl h
      · simp only [mem_append, mem_singleton] at h
        simp only [mem_cons]
        tauto
    · exact .inr (mem_cons_of_mem _ h)

/-- **When the legs of an option are in the timetable.**  A second leg takes the first departure
after the arrival of the first, counted from 05:30 UTC. -/
theorem planJourney_agrees_iff {routes : List Route} (hreg : ∀ rt ∈ routes, rt.Regular)
    (loc : ℤ → ℤ) (src dst : String) (now : ℤ) :
    (∀ leg ∈ (planJourney loc routes src dst now).1,
      Agrees loc now leg ↔ Fits loc now loc (now - minute) leg.route leg.fromIdx leg.toIdx) ∧
    ∀ T ∈ (planJourney loc routes src dst now).2,
      let change := firstDeparture loc T.leg1.route T.leg1.fromIdx (now - minute) +
        rideTime T.leg1.fromIdx T.leg1.toIdx
      (Agrees loc now T.leg1 ↔
        Fits loc now loc (now - minute) T.leg1.route T.leg1.fromIdx T.leg1.toIdx) ∧
      (Agrees loc now T.leg2 ↔
        Fits loc now utc change T.leg2.route T.leg2.fromIdx T.leg2.toIdx) := by
  constructor
  · intro leg hleg
    obtain ⟨rt, hrt, hride⟩ := mem_filterMap.mp (mem_mergeSort.mp hleg)
    simp only [directRide, bind_eq_bind, bind_eq_some_iff] at hride
    obtain ⟨f, -, t, -, hride⟩ := hride
    split_ifs at hride with hft
    exact agrees_iff_fits (hreg rt hrt) hft hride
  · intro T hT
    have hmem := (mem_foldl_addUnseen (mem_mergeSort.mp hT)).resolve_left not_mem_nil
    simp only [mem_flatMap, mem_filterMap] at hmem
    obtain ⟨a, ha, b, hb, x, -, hride⟩ := hmem
    simp only [transferRide, bind_eq_bind, bind_eq_some_iff] at hride
    obtain ⟨f, -, t, -, aX, -, bX, -, hride⟩ := hride
    split_ifs at hride with hft
    obtain ⟨leg1, hleg1, hride⟩ := bind_eq_some_iff.mp hride
    obtain ⟨leg2, hleg2, ⟨⟩⟩ := bind_eq_some_iff.mp hride
    refine ⟨agrees_iff_fits (hreg a ha) hft.2.1 hleg1, ?_⟩
    obtain rfl := makeLeg_eq (hreg a ha) hleg1
    exact agrees_iff_fits (hreg b hb) hft.2.2 hleg2

/-- Two routes that meet, and a server two hours east of Greenwich. -/
def twoRoutes (headwayMin : ℤ) : List Route :=
  [⟨"A", 10, ["s1", "s2"]⟩, ⟨"B", headwayMin, ["s2", "s3"]⟩]

def east (_ : ℤ) : ℤ := 120 * minute

def overS2 (headwayMin departMin : ℤ) : JourneyTransfer :=
  ⟨"s2", ⟨⟨"A", 10, ["s1", "s2"]⟩, 0, 1, 360 * minute, 364 * minute⟩,
    ⟨⟨"B", headwayMin, ["s2", "s3"]⟩, 0, 1, departMin * minute, departMin * minute + 4 * minute⟩⟩

/-- With a headway of 60 minutes, which divides two hours, both legs are right. -/
theorem planJourney_agrees_hourly :
    overS2 60 390 ∈ (planJourney east (twoRoutes 60) "s1" "s3" (360 * minute)).2 ∧
      Agrees east (360 * minute) (overS2 60 390).leg1 ∧
      Agrees east (360 * minute) (overS2 60 390).leg2 := by
  have hmem : overS2 60 390 ∈ (planJourney east (twoRoutes 60) "s1" "s3" (360 * minute)).2 := by
    decide +kernel
  have hlegs := (planJourney_agrees_iff (by decide) east "s1" "s3" (360 * minute)).2 _ hmem
  exact ⟨hmem, hlegs.1.mpr (by decide +kernel), hlegs.2.mpr (by decide +kernel)⟩

/-- **At 08:00 the second leg leaves at 08:20**; route B leaves at 08:00 and 08:50. -/
theorem transfer_not_in_timetable :
    overS2 50 380 ∈ (planJourney east (twoRoutes 50) "s1" "s3" (360 * minute)).2 ∧
      ¬ Agrees east (360 * minute) (overS2 50 380).leg2 := by
  refine ⟨by decide +kernel, ?_⟩
  rintro ⟨⟨-, k, hk⟩, -⟩
  have hstop : stopTime east (360 * minute) 0 = 210 * minute := by decide +kernel
  change 380 * minute = stopTime east (360 * minute) 0 + k * (50 * minute) at hk
  rw [hstop, minute] at hk
  omega

/-! ## The feed -/

/-- A row of frequencies.txt and the stop_times.txt, in seconds of the clock. -/
structure Trip where
  startTime : ℤ
  endTime : ℤ
  headwaySecs : ℤ
  stopTimes : List ℤ

/-- `Format("15:04:05")` begins anew at midnight. -/
def clock (t : ℤ) : ℤ := t / 10 ^ 9 % 86400

def gtfsTrip (rt : Route) : Trip :=
  ⟨330 * 60, 1380 * 60, rt.headwayMin * 60,
    (range rt.stopIDs.length).map fun i : ℕ => clock (serviceStart + i * minutesPerStop * minute)⟩

/-- **What the feed means**: trips start every headway, and take as long as the anchor trip. -/
def Trip.expand (trip : Trip) (i : ℕ) : Set ℤ :=
  { y | ∃ k : ℕ, trip.startTime + k * trip.headwaySecs < trip.endTime ∧
    ∃ first here, trip.stopTimes[0]? = some first ∧ trip.stopTimes[i]? = some here ∧
      y = trip.startTime + k * trip.headwaySecs + (here - first) }

/-- What the API lists on day `d`, in seconds of the clock. -/
def listed (offset d : ℤ) (rt : Route) (i : ℕ) : Set ℤ :=
  { y | ∃ n, d * (1440 * minute) - offset + y * 10 ^ 9 ∈
    nextArrivalsAfter (fun _ => offset) rt i (d * (1440 * minute) - offset) n }

lemma date_const (offset reading : ℤ) : date (fun _ => offset) reading = reading - offset := by
  rw [date]
  split_ifs with h
  · rw [h, sub_zero]
  · rfl

lemma mem_listed_iff (hreg : rt.Regular) (offset d y : ℤ) : y ∈ listed offset d rt i ↔
    ∃ k : ℕ, y = (330 + 4 * i + k * rt.headwayMin) * 60 ∧
    330 + 4 * i + k * rt.headwayMin < 1380 := by
  have hmidnight : midnight (fun _ => offset) (d * (1440 * minute) - offset) = d *
    (1440 * minute) := by
    simp [midnight, minute]
  have hstop : stopTime (fun _ => offset) (d * (1440 * minute) - offset) i =
      d * (1440 * minute) - offset + (330 + 4 * i) * minute := by
    simp only [stopTime, anchor, hmidnight, date_const, serviceStart, minutesPerStop]
    ring
  have hend : dayEnd (fun _ => offset) (d * (1440 * minute) - offset) =
      d * (1440 * minute) - offset + 1380 * minute := by
    simp only [dayEnd, hmidnight, date_const, serviceEnd]
    ring
  constructor
  · rintro ⟨n, hn⟩
    obtain ⟨-, hlt, k, hk⟩ := mem_of_loop (loop_nextArrivalsAfter hreg.headway_pos n) hn
    rw [hend] at hlt
    rw [hstop, hreg.headway_eq] at hk
    simp only [minute] at hlt hk
    refine ⟨k, ?_, ?_⟩ <;> nlinarith
  · rintro ⟨k, rfl, hk⟩
    refine ⟨_, (mem_nextArrivalsAfter_iff hreg le_rfl _).mpr ⟨?_, ?_, k, ?_⟩⟩
    · have : 0 ≤ k * rt.headwayMin := mul_nonneg (by positivity) hreg.1.le
      simp only [minute]
      linarith
    · rw [hend]
      simp only [minute]
      nlinarith
    · rw [hstop]
      simp only [minute]
      ring

lemma clock_stop (i : ℕ) :
    clock (serviceStart + i * minutesPerStop * minute) = (330 + 4 * i) * 60 % 86400 := by
  simp only [clock, serviceStart, minutesPerStop, minute]
  omega

lemma mem_expand_iff (hi : i < rt.stopIDs.length) (y : ℤ) : y ∈ (gtfsTrip rt).expand i ↔
    ∃ k : ℕ, 330 + k * rt.headwayMin < 1380 ∧
      y = (330 + k * rt.headwayMin) * 60 + ((330 + 4 * i) * 60 % 86400 - 330 * 60) := by
  have htimes : ∀ j < rt.stopIDs.length,
      (gtfsTrip rt).stopTimes[j]? = some ((330 + 4 * (j : ℤ)) * 60 % 86400) := by
    intro j hj
    simp [gtfsTrip, hj, clock_stop]
  have hfirst := htimes 0 (by omega)
  simp only [Trip.expand, Set.mem_ofPred_eq, htimes i hi, hfirst, some.injEq]
  refine exists_congr fun k => and_congr ?_ ⟨?_, ?_⟩
  · simp only [gtfsTrip]
    constructor <;> intro h <;> linarith
  · rintro ⟨_, _, rfl, rfl, rfl⟩
    simp only [gtfsTrip]
    norm_num
    ring
  · rintro rfl
    refine ⟨_, _, rfl, rfl, ?_⟩
    simp only [gtfsTrip]
    norm_num
    ring

/-- **When the feed has the departures of the API** at a position: no trip that starts in time gets
there after 23:00. -/
theorem gtfs_describes_iff {rt : Route} (hreg : rt.Regular) (offset d : ℤ) :
    (∀ i < rt.stopIDs.length, ((gtfsTrip rt).expand i = listed offset d rt i ↔
      ∀ k : ℕ, 330 + k * rt.headwayMin < 1380 → 330 + 4 * i + k * rt.headwayMin < 1380)) ∧
    ((gtfsTrip rt).stopTimes.Pairwise (· ≤ ·) ↔ rt.stopIDs.length ≤ 278) := by
  constructor
  · intro i hi
    simp only [Set.ext_iff, mem_expand_iff hi, mem_listed_iff hreg]
    constructor
    · intro h k hk
      obtain ⟨k', hk', hlt⟩ := (h _).mp ⟨k, hk, rfl⟩
      -- A stop past midnight has no departures at all, and the first trip of the feed gets there.
      have hwrap : (330 + 4 * (i : ℤ)) * 60 % 86400 = (330 + 4 * i) * 60 := by
        have : 0 ≤ k' * rt.headwayMin := mul_nonneg (by positivity) hreg.1.le
        omega
      rw [hwrap] at hk'
      linarith
    · intro h y
      have hshort := h 0 (by norm_num)
      have hwrap : (330 + 4 * (i : ℤ)) * 60 % 86400 = (330 + 4 * i) * 60 := by omega
      rw [hwrap]
      constructor
      · rintro ⟨k, hk, rfl⟩
        exact ⟨k, by ring, h k hk⟩
      · rintro ⟨k, rfl, hk⟩
        exact ⟨k, by linarith, by ring⟩
  · simp only [gtfsTrip, clock_stop, pairwise_map]
    constructor
    · intro h
      by_contra hlong
      have hpair :=
        pairwise_iff_getElem.mp h 277 278 (by simp; omega) (by simp; omega) (by norm_num)
      simp at hpair
    · intro hshort
      refine pairwise_iff_getElem.mpr fun i j hi hj hij => ?_
      simp only [length_range, getElem_range] at hi hj ⊢
      omega

theorem gtfs_describes_hourly :
    (gtfsTrip ⟨"A", 60, ["s1", "s2"]⟩).expand 1 =
      listed (120 * minute) 0 ⟨"A", 60, ["s1", "s2"]⟩ 1 := by
  refine ((gtfs_describes_iff (by decide) (120 * minute) 0).1 1 (by decide)).mpr fun k hk => ?_
  norm_num at hk ⊢
  omega

/-- **The last stop of route R10 at 23:02**: in the feed, and not in the API. -/
theorem feed_after_service_end :
    1382 * 60 ∈ (gtfsTrip ⟨"R10", 10, ["S001", "S002", "S003", "S005"]⟩).expand 3 ∧
      1382 * 60 ∉ listed 0 0 ⟨"R10", 10, ["S001", "S002", "S003", "S005"]⟩ 3 := by
  refine ⟨⟨104, by decide, _, _, rfl, rfl, by decide⟩, fun hlisted => ?_⟩
  obtain ⟨k, hk, hlt⟩ := (mem_listed_iff (by decide) 0 0 _).mp hlisted
  omega

end H2Fleet.Citizen
