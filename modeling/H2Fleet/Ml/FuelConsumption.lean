import Mathlib.Data.Rat.Defs
import Mathlib.Algebra.Order.Ring.Rat
import Mathlib.Tactic

/-!
# Consumption learned from readings

The fuel branch of `run_consumer_loop`: each reading of a bus is paired with the one before, and a
usable pair goes into the mean of `fleet.fuel_consumption`.

**A pair under `MIN_PAIR_KM` is dropped**, and the later reading takes the place of the earlier one
all the same; a bus that reports every few hundred metres is never learned.
-/

namespace H2Fleet.Ml

open List

def minPairKm : ℚ := 1

def maxDropPct : ℚ := 30

def consumptionKgPer100km (prevPct pct deltaKm capacityKg : ℚ) : Option ℚ :=
  if capacityKg ≤ 0 ∨ deltaKm < minPairKm then none
  else
    let drop := prevPct - pct
    if drop ≤ 0 ∨ maxDropPct < drop then none else some (capacityKg * (drop / 100) / deltaKm * 100)

/-- A row of `fleet.fuel_consumption`. -/
structure FuelConsumption where
  kgPer100km : ℚ
  sampleKm : ℚ
  samples : ℕ
  deriving DecidableEq

def upsertFuelConsumption (kgPer100km deltaKm : ℚ) : Option FuelConsumption → FuelConsumption
  | none => ⟨kgPer100km, deltaKm, 1⟩
  | some r => ⟨(r.kgPer100km * r.samples + kgPer100km) / (r.samples + 1), r.sampleKm + deltaKm,
      r.samples + 1⟩

/-- The `data` of a message on the fuel topic. -/
structure FuelReading where
  busID : String
  h2LevelPct : Option ℚ
  odometerKm : Option ℚ

/-- `fuel_state`, as level and odometer, and the table. -/
structure FuelState where
  prev : String → Option (ℚ × ℚ)
  rows : String → Option FuelConsumption

/-- One message; `capacity` is what the cached lookup of a bus answers. -/
def FuelState.receive (capacity : String → ℚ) (s : FuelState) (m : FuelReading) : FuelState :=
  if m.busID = "" then s
  else
    match m.h2LevelPct, m.odometerKm with
    | some pct, some odo =>
      let rate := (s.prev m.busID).bind fun p =>
        (consumptionKgPer100km p.1 pct (odo - p.2) (capacity m.busID)).map fun rate =>
          (rate, odo - p.2)
      { prev := Function.update s.prev m.busID (some (pct, odo))
        rows := match rate with
          | some (rate, km) =>
            Function.update s.rows m.busID (upsertFuelConsumption rate km (s.rows m.busID))
          | none => s.rows }
    | _, _ => s

/-! ## A bus with a constant rate -/

/-- The part of the way that lies in usable pairs. -/
def usableKm : ℚ → List ℚ → ℚ
  | _, [] => 0
  | o, o' :: os => (if minPairKm ≤ o' - o then o' - o else 0) + usableKm o' os

/-- What the row says after some kilometres at the rate. -/
def Learned (c km : ℚ) (row : Option FuelConsumption) : Prop :=
  km = 0 ∧ row = none ∨ 0 < km ∧ ∃ n, row = some ⟨c, km, n⟩

lemma Learned.upsert {c km delta : ℚ} {row : Option FuelConsumption} (h : Learned c km row)
    (hdelta : 0 < delta) : Learned c (delta + km) (some (upsertFuelConsumption c delta row)) := by
  rcases h with ⟨rfl, rfl⟩ | ⟨hkm, n, rfl⟩
  · exact .inr ⟨by linarith, 1, by simp [upsertFuelConsumption]⟩
  · refine .inr ⟨by linarith, n + 1, ?_⟩
    have hmean : (c * n + c) / (n + 1) = c := by
      field_simp
    rw [upsertFuelConsumption, hmean, add_comm km]

lemma usableKm_le {o last : ℚ} {os : List ℚ} (hsorted : (o :: (os ++ [last])).Pairwise (· < ·)) :
    usableKm o (os ++ [last]) ≤ last - o ∧ (usableKm o (os ++ [last]) = last - o ↔
      (o :: (os ++ [last])).IsChain fun a b => minPairKm ≤ b - a) := by
  induction os generalizing o with
  | nil =>
    have ho : o < last := by simpa using hsorted
    simp only [nil_append, usableKm, isChain_pair, add_zero]
    split_ifs with hkm
    · exact ⟨le_rfl, by simp [hkm]⟩
    · exact ⟨by linarith, iff_of_false (by linarith) hkm⟩
  | cons o' os ih =>
    obtain ⟨hlt, hrest⟩ := pairwise_cons.mp hsorted
    have ho := hlt o' mem_cons_self
    obtain ⟨hle, hiff⟩ := ih hrest
    rw [cons_append, isChain_cons_cons, ← hiff, usableKm]
    split_ifs with hkm
    · exact ⟨by linarith, fun h => ⟨hkm, by linarith⟩, fun h => by linarith [h.2]⟩
    · exact ⟨by linarith, fun h => by linarith, fun h => absurd h.1 hkm⟩

def readingAt (bus : String) (level : ℚ → ℚ) (odo : ℚ) : FuelReading :=
  ⟨bus, some (level odo), some odo⟩

section Constant

variable {capacity : String → ℚ} {bus : String} {c : ℚ} {level : ℚ → ℚ} {s : FuelState}
  (hbus : bus ≠ "") (hcapacity : 0 < capacity bus) (hc : 0 < c)
  (hlevel : ∀ x y, level x - level y = c * (y - x) / capacity bus)

include hcapacity hc hlevel

lemma level_antitone : Antitone level := by
  intro x y hxy
  have hfall : 0 ≤ c * (y - x) / capacity bus :=
    div_nonneg (mul_nonneg hc.le (sub_nonneg.mpr hxy)) hcapacity.le
  linarith [hlevel x y]

lemma consumption_level {o o' : ℚ} (hlt : o < o') (hdrop : level o - level o' ≤ maxDropPct) :
    consumptionKgPer100km (level o) (level o') (o' - o) (capacity bus) =
      if minPairKm ≤ o' - o then some c else none := by
  have hpos : 0 < o' - o := sub_pos.mpr hlt
  rw [hlevel] at hdrop
  have hfall : 0 < c * (o' - o) / capacity bus := by positivity
  simp only [consumptionKgPer100km, hlevel]
  by_cases hkm : minPairKm ≤ o' - o
  · rw [if_neg (by simp [hcapacity, hkm]), if_neg (by simp [hfall, hdrop]), if_pos hkm]
    congr 1
    field_simp
  · rw [if_pos (.inr (not_le.mp hkm)), if_neg hkm]

include hbus

lemma learned_receive {o km : ℚ} {os : List ℚ} (hsorted : (o :: os).Pairwise (· < ·))
    (hdrop : ∀ x ∈ os, level o - level x ≤ maxDropPct) (hprev : s.prev bus = some (level o, o))
    (hrow : Learned c km (s.rows bus)) :
    Learned c (usableKm o os + km)
      (((os.map (readingAt bus level)).foldl (FuelState.receive capacity) s).rows bus) := by
  induction os generalizing o km s with
  | nil => simpa [usableKm] using hrow
  | cons o' os ih =>
    obtain ⟨hlt, hrest⟩ := pairwise_cons.mp hsorted
    have ho := hlt o' mem_cons_self
    have hfall := level_antitone hcapacity hc hlevel ho.le
    have hrate := consumption_level hcapacity hc hlevel ho (hdrop o' mem_cons_self)
    rw [usableKm, add_right_comm, add_comm (_ + km)]
    refine ih hrest (fun x hx => ?_) ?_ ?_
    · linarith [hdrop x (mem_cons_of_mem _ hx)]
    · simp [FuelState.receive, readingAt, hbus]
    · simp only [FuelState.receive, readingAt, hbus, if_false, hprev, Option.bind_some, hrate]
      split_ifs with hkm
      · simpa using hrow.upsert (sub_pos.mpr ho)
      · simpa using hrow

/-- **When consumption is learned**: exactly if no two readings are closer than `MIN_PAIR_KM`. -/
theorem consumption_learned_iff (hprev : s.prev bus = none) (hrow : s.rows bus = none)
    {first last : ℚ} {between : List ℚ} (hsorted : (first :: (between ++ [last])).Pairwise (· < ·))
    (hfar : minPairKm ≤ last - first) (hdrop : level first - level last ≤ maxDropPct) :
    let positions := first :: (between ++ [last])
    let s' := (positions.map (readingAt bus level)).foldl (FuelState.receive capacity) s
    (s'.rows bus).map (fun r => (r.kgPer100km, r.sampleKm)) = some (c, last - first) ↔
      positions.IsChain fun a b => minPairKm ≤ b - a := by
  intro positions s'
  have hlast : ∀ x ∈ between ++ [last], x ≤ last := by
    rw [← cons_append, pairwise_append] at hsorted
    simpa [or_imp, forall_and] using fun x hx =>
      (hsorted.2.2 x (mem_cons_of_mem _ hx) last (by simp)).le
  have hlearned : Learned c (usableKm first (between ++ [last]) + 0) (s'.rows bus) := by
    refine learned_receive hbus hcapacity hc hlevel hsorted (fun x hx => ?_) ?_ ?_
    · linarith [level_antitone hcapacity hc hlevel (hlast x hx)]
    · simp [FuelState.receive, readingAt, hbus]
    · exact .inl ⟨rfl, by simp [FuelState.receive, readingAt, hbus, hprev, hrow]⟩
  rw [← (usableKm_le hsorted).2, ← add_zero (usableKm _ _)]
  rcases hlearned with ⟨hkm, hnone⟩ | ⟨-, n, hsome⟩
  · rw [hnone, hkm]
    refine iff_of_false (by simp) fun h => ?_
    rw [minPairKm, ← h] at hfar
    linarith
  · simp [hsome]

end Constant

/-- A bus of 40 kg that uses 8 kg in 100 km. -/
def steadyLevel (odo : ℚ) : ℚ := 100 - odo / 5

def noReadings : FuelState := ⟨fun _ => none, fun _ => none⟩

theorem consumption_learned_hourly :
    ((([10, 40, 90].map (readingAt "b1" steadyLevel)).foldl (FuelState.receive fun _ =>
    40) noReadings).rows
      "b1").map (fun r => (r.kgPer100km, r.sampleKm)) = some (8, 80) := by
  have h := @consumption_learned_iff (fun _ => 40) "b1" 8 steadyLevel noReadings (by decide)
    (by norm_num)
    (by norm_num) (fun x y => by rw [steadyLevel, steadyLevel]; ring) rfl rfl 10 90 [40]
      (by norm_num)
    (by norm_num [minPairKm]) (by norm_num [steadyLevel, maxDropPct])
  refine (h.mpr ?_).trans (by norm_num)
  norm_num [minPairKm]

/-- Readings every half kilometre: after two kilometres there is no row. -/
theorem consumption_not_learned :
    (([10, 21 / 2, 11, 23 / 2, 12].map (readingAt "b1" steadyLevel)).foldl
    (FuelState.receive fun _ => 40) noReadings).rows "b1" = none := by
  decide +kernel

end H2Fleet.Ml
