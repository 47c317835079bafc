import H2Fleet.Twin.State
import Mathlib.Tactic

/-!
# The status of a bus over its readings

`derive_status` compares a reading with the one before it, and knows of the ones before that only
the status they led to.  Here that rule is unfolded over any number of readings: reading `n` is
applied to the twin that the readings before it have made.  `twinAt` is the state that the store
holds (`applyAll_eq_twinAt`).
-/

namespace H2Fleet.Twin

open Nat

/-! ## Sequences -/

def twinAt (r : ℕ → Delivery) : ℕ → TwinState
  | 0 => fromTelemetry none (r 0).reading (r 0).now
  | n + 1 => fromTelemetry (some (twinAt r n)) (r (n + 1)).reading (r (n + 1)).now

lemma applyAll_eq_twinAt {r : ℕ → Delivery} {bus : ℕ} (hbus : ∀ i, (r i).reading.busID = bus)
    (n : ℕ) : applyAll ((List.range (n + 1)).map r) bus = some (twinAt r n) := by
  induction n with
  | zero =>
    have := hbus 0
    simp [applyAll, applyUpdate, twinAt, this]
  | succ n ih =>
    rw [List.range_succ, List.map_append, List.map_singleton, applyAll_append, applyUpdate, hbus,
      Function.update_self, ih, twinAt]

variable (r : ℕ → Delivery)

def levelAt (n : ℕ) : ℚ := (r n).reading.level

def labelAt (n : ℕ) : Status := (r n).reading.label

def Stationary (t : TelemetryEnriched) : Prop := t.speedKph ≤ stationaryKph

def BelowFull (t : TelemetryEnriched) : Prop := t.level < energyFullPct

def Rises (k : ℕ) : Prop :=
  0 < k ∧ energyTrendJitterPct < levelAt r k - levelAt r (k - 1)

def Falls (k : ℕ) : Prop :=
  levelAt r k - levelAt r (k - 1) < -energyTrendJitterPct

/-- Reading `i` does not end a fill under the label of reading `n`. -/
structure Continues (n i : ℕ) : Prop where
  stationary : Stationary (r i).reading
  belowFull : BelowFull (r i).reading
  label : labelAt r i = labelAt r n
  window : inTrendWindow (r i).reading.ts (r (i - 1)).reading.ts
  steady : ¬ Falls r i

/-- **A fill that goes on**: it began with a rise at some `k`, and has not ended. -/
def Filling (n : ℕ) : Prop :=
  Stationary (r n).reading ∧ BelowFull (r n).reading ∧
    ∃ k ≤ n, Rises r k ∧ ∀ i, k ≤ i → i ≤ n → Continues r n i

/-! ## One reading -/

lemma replenishingLabel_ne (e : Option String) :
    replenishingLabel e ≠ .moving ∧ replenishingLabel e ≠ .idle := by
  unfold replenishingLabel
  split <;> exact ⟨by decide, by decide⟩

lemma labelAt_ne (n : ℕ) : labelAt r n ≠ .moving ∧ labelAt r n ≠ .idle :=
  replenishingLabel_ne _

lemma deriveStatus_none (t : TelemetryEnriched) :
    deriveStatus none t = if stationaryKph < t.speedKph then .moving else .idle := by
  simp [deriveStatus]

lemma deriveStatus_some (p : TwinState) (t : TelemetryEnriched) : deriveStatus (some p) t =
      if stationaryKph < t.speedKph then .moving
      else if inTrendWindow t.ts p.ts ∧
          (energyTrendJitterPct < t.level - p.level ∨
            p.status = t.label ∧ ¬ t.level - p.level < -energyTrendJitterPct) ∧
          t.level < energyFullPct then t.label else .idle := by
  rw [deriveStatus]
  by_cases hwindow : inTrendWindow t.ts p.ts
  · simp [hwindow, Option.filter, TelemetryEnriched.level, TelemetryEnriched.label]
  · simp [hwindow, Option.filter]

@[simp] lemma twinAt_reading (r : ℕ → Delivery) : ∀ n,
    (twinAt r n).toTelemetryEnriched = (r n).reading
  | 0 => rfl
  | _ + 1 => rfl

lemma status_succ (n : ℕ) :
    (twinAt r (n + 1)).status = deriveStatus (some (twinAt r n)) (r (n + 1)).reading := rfl

lemma status_cases (n : ℕ) : (twinAt r n).status = labelAt r n ∨
    (twinAt r n).status = if stationaryKph < (r n).reading.speedKph then .moving else .idle := by
  cases n with
  | zero => exact .inr (deriveStatus_none _)
  | succ n =>
    rw [status_succ, deriveStatus_some]
    split_ifs with hspeed hfill
    · exact .inr rfl
    · exact .inl rfl
    · exact .inr rfl

lemma deriveStatus_eq_label_iff (p : TwinState) (t : TelemetryEnriched) :
    deriveStatus (some p) t = t.label ↔ Stationary t ∧ BelowFull t ∧ inTrendWindow t.ts p.ts ∧
        (energyTrendJitterPct < t.level - p.level ∨
          p.status = t.label ∧ ¬ t.level - p.level < -energyTrendJitterPct) := by
  obtain ⟨hmoving, hidle⟩ : t.label ≠ .moving ∧ t.label ≠ .idle := replenishingLabel_ne _
  rw [deriveStatus_some, Stationary, BelowFull]
  by_cases hspeed : stationaryKph < t.speedKph
  · rw [if_pos hspeed]
    exact iff_of_false (fun h => hmoving h.symm) (fun h => absurd h.1 (not_le.mpr hspeed))
  · rw [if_neg hspeed, Ne.ite_eq_left_iff hidle, and_iff_right (not_lt.mp hspeed)]
    exact ⟨fun h => ⟨h.2.2, h.1, h.2.1⟩, fun h => ⟨h.2.1, h.2.2, h.1⟩⟩

lemma status_succ_iff (n : ℕ) : (twinAt r (n + 1)).status = labelAt r (n + 1) ↔
      Stationary (r (n + 1)).reading ∧ BelowFull (r (n + 1)).reading ∧
        inTrendWindow (r (n + 1)).reading.ts (r n).reading.ts ∧
        (Rises r (n + 1) ∨ (twinAt r n).status = labelAt r (n + 1) ∧ ¬ Falls r (n + 1)) := by
  have hrises : Rises r (n + 1) ↔ energyTrendJitterPct < levelAt r (n + 1) - levelAt r n :=
    and_iff_right (succ_pos n)
  rw [status_succ, labelAt, deriveStatus_eq_label_iff, twinAt_reading, hrises]
  rfl

/-! ## Any number of readings -/

lemma not_falls_of_rises {r : ℕ → Delivery} {k : ℕ} (h : Rises r k) : ¬ Falls r k := by
  intro hfall
  have hrise := h.2
  rw [Falls] at hfall
  rw [energyTrendJitterPct] at hrise hfall
  linarith

lemma filling_succ_iff (n : ℕ) : Filling r (n + 1) ↔
      Stationary (r (n + 1)).reading ∧ BelowFull (r (n + 1)).reading ∧
        inTrendWindow (r (n + 1)).reading.ts (r n).reading.ts ∧
        (Rises r (n + 1) ∨ (Filling r n ∧ labelAt r n = labelAt r (n + 1)) ∧
        ¬ Falls r (n + 1)) := by
  constructor
  · rintro ⟨hstat, hbelow, k, hk, hrise, hcont⟩
    have hlast := hcont (n + 1) hk le_rfl
    refine ⟨hstat, hbelow, hlast.window, ?_⟩
    rcases hk.eq_or_lt with rfl | hlt
    · exact .inl hrise
    · have hkn : k ≤ n := Nat.lt_succ_iff.mp hlt
      have hn := hcont n hkn (le_succ n)
      refine .inr ⟨⟨⟨hn.stationary, hn.belowFull, k, hkn, hrise, fun i hki hin => ?_⟩, hn.label⟩,
        hlast.steady⟩
      have hi := hcont i hki (hin.trans (le_succ n))
      exact { hi with label := hi.label.trans hn.label.symm }
  · rintro ⟨hstat, hbelow, hwindow, hfill⟩
    refine ⟨hstat, hbelow, ?_⟩
    rcases hfill with hrise | ⟨⟨⟨-, -, k, hk, hrise, hcont⟩, hlabel⟩, hsteady⟩
    · refine ⟨n + 1, le_rfl, hrise, fun i hi hin => ?_⟩
      obtain rfl := le_antisymm hin hi
      exact ⟨hstat, hbelow, rfl, hwindow, not_falls_of_rises hrise⟩
    · refine ⟨k, hk.trans (le_succ n), hrise, fun i hki hin => ?_⟩
      rcases hin.eq_or_lt with rfl | hlt
      · exact ⟨hstat, hbelow, rfl, hwindow, hsteady⟩
      · have hi := hcont i hki (Nat.lt_succ_iff.mp hlt)
        exact { hi with label := hi.label.trans hlabel }

lemma status_eq_label_iff (n : ℕ) :
    (twinAt r n).status = labelAt r n ↔ Filling r n := by
  induction n with
  | zero =>
    refine iff_of_false (fun h => ?_) ?_
    · have hne := labelAt_ne r 0
      rw [← h, twinAt, fromTelemetry, deriveStatus_none] at hne
      split_ifs at hne
      · exact hne.1 rfl
      · exact hne.2 rfl
    · rintro ⟨-, -, k, hk, hrise, -⟩
      exact absurd hrise.1 (not_lt.mpr hk)
  | succ n ih =>
    have hprev : (twinAt r n).status = labelAt r (n + 1) ↔
        Filling r n ∧ labelAt r n = labelAt r (n + 1) := by
      rw [← ih]
      constructor
      · intro h
        rcases status_cases r n with hlabel | hother
        · exact ⟨hlabel, hlabel.symm.trans h⟩
        · have hne := labelAt_ne r (n + 1)
          rw [← h, hother] at hne
          split_ifs at hne
          · exact absurd rfl hne.1
          · exact absurd rfl hne.2
      · rintro ⟨hlabel, hsame⟩
        exact hlabel.trans hsame
    rw [status_succ_iff, filling_succ_iff, hprev]

/-- **The status over whole runs** is the label of the reading exactly if a fill goes on, and
`moving` or `idle` by the speed otherwise. -/
theorem status_iff_filling (r : ℕ → Delivery) (n : ℕ) :
    ((twinAt r n).status = labelAt r n ↔ Filling r n) ∧ (¬ Filling r n → (twinAt r n).status =
        if stationaryKph < (r n).reading.speedKph then .moving else .idle) :=
  ⟨status_eq_label_iff r n, fun hnot =>
    (status_cases r n).resolve_left fun h => hnot ((status_eq_label_iff r n).mp h)⟩

/-! ## Drifts -/

/-- All readings but the first are stationary, of one energy type, below full, and within the window
of the one before. -/
structure Parked : Prop where
  stationary : ∀ i, 0 < i → Stationary (r i).reading
  energyType : ∀ i, (r i).reading.energyType = (r 0).reading.energyType
  belowFull : ∀ i, BelowFull (r i).reading
  window : ∀ i, inTrendWindow (r (i + 1)).reading.ts (r i).reading.ts

/-- While replenishing, the level is at most the jitter below what it has been. -/
def LeaksNoticed : Prop :=
  ∀ i j, i ≤ j → (∀ m, i ≤ m → m ≤ j → (twinAt r m).status = labelAt r m) →
    levelAt r i - levelAt r j ≤ energyTrendJitterPct

/-- Once the level has risen by more than the jitter without falling, it is replenishing. -/
def FillsNoticed : Prop :=
  ∀ n, (∀ m < n, levelAt r m ≤ levelAt r (m + 1)) →
    energyTrendJitterPct < levelAt r n - levelAt r 0 → (twinAt r n).status = labelAt r n

section Drifts

variable {r}

lemma Parked.filling_iff (h : Parked r) (n : ℕ) :
    Filling r n ↔ ∃ k ≤ n, Rises r k ∧ ∀ m, k < m → m ≤ n → ¬ Falls r m := by
  constructor
  · rintro ⟨-, -, k, hk, hrise, hcont⟩
    exact ⟨k, hk, hrise, fun m hkm hmn => (hcont m hkm.le hmn).steady⟩
  · rintro ⟨k, hk, hrise, hsteady⟩
    refine ⟨h.stationary n (hrise.1.trans_le hk), h.belowFull n, k, hk, hrise, fun i hki hin => ?_⟩
    have hpos : 0 < i := hrise.1.trans_le hki
    refine ⟨h.stationary i hpos, h.belowFull i, ?_, ?_, ?_⟩
    · rw [labelAt, labelAt, TelemetryEnriched.label, TelemetryEnriched.label, h.energyType i,
        h.energyType n]
    · have := h.window (i - 1)
      rwa [Nat.sub_add_cancel hpos] at this
    · rcases hki.eq_or_lt with rfl | hlt
      · exact not_falls_of_rises hrise
      · exact hsteady i hlt hin

/-- While it is replenishing no fall is beyond the jitter, and the fill goes on. -/
lemma Parked.replenishing_iff (h : Parked r) {i j : ℕ} (hij : i ≤ j) :
    (∀ m, i ≤ m → m ≤ j → (twinAt r m).status = labelAt r m) ↔
      ∃ k ≤ i, Rises r k ∧ ∀ m, k < m → m ≤ j → ¬ Falls r m := by
  constructor
  · intro hall
    obtain ⟨k, hk, hrise, hsteady⟩ :=
      (h.filling_iff i).mp ((status_eq_label_iff r i).mp (hall i le_rfl hij))
    refine ⟨k, hk, hrise, fun m hkm hmj => ?_⟩
    rcases le_or_gt m i with hmi | him
    · exact hsteady m hkm hmi
    · -- a fill at a reading that falls could only have begun there
      obtain ⟨k', hk', hrise', hsteady'⟩ :=
        (h.filling_iff m).mp ((status_eq_label_iff r m).mp (hall m him.le hmj))
      rcases hk'.eq_or_lt with rfl | hlt
      · exact not_falls_of_rises hrise'
      · exact hsteady' m hlt le_rfl
  · rintro ⟨k, hk, hrise, hsteady⟩ m him hmj
    exact (status_eq_label_iff r m).mpr ((h.filling_iff m).mpr
      ⟨k, hk.trans him, hrise, fun m' hkm' hm' => hsteady m' hkm' (hm'.trans hmj)⟩)

/-- **Drifts are noticed by the jitter for each reading**: a replenishing level loses at most the
jitter with each reading; where it does not fall, the status is replenishing exactly if it rose by
more than the jitter at one. -/
theorem drifts_within_jitter (h : Parked r) :
    (∀ i j, i ≤ j → (∀ m, i ≤ m → m ≤ j → (twinAt r m).status = labelAt r m) →
      levelAt r i - levelAt r j ≤ (j - i : ℕ) * energyTrendJitterPct) ∧
    ∀ n, (∀ m < n, levelAt r m ≤ levelAt r (m + 1)) → ((twinAt r n).status = labelAt r n ↔
        ∃ m < n, energyTrendJitterPct < levelAt r (m + 1) - levelAt r m) := by
  refine ⟨fun i j hij hall => ?_, fun n hmono => ?_⟩
  · obtain ⟨k, hk, -, hsteady⟩ := (h.replenishing_iff hij).mp hall
    clear hall
    induction j, hij using le_induction with
    | base => simp
    | succ j hij ih =>
      have hprev := ih fun m hkm hmj => hsteady m hkm (hmj.trans (le_succ j))
      have hlast := hsteady (j + 1) (hk.trans_lt (lt_succ_of_le hij)) le_rfl
      rw [Falls, Nat.add_sub_cancel, not_lt] at hlast
      rw [succ_sub hij, cast_succ]
      linarith
  · have hsteady : ∀ m, 0 < m → m ≤ n → ¬ Falls r m := by
      intro m hm hmn
      have hlevel := hmono (m - 1) (by omega)
      rw [Nat.sub_add_cancel hm] at hlevel
      rw [Falls, energyTrendJitterPct]
      linarith
    rw [status_eq_label_iff, h.filling_iff]
    constructor
    · rintro ⟨k, hk, ⟨hpos, hrise⟩, -⟩
      refine ⟨k - 1, by omega, ?_⟩
      rwa [Nat.sub_add_cancel hpos]
    · rintro ⟨m, hm, hrise⟩
      exact ⟨m + 1, hm, ⟨succ_pos m, hrise⟩, fun m' hm' => hsteady m' (by omega)⟩

end Drifts

/-- Readings of a parked bus, a second apart, with given levels. -/
def parkedAt (level : ℕ → ℚ) (n : ℕ) : Delivery := readingAt (n * 1000000000) 0 (level n)

lemma parked_parkedAt {level : ℕ → ℚ} (hfull : ∀ n, level n < energyFullPct) :
    Parked (parkedAt level) where
  stationary _ _ := by simp [Stationary, parkedAt, readingAt, stationaryKph]
  energyType _ := by simp only [parkedAt, readingAt]
  belowFull n := hfull n
  window n := by
    have hsecond : ∀ m : ℤ, ((m + 1) * 1000000000 - m * 1000000000).tdiv 1000000000 = 1 := by
      intro m
      rw [add_mul, one_mul, add_sub_cancel_left]
      rfl
    have h := hsecond n
    rw [← cast_succ] at h
    rw [inTrendWindow, parkedAt, parkedAt, readingAt, readingAt, h]
    decide

def quickFill (n : ℕ) : ℚ := if n = 0 then 50 else 60

/-- A fill in one go is seen at once, and as long as the level stays. -/
theorem drifts_within_jitter_quickFill : Parked (parkedAt quickFill) ∧
    ∀ n, (twinAt (parkedAt quickFill) (n + 1)).status = .refueling := by
  have hparked : Parked (parkedAt quickFill) := parked_parkedAt fun n => by
    unfold quickFill energyFullPct
    split_ifs <;> norm_num
  have hlevel : ∀ n, levelAt (parkedAt quickFill) n = quickFill n := fun _ => rfl
  refine ⟨hparked, fun n => ((drifts_within_jitter hparked).2 (n + 1) fun m _ => ?_).mpr
    ⟨0, succ_pos n, ?_⟩⟩
  · rw [hlevel, hlevel, quickFill, quickFill, if_neg (succ_ne_zero m)]
    split_ifs <;> norm_num
  · rw [hlevel, hlevel]
    norm_num [quickFill, energyTrendJitterPct]

/-- A fill, and then a leak: three falls of 0.15 each. -/
def fillThenLeak (n : ℕ) : ℚ := if n = 0 then 50 else 60 - 3 / 20 * min (n - 1) 3

/-- A fill in steps of 0.15. -/
def slowFill (n : ℕ) : ℚ := 50 + 3 / 20 * min n 2

/-- **Small steps add up**: a leak of 0.45 while `refueling`, and a fill of 0.3 while `idle`. -/
theorem drifts_add_up : (Parked (parkedAt fillThenLeak) ∧ ¬ LeaksNoticed (parkedAt fillThenLeak)) ∧
      Parked (parkedAt slowFill) ∧ ¬ FillsNoticed (parkedAt slowFill) := by
  refine ⟨⟨parked_parkedAt fun n => ?_, fun h => ?_⟩, parked_parkedAt fun n => ?_, fun h => ?_⟩
  · have hmin : (0 : ℚ) ≤ ((min (n - 1) 3 : ℕ) : ℚ) := cast_nonneg _
    unfold fillThenLeak energyFullPct
    split_ifs
    · norm_num
    · linarith
  · have hdrop := h 1 4 (by decide) (by
      intro m hlo hhi
      have hm : m = 1 ∨ m = 2 ∨ m = 3 ∨ m = 4 := by omega
      rcases hm with rfl | rfl | rfl | rfl <;> decide +kernel)
    have hlevel : ∀ n, levelAt (parkedAt fillThenLeak) n = fillThenLeak n := fun _ => rfl
    rw [hlevel, hlevel] at hdrop
    norm_num [fillThenLeak, energyTrendJitterPct] at hdrop
  · have hmin : ((min n 2 : ℕ) : ℚ) ≤ (2 : ℕ) := cast_le.mpr (min_le_right n 2)
    unfold slowFill energyFullPct
    push_cast at hmin ⊢
    linarith
  · have hlevel : ∀ n, levelAt (parkedAt slowFill) n = slowFill n := fun _ => rfl
    have hstatus := h 2 (by
      intro m hm
      have : m = 0 ∨ m = 1 := by omega
      rw [hlevel, hlevel]
      rcases this with rfl | rfl <;> norm_num [slowFill]) (by
        rw [hlevel, hlevel]
        norm_num [slowFill, energyTrendJitterPct])
    exact absurd hstatus (by decide +kernel)

/-! ## Normalisation -/

/-- The mapping of the ingest service, on an enriched record. -/
def normalized (t : TelemetryEnriched) : TelemetryEnriched :=
  { t with toTelemetryRaw := Ingest.normalizeEnergyFields t.toTelemetryRaw }

def Delivery.normalized (d : Delivery) : Delivery := ⟨Twin.normalized d.reading, d.now⟩

@[simp] lemma normalized_level (t : TelemetryEnriched) : (normalized t).level = t.level := by
  cases h : t.energyLevelPct <;>
    simp [normalized, Ingest.normalizeEnergyFields, TelemetryEnriched.level, effectiveLevel, h]

@[simp] lemma normalized_label (t : TelemetryEnriched) : (normalized t).label = t.label := by
  cases h : t.energyType <;>
    simp [normalized, Ingest.normalizeEnergyFields, TelemetryEnriched.label, replenishingLabel, h]

/-- What a later status depends on is the same in two twins. -/
structure SameTrend (p q : TwinState) : Prop where
  ts : p.ts = q.ts
  level : p.level = q.level
  status : p.status = q.status

lemma SameTrend.deriveStatus_normalized {p q : TwinState} (h : SameTrend p q)
    (t : TelemetryEnriched) : deriveStatus (some p) (normalized t) = deriveStatus (some q) t := by
  rw [deriveStatus_some, deriveStatus_some, normalized_level, normalized_label]
  simp only [h.ts, h.level, h.status]
  rfl

lemma sameTrend_normalized (n : ℕ) :
    SameTrend (twinAt (fun i => (r i).normalized) n) (twinAt r n) := by
  induction n with
  | zero =>
    refine ⟨rfl, normalized_level _, ?_⟩
    exact (deriveStatus_none _).trans (deriveStatus_none _).symm
  | succ n ih => exact ⟨rfl, normalized_level _, ih.deriveStatus_normalized _⟩

/-- **Normalising the energy fields does not change the twin**, and is idempotent. -/
theorem statuses_normalized (r : ℕ → Delivery) :
    (∀ n, (twinAt (fun i => (r i).normalized) n).status = (twinAt r n).status) ∧
      ∀ raw, Ingest.normalizeEnergyFields (Ingest.normalizeEnergyFields raw) =
        Ingest.normalizeEnergyFields raw :=
  ⟨fun n => (sameTrend_normalized r n).status, fun _ => rfl⟩

end H2Fleet.Twin
