import H2Fleet.Ingest.Telemetry
import Mathlib.Data.List.Basic

/-!
# The digital twin of a bus

`model.rs` of the digital-twin service, and what `apply_update` does to the hot state in Redis: it
reads the state of the bus, derives the status from it and from the reading, and stores the reading
with that status.  Numbers are rationals and instants count nanoseconds.

**The latest state.**  The documents say that the service keeps the latest state of each bus.  It
keeps the reading that came last: nothing compares timestamps, so that a reading that is late, or
delivered again, replaces a newer one.
-/

namespace H2Fleet.Twin

open Ingest (TelemetryRaw)

/-! ## Readings and states -/

/-- `TelemetryEnriched`: the raw record, and what ingest knows about the bus. -/
structure TelemetryEnriched extends TelemetryRaw where
  routeID : Option String
  depotID : Option String
  headingDeg : Option ℚ
  deriving DecidableEq

/-- `moving | idle | refueling | charging | refueling_diesel | refueling_cng`. -/
inductive Status where
  | moving
  | idle
  | refueling
  | charging
  | refuelingDiesel
  | refuelingCng
  deriving DecidableEq

/-- `TwinState`: the reading, the derived status, and when it was stored. -/
structure TwinState extends TelemetryEnriched where
  status : Status
  updatedAt : ℤ

def stationaryKph : ℚ := 2

def energyTrendJitterPct : ℚ := 1 / 5

def energyFullPct : ℚ := 98

def trendWindowSecs : ℕ := 120

def replenishingLabel (energyType : Option String) : Status :=
  match energyType with
  | some "battery" => .charging
  | some "diesel" => .refuelingDiesel
  | some "cng" => .refuelingCng
  | _ => .refueling

def effectiveLevel (energyLevelPct : Option ℚ) (h2LevelPct : ℚ) : ℚ :=
  energyLevelPct.getD h2LevelPct

def TelemetryEnriched.level (t : TelemetryEnriched) : ℚ :=
  effectiveLevel t.energyLevelPct t.h2LevelPct

def TelemetryEnriched.label (t : TelemetryEnriched) : Status := replenishingLabel t.energyType

/-- The window for trends: `num_seconds` drops the fraction of a second. -/
def inTrendWindow (ts prevTs : ℤ) : Prop := ((ts - prevTs).tdiv 1000000000).natAbs ≤ trendWindowSecs
  deriving Decidable

def deriveStatus (prev : Option TwinState) (t : TelemetryEnriched) : Status :=
  if stationaryKph < t.speedKph then .moving
  else
    let prev := prev.filter fun p => inTrendWindow t.ts p.ts
    let label := replenishingLabel t.energyType
    let level := effectiveLevel t.energyLevelPct t.h2LevelPct
    let delta := prev.map fun p => level - effectiveLevel p.energyLevelPct p.h2LevelPct
    let rising := delta.any fun d => energyTrendJitterPct < d
    let falling := delta.any fun d => d < -energyTrendJitterPct
    let wasReplenishing := prev.any fun p => p.status = label
    let filling := rising || (wasReplenishing && !falling)
    if filling ∧ level < energyFullPct then label else .idle

/-- `TwinState::from_telemetry`, at an instant. -/
def fromTelemetry (prev : Option TwinState) (t : TelemetryEnriched) (now : ℤ) : TwinState :=
  { t with status := deriveStatus prev t, updatedAt := now }

/-! ## The store -/

/-- A reading that `apply_update` is called with, and the clock then. -/
structure Delivery where
  reading : TelemetryEnriched
  now : ℤ
  deriving DecidableEq

abbrev Store := ℕ → Option TwinState

/-- `apply_update` on the hot state of the bus. -/
def applyUpdate (store : Store) (d : Delivery) : Store :=
  Function.update store d.reading.busID
    (some (fromTelemetry (store d.reading.busID) d.reading d.now))

def applyAll (ds : List Delivery) : Store := ds.foldl applyUpdate fun _ => none

def deliveredFor (ds : List Delivery) (bus : ℕ) : List Delivery :=
  ds.filter fun d => d.reading.busID = bus

lemma applyAll_append (ds : List Delivery) (d : Delivery) :
    applyAll (ds ++ [d]) = applyUpdate (applyAll ds) d := by
  rw [applyAll, List.foldl_append]
  rfl

/-- **The twin of a bus shows its last reading.** -/
lemma stored_applyAll (bus : ℕ) (ds : List Delivery) :
    (applyAll ds bus).map TwinState.toTelemetryEnriched =
      (deliveredFor ds bus).getLast?.map Delivery.reading := by
  induction ds using List.reverseRecOn with
  | nil => rfl
  | append_singleton ds d ih =>
    rw [applyAll_append, applyUpdate, deliveredFor, List.filter_append]
    by_cases hbus : d.reading.busID = bus
    · subst hbus
      simp [fromTelemetry]
    · have hother : [d].filter (fun d => decide (d.reading.busID = bus)) = [] := by simp [hbus]
      rw [Function.update_of_ne (Ne.symm hbus), ih, hother, List.append_nil, deliveredFor]

/-- The twin has the fields of a delivered reading, and none was newer. -/
def ShowsNewest (ds : List Delivery) (bus : ℕ) : Prop :=
  ∃ twin, applyAll ds bus = some twin ∧ ∃ d ∈ deliveredFor ds bus,
    twin.toTelemetryEnriched = d.reading ∧ ∀ d' ∈ deliveredFor ds bus, d'.reading.ts ≤ d.reading.ts

/-- **The twin shows a newest reading exactly if the last one delivered is one.** -/
theorem showsNewest_iff {ds : List Delivery} {bus : ℕ} {last : Delivery}
    (hlast : (deliveredFor ds bus).getLast? = some last) :
    ShowsNewest ds bus ↔ ∀ d ∈ deliveredFor ds bus, d.reading.ts ≤ last.reading.ts := by
  have hstored := stored_applyAll bus ds
  rw [hlast, Option.map_some] at hstored
  obtain ⟨twin, htwin, hfields⟩ := Option.map_eq_some_iff.mp hstored
  constructor
  · rintro ⟨twin', htwin', d, -, hd, hnewest⟩
    cases htwin.symm.trans htwin'
    rw [hfields] at hd
    rw [hd]
    exact hnewest
  · intro h
    exact ⟨twin, htwin, last, List.mem_of_getLast? hlast, hfields, h⟩

def readingAt (ts : ℤ) (speed level : ℚ) : Delivery where
  reading :=
    { busID := 7, ts := ts, speedKph := speed, h2LevelPct := level, fuelCellKw := 0,
      batterySocPct := 50
      odometerKm := 12345, lat := 52, lon := 13, energyLevelPct := none, powertrainKw := none
      energyType := none, routeID := none, depotID := none, headingDeg := none }
  now := ts

/-- Three readings, the last of them delivered twice. -/
theorem showsNewest_of_repeated :
    ShowsNewest [readingAt 1 30 60, readingAt 2 31 60, readingAt 3 32 60, readingAt 3 32 60] 7 :=
  (showsNewest_iff rfl).mpr (by decide)

/-- **A late reading replaces a newer one.** -/
theorem late_reading_replaces_newer :
    ¬ ShowsNewest [readingAt 1 30 60, readingAt 3 32 60, readingAt 2 31 60] 7 := by
  rintro ⟨twin, htwin, d, hd, hfields, hnewest⟩
  have hts : twin.ts = 2 := by
    cases htwin
    rfl
  have hlast := hnewest (readingAt 3 32 60) (by decide)
  rw [← hfields, hts] at hlast
  cases hlast

end H2Fleet.Twin
