import Mathlib.Tactic
import Mathlib.Data.Rat.Defs

/-!
# Telemetry records

The payload of `telemetry.raw`, its plausibility check and the compatibility mapping for publishers
that only send the hydrogen fields (`model.rs`), and `parse_and_validate` of the pipeline.

Numbers of a JSON document are finite, so that an `f64` is a rational here; instants count
nanoseconds.  Decoding the document is the parameter `decode`.
-/

namespace H2Fleet.Ingest

abbrev Bytes := List UInt8

structure TelemetryRaw where
  busID : ℕ
  ts : ℤ
  speedKph : ℚ
  h2LevelPct : ℚ
  fuelCellKw : ℚ
  batterySocPct : ℚ
  odometerKm : ℚ
  lat : ℚ
  lon : ℚ
  energyLevelPct : Option ℚ
  powertrainKw : Option ℚ
  energyType : Option String
  deriving DecidableEq

/-- `Envelope`, as far as the pipeline reads it. -/
structure Envelope where
  kind : String
  data : TelemetryRaw

inductive ValidationError where
  | lat (v : ℚ)
  | lon (v : ℚ)
  | h2Level (v : ℚ)
  | batterySoc (v : ℚ)
  | speed (v : ℚ)
  | odometer (v : ℚ)
  | fuelCell (v : ℚ)
  | energyLevel (v : ℚ)
  | powertrain (v : ℚ)
  | futureTs (ts : ℤ)
  | staleTs (ts : ℤ)

def nanosPerMinute : ℤ := 60 * 1000000000

/-- Five minutes. -/
def maxFutureSkew : ℤ := 5 * nanosPerMinute

/-- Ninety days. -/
def maxRecordAge : ℤ := 90 * 24 * 60 * nanosPerMinute

def outside (lo hi v : ℚ) : Prop := ¬ (lo ≤ v ∧ v ≤ hi)
  deriving Decidable

/-- The checks on the two optional fields. -/
def validateEnergy (raw : TelemetryRaw) : Except ValidationError Unit :=
  match raw.energyLevelPct, raw.powertrainKw with
  | some e, p =>
    if outside 0 100 e then .error (.energyLevel e)
    else
      match p with
      | some p => if p < 0 then .error (.powertrain p) else .ok ()
      | none => .ok ()
  | none, some p => if p < 0 then .error (.powertrain p) else .ok ()
  | none, none => .ok ()

/-- The checks on the instant, against the clock of the service. -/
def validateTs (now : ℤ) (raw : TelemetryRaw) : Except ValidationError Unit :=
  if raw.ts > now + maxFutureSkew then .error (.futureTs raw.ts)
  else if raw.ts < now - maxRecordAge then .error (.staleTs raw.ts)
  else .ok ()

def validate (now : ℤ) (raw : TelemetryRaw) : Except ValidationError Unit :=
  if outside (-90) 90 raw.lat then .error (.lat raw.lat)
  else if outside (-180) 180 raw.lon then .error (.lon raw.lon)
  else if outside 0 100 raw.h2LevelPct then .error (.h2Level raw.h2LevelPct)
  else if outside 0 100 raw.batterySocPct then .error (.batterySoc raw.batterySocPct)
  else if outside 0 160 raw.speedKph then .error (.speed raw.speedKph)
  else if raw.odometerKm < 0 then .error (.odometer raw.odometerKm)
  else if raw.fuelCellKw < 0 then .error (.fuelCell raw.fuelCellKw)
  else
    match validateEnergy raw with
    | .error err => .error err
    | .ok () => validateTs now raw

def normalizeEnergyFields (raw : TelemetryRaw) : TelemetryRaw :=
  { raw with
    energyType := some (raw.energyType.getD "h2")
    energyLevelPct := some (raw.energyLevelPct.getD raw.h2LevelPct)
    powertrainKw := some (raw.powertrainKw.getD raw.fuelCellKw) }

/-- `parse_and_validate`; `none` is a poison record. -/
def parseAndValidate (decode : Bytes → Option Envelope) (expectedTopic : String) (now : ℤ)
    (payload : Bytes) : Option TelemetryRaw :=
  match decode payload with
  | none => none
  | some env =>
    if env.kind ≠ expectedTopic then none
    else
      match validate now env.data with
      | .error _ => none
      | .ok () => some (normalizeEnergyFields env.data)

/-- A record is stored under its bus and its instant, to the microsecond. -/
def TelemetryRaw.key (raw : TelemetryRaw) : ℕ × ℤ := (raw.busID, raw.ts / 1000)

variable {raw : TelemetryRaw}

/-- The fields filled in pass their checks when those they mirror do. -/
lemma validateEnergy_normalize (hlevel : ¬ outside 0 100 raw.h2LevelPct)
    (hcell : ¬ raw.fuelCellKw < 0) (h : validateEnergy raw = .ok ()) :
    validateEnergy (normalizeEnergyFields raw) = .ok () := by
  cases he : raw.energyLevelPct with
  | none =>
    cases hp : raw.powertrainKw with
    | none => simp [validateEnergy, normalizeEnergyFields, he, hp, hlevel, hcell]
    | some p =>
      simp only [validateEnergy, he, hp] at h
      split_ifs at h with hneg
      simp [validateEnergy, normalizeEnergyFields, he, hp, hlevel, hneg]
  | some e =>
    cases hp : raw.powertrainKw with
    | none =>
      simp only [validateEnergy, he, hp] at h
      split_ifs at h with hout
      simp [validateEnergy, normalizeEnergyFields, he, hp, hout, hcell]
    | some p =>
      simp only [validateEnergy, he, hp] at h
      split_ifs at h with hout hneg
      simp [validateEnergy, normalizeEnergyFields, he, hp, hout, hneg]

/-- **The mapping keeps a plausible record plausible.** -/
theorem validate_normalize {now : ℤ} (h : validate now raw = .ok ()) :
    validate now (normalizeEnergyFields raw) = .ok () := by
  simp only [validate] at h
  split_ifs at h with hlat hlon hh2 hsoc hspeed hodo hcell
  split at h
  · cases h
  · rename_i henergy
    have hfields := validateEnergy_normalize hh2 hcell henergy
    have henergy' : validate now (normalizeEnergyFields raw) =
        match validateEnergy (normalizeEnergyFields raw) with
        | .error err => .error err
        | .ok () => validateTs now raw :=
      (if_neg hlat).trans ((if_neg hlon).trans ((if_neg hh2).trans ((if_neg hsoc).trans
        ((if_neg hspeed).trans ((if_neg hodo).trans (if_neg hcell))))))
    rw [henergy', hfields]
    exact h

lemma parseAndValidate_key {decode : Bytes → Option Envelope} {topic : String} {now : ℤ}
    {payload : Bytes} (h : parseAndValidate decode topic now payload = some raw) :
    (decode payload).map (fun env => env.data.key) = some raw.key := by
  simp only [parseAndValidate] at h
  split at h
  · cases h
  · rename_i env henv
    split_ifs at h
    split at h
    · cases h
    · rw [Option.some.injEq] at h
      rw [henv, ← h]
      rfl

lemma parseAndValidate_wellFormed {decode : Bytes → Option Envelope} {topic : String} {now : ℤ}
    {payload : Bytes} (h : parseAndValidate decode topic now payload = some raw) :
    validate now raw = .ok () ∧ normalizeEnergyFields raw = raw := by
  simp only [parseAndValidate] at h
  split at h
  · cases h
  · split_ifs at h
    split at h
    · cases h
    · rename_i hvalid
      cases h
      exact ⟨validate_normalize hvalid, rfl⟩

end H2Fleet.Ingest
