import H2Fleet.Consumers.Handlers

/-!
# What stays uncommitted is redelivered

The four consumers as instances of the consumer group of `H2Fleet.Core.Consumer`.  Each loop leaves
a record whose handling failed uncommitted and goes on with the next, and a commit of a later record
of the partition covers the failed one.
-/

namespace H2Fleet.Consumers

open H2Fleet.Group

section Consumers

variable {ID U R S : Type}

/-- The decoders, the ledger client's id function, PostgreSQL's reading of a UUID, and the twin's
state derivation and topic. -/
structure Config (ID U R S : Type) where
  decodeEnvelope : Bytes → Option Bytes
  decodeCredit : Bytes → Option CarbonCreditIssued
  decodePrediction : Bytes → Option MaintenancePredicted
  decodeRide : Bytes → Option DRTRequested
  decodeReading : Bytes → Option (String × R)
  sha16 : String → ID
  uuid : String → Option U
  busID : R → ℕ
  fromTelemetry : Option S → R → S
  inputTopic : String

def startCarbonConsumer [DecidableEq ID] (cfg : Config ID U R S) : Handler (Option Bytes) where
  World := Books ID
  Answer := Ledger.Replies
  handle := goLoop cfg.decodeEnvelope cfg.decodeCredit (postCarbonFundLeg cfg.sha16)

def startMaintenanceConsumer [DecidableEq U] (cfg : Config ID U R S) : Handler (Option Bytes) where
  World := List (WorkOrder U)
  Answer := DbAnswer
  handle := goLoop cfg.decodeEnvelope cfg.decodePrediction (createWorkOrderFromPrediction cfg.uuid)

def startDRTConsumer (cfg : Config ID U R S) : Handler (Option Bytes) where
  World := List DRTRow
  Answer := AssignAnswers
  handle := goLoop cfg.decodeEnvelope cfg.decodeRide autoAssign

def runEngine (cfg : Config ID U R S) : Handler (Option Bytes) where
  World := TwinStore S
  Answer := UpdateAnswers
  handle := twinLoop cfg.busID cfg.fromTelemetry cfg.decodeReading cfg.inputTopic

inductive Consumer where
  | carbonFund
  | maintenance
  | drtAutoAssign
  | digitalTwin

variable [DecidableEq ID] [DecidableEq U]

def Consumer.handler (cfg : Config ID U R S) : Consumer → Handler (Option Bytes)
  | .carbonFund => startCarbonConsumer cfg
  | .maintenance => startMaintenanceConsumer cfg
  | .drtAutoAssign => startDRTConsumer cfg
  | .digitalTwin => runEngine cfg

/-- **The committed offset of a partition is never past a failed record**, in every run in which
none is committed while an earlier one of its partition stands failed. -/
theorem committed_before_failed (cfg : Config ID U R S) (c : Consumer)
    (log : ℕ → ℕ → Option (Option Bytes)) (w : (c.handler cfg).World)
    (es : List (GroupEvent (c.handler cfg).World (c.handler cfg).Answer))
    (s : Group (c.handler cfg).World)
    (hok : Meets (step (c.handler cfg) log) (Careful (c.handler cfg) log) (init w) es)
    (hrun : run (step (c.handler cfg) log) (init w) es = some s) :
    ∀ f ∈ s.failed, s.committed f.1 ≤ f.2 :=
  committed_le_failed hok hrun

end Consumers

/-! ## Two predictions -/

def utf8 (s : String) : Bytes := s.toUTF8.data.toList

def firstPrediction : MaintenancePredicted where
  predictionID := "11111111-1111-1111-1111-111111111111"
  busID := "00000000-0000-0000-0000-000000000007"
  component := "fuel_cell"
  riskScore := 9 / 10
  predictedFailureAt := "2026-08-01T00:00:00Z"
  modelVersion := "v1"

def secondPrediction : MaintenancePredicted :=
  { firstPrediction with
    predictionID := "22222222-2222-2222-2222-222222222222", component := "battery" }

def predictionData (id component : String) : String :=
  "\x7b\"prediction_id\":\"" ++ id ++ "\",\"bus_id\":\"00000000-0000-0000-0000-000000000007\"," ++
    "\"component\":\"" ++ component ++ "\",\"risk_score\":0.9," ++
    "\"predicted_failure_at\":\"2026-08-01T00:00:00Z\",\"model_version\":\"v1\"\x7d"

def firstData : String := predictionData "11111111-1111-1111-1111-111111111111" "fuel_cell"
def secondData : String := predictionData "22222222-2222-2222-2222-222222222222" "battery"

def predictionEnvelope (data : String) : Bytes :=
  utf8 ("\x7b\"type\":\"maintenance.predicted\",\"data\":" ++ data ++ "\x7d")

def predictionConfig : Config String String Unit Unit where
  decodeEnvelope b :=
    if b = predictionEnvelope firstData then some (utf8 firstData)
    else if b = predictionEnvelope secondData then some (utf8 secondData)
    else none
  decodeCredit _ := none
  decodePrediction b :=
    if b = utf8 firstData then some firstPrediction
    else if b = utf8 secondData then some secondPrediction
    else none
  decodeRide _ := none
  decodeReading _ := none
  sha16 s := s
  uuid s :=
    if s ∈ [firstPrediction.busID, firstPrediction.predictionID, secondPrediction.predictionID] then
      some s
    else none
  busID _ := 0
  fromTelemetry _ _ := ()
  inputTopic := "telemetry.enriched"

def twoPredictions : ℕ → ℕ → Option (Option Bytes)
  | 0, 0 => some (some (predictionEnvelope firstData))
  | 0, 1 => some (some (predictionEnvelope secondData))
  | _, _ => none

/-- The first INSERT fails, is handled again after a restart, and the second fails. -/
def redeliveredRun : List (GroupEvent (List (WorkOrder String)) DbAnswer) :=
  [.handle 0 0 (.error false "connection refused"), .restart, .handle 0 0 .ok, .applyCommit,
    .handle 0 1 (.error false "connection refused")]

theorem committed_before_failed_redelivered : ∃ s : Group (List (WorkOrder String)),
      run (step (Consumer.maintenance.handler predictionConfig) twoPredictions) (init [])
        redeliveredRun = some s ∧ (0, 1) ∈ s.failed ∧ s.committed 0 = 1 ∧ s.committed 0 ≤ 1 := by
  obtain ⟨s, hrun, hfailed, hcommitted⟩ :
      ∃ s, run (step (startMaintenanceConsumer predictionConfig) twoPredictions)
        (init []) redeliveredRun = some s ∧ (0, 1) ∈ s.failed ∧ s.committed 0 = 1 := by
    decide +kernel
  have hok : Meets (step (startMaintenanceConsumer predictionConfig) twoPredictions)
      (Careful (startMaintenanceConsumer predictionConfig) twoPredictions) (init [])
      redeliveredRun :=
    @of_decide_eq_true _ (Meets.decidable _ _ _ _) (by decide +kernel)
  exact ⟨s, hrun, hfailed, hcommitted,
    committed_before_failed predictionConfig .maintenance twoPredictions [] redeliveredRun s
    hok hrun
      (0, 1) hfailed⟩

/-- The first INSERT fails and the second succeeds before a restart. -/
def overtakenRun : List (GroupEvent (List (WorkOrder String)) DbAnswer) :=
  [.handle 0 0 (.error false "connection refused"), .handle 0 1 .ok, .applyCommit, .restart]

/-- **A failed prediction is committed over**: only the second one has its work order. -/
theorem commit_covers_failed_prediction : ∃ s : Group (List (WorkOrder String)),
      run (step (Consumer.maintenance.handler predictionConfig) twoPredictions) (init [])
        overtakenRun = some s ∧
      (0, 0) ∈ s.failed ∧ s.committed 0 = 2 ∧ s.position 0 = 2 ∧
      s.world.map WorkOrder.predictionID = [secondPrediction.predictionID] := by
  show ∃ s, run (step (startMaintenanceConsumer predictionConfig) twoPredictions)
    (init []) overtakenRun = some s ∧ _ ∧ _ ∧ _ ∧ _
  decide +kernel

end H2Fleet.Consumers
