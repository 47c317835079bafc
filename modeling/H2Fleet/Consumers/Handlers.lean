import H2Fleet.Core.Codec
import H2Fleet.Core.Consumer
import H2Fleet.Ledger.Client

/-!
# The bodies of the event consumers

What the carbon-fund, maintenance and DRT auto-assign consumers and the digital-twin loop do with
one record: the errors their handlers return, what they write, and whether the loop commits.

The three Go loops are one loop (`goLoop`): a document that does not parse is dropped and committed,
an error of the handler leaves the record uncommitted.  The loop of the twin passes over a record
without a payload, and drops and commits an envelope of another type.

JSON decoding and PostgreSQL's reading of a UUID are parameters; a `float64` is a rational here.
-/

namespace H2Fleet.Consumers

abbrev Bytes := List UInt8

/-- The loop around a Go handler; `decodeEnvelope` yields the raw `data`. -/
def goLoop {P W A : Type} (decodeEnvelope : Bytes → Option Bytes) (decodeData : Bytes → Option P)
    (handle : W → P → A → Option (W × Except String Unit)) (w : W) (value : Option Bytes) (a : A) :
    Option (W × Verdict) :=
  match (decodeEnvelope (value.getD [])).bind decodeData with
  | none => some (w, .commit)
  | some p =>
    (handle w p a).map fun
      | (w', .error _) => (w', .fail)
      | (w', .ok ()) => (w', .commit)

/-! ## The carbon fund -/

/-- `CarbonCreditIssued`; the field `credits` is not read. -/
structure CarbonCreditIssued where
  creditID : String
  period : String
  kgCO2Avoided : ℚ

/-- `math.Round` of a number that is not negative. -/
def round (x : ℚ) : ℕ := ⌊x + 1 / 2⌋.toNat

def postCarbonFundLeg {ID : Type} [DecidableEq ID] (sha16 : String → ID) (b : Books ID)
    (c : CarbonCreditIssued) (r : Ledger.Replies) : Option (Books ID × Except String Unit) :=
  if c.creditID = "" ∨ c.period = "" then
    some (b, .error "carbon.credit.issued payload missing credit_id/period")
  else
    let amount := round (max c.kgCO2Avoided 0)
    if amount = 0 then some (b, .ok ())
    else
      (Ledger.transfer b (Ledger.deterministicTransferID sha16 ("carbon:" ++ c.creditID))
        Ledger.carbonIssuanceAccount Ledger.carbonFundAccount amount Ledger.codeCarbon r).map fun
        | (b', .error e) => (b', .error e.text)
        | (b', .ok _) => (b', .ok ())

/-! ## Maintenance predictions -/

structure MaintenancePredicted where
  predictionID : String
  busID : String
  component : String
  riskScore : ℚ
  predictedFailureAt : String
  modelVersion : String

/-- The columns of `infra.work_orders` that the consumer writes, and the status. -/
structure WorkOrder (U : Type) where
  title : String
  description : String
  assetRef : String
  busID : U
  predictionID : U
  status : String

/-- The answer to a statement; one that fails may have been applied. -/
inductive DbAnswer where
  | ok
  | error (applied : Bool) (text : String)

def workOrderTitle (p : MaintenancePredicted) : String :=
  "Predicted " ++ p.component ++ " failure risk " ++ formatFixed
    2 p.riskScore ++ " (bus " ++ p.busID ++ ")"

def workOrderFor {U : Type} (p : MaintenancePredicted) (bus prediction : U) : WorkOrder U where
  title := workOrderTitle p
  description :=
    "Auto-created from maintenance.predicted: component=" ++ p.component ++ " risk=" ++
      formatFixed 3 p.riskScore ++ " predicted_failure_at=" ++ p.predictedFailureAt ++ " model=" ++
      p.modelVersion
  assetRef := "fleet:" ++ p.busID
  busID := bus
  predictionID := prediction
  status := "open"

/-- `ON CONFLICT (prediction_id) WHERE status <> 'closed' DO NOTHING`. -/
def insertWorkOrder {U : Type} [DecidableEq U] (orders : List (WorkOrder U)) (o : WorkOrder U) :
    List (WorkOrder U) :=
  if ∃ q ∈ orders, q.predictionID = o.predictionID ∧ q.status ≠ "closed" then orders
  else orders ++ [o]

/-- `CreateWorkOrderFromPrediction`.  A text that is no UUID fails. -/
def createWorkOrderFromPrediction {U : Type} [DecidableEq U] (uuid : String → Option U)
    (orders : List (WorkOrder U)) (p : MaintenancePredicted) (a : DbAnswer) :
    Option (List (WorkOrder U) × Except String Unit) :=
  if p.predictionID = "" ∨ p.busID = "" ∨ p.component = "" then
    some (orders, .error "maintenance.predicted payload missing prediction_id/bus_id/component")
  else
    match a, uuid p.busID, uuid p.predictionID with
    | .ok, some bus, some prediction =>
      some (insertWorkOrder orders (workOrderFor p bus prediction), .ok ())
    | .error true text, some bus, some prediction =>
      some (insertWorkOrder orders (workOrderFor p bus prediction),
        .error ("insert prediction work order: " ++ text))
    | .error false text, _, _ => some (orders, .error ("insert prediction work order: " ++ text))
    | _, _, _ => none

/-! ## Demand-responsive rides -/

/-- `DRTRequested`, as far as the handler reads it. -/
structure DRTRequested where
  requestID : String
  userSub : String
  pickup : ℚ × ℚ

/-- A row of `citizen.drt_requests`. -/
structure DRTRow where
  id : String
  requiresWheelchair : Bool
  status : String
  vehicleID : Option String

inductive RowAnswer (R : Type) where
  | row (r : R)
  | noRows
  | error (text : String)

inductive AssignError where
  | notAssignable
  | vehicleBusy
  | wheelchairMismatch
  | unknownVehicle
  | other (text : String)

def AssignError.text : AssignError → String
  | .notAssignable => "drt request not assignable"
  | .vehicleBusy => "vehicle has an overlapping active dispatch job"
  | .wheelchairMismatch => "request requires a wheelchair-accessible vehicle"
  | .unknownVehicle => "vehicle_id does not reference a known vehicle"
  | .other text => text

/-- A failure of the first query, the vehicle picked, the verdict of `validateAssignVehicle`, the
answer to the UPDATE. -/
structure AssignAnswers where
  lookup : Option String
  pick : RowAnswer String
  validate : Option AssignError
  update : DbAnswer

/-- The UPDATE of `AssignDRT`. -/
def assignRow (rows : List DRTRow) (requestID vehicleID : String) : List DRTRow :=
  rows.map fun r =>
    if r.id = requestID ∧ r.status = "requested" then
      { r with status := "assigned", vehicleID := some vehicleID }
    else r

def assignDRT (rows : List DRTRow) (requestID vehicleID : String) (a : AssignAnswers) :
    List DRTRow × Except AssignError Unit :=
  match a.validate, a.update with
  | some e, _ => (rows, .error e)
  | none, .error applied text =>
    (if applied then assignRow rows requestID vehicleID else rows, .error (.other text))
  | none, .ok =>
    if ∃ r ∈ rows, r.id = requestID ∧ r.status = "requested" then
      (assignRow rows requestID vehicleID, .ok ())
    else (rows, .error .notAssignable)

/-- `AutoAssign`; a publish that fails is only logged. -/
def autoAssign (rows : List DRTRow) (e : DRTRequested) (a : AssignAnswers) :
    Option (List DRTRow × Except String Unit) :=
  if e.requestID = "" then some (rows, .error "drt.requested payload missing request_id")
  else
    match a.lookup with
    | some text => some (rows, .error text)
    | none =>
      if ∀ r ∈ rows, r.id ≠ e.requestID then some (rows, .ok ())
      else
        match a.pick with
        | .noRows => some (rows, .ok ())
        | .error text => some (rows, .error text)
        | .row vehicleID =>
          match assignDRT rows e.requestID vehicleID a with
          | (rows', .ok ()) => some (rows', .ok ())
          | (rows', .error .notAssignable) => some (rows', .ok ())
          | (rows', .error .vehicleBusy) => some (rows', .ok ())
          | (rows', .error .wheelchairMismatch) => some (rows', .ok ())
          | (rows', .error err) => some (rows', .error err.text)

/-! ## The digital twin -/

/-- The Redis keys of the twin: hot states by bus, and the set `twin:buses`. -/
structure TwinStore (S : Type) where
  hot : List (ℕ × S)
  index : List ℕ

/-- Whether the previous state was read and the new one serialised, and the outcome of the pipeline,
which may have been applied though it fails. -/
structure UpdateAnswers where
  readable : Bool
  serialized : Bool
  pipeline : Option (Bool × Bool)
  eventSerialized : Bool

section Twin

variable {R S : Type} (busID : R → ℕ) (fromTelemetry : Option S → R → S)

def TwinStore.set (w : TwinStore S) (bus : ℕ) (s : S) : TwinStore S :=
  { w with hot := (bus, s) :: w.hot.filter fun e => e.1 ≠ bus }

def TwinStore.add (w : TwinStore S) (bus : ℕ) : TwinStore S :=
  { w with index := if bus ∈ w.index then w.index else w.index ++ [bus] }

/-- `apply_update`; whether it returned `Ok`. -/
def applyUpdate (w : TwinStore S) (t : R) (a : UpdateAnswers) : TwinStore S × Bool :=
  let prev := if a.readable then (w.hot.find? fun e => e.1 = busID t).map Prod.snd else none
  let state := fromTelemetry prev t
  if a.serialized then
    match a.pipeline with
    | some (set, added) =>
      let w := if set then w.set (busID t) state else w
      (if added then w.add (busID t) else w, false)
    | none => ((w.set (busID t) state).add (busID t), a.eventSerialized)
  else (w, false)

/-- `run_engine` behind a poll; `decode` yields type and data of an envelope. -/
def twinLoop (decode : Bytes → Option (String × R)) (inputTopic : String) (w : TwinStore S)
    (value : Option Bytes) (a : UpdateAnswers) : Option (TwinStore S × Verdict) :=
  match value with
  | none => some (w, .skip)
  | some payload =>
    match decode payload with
    | some (kind, t) =>
      if kind = inputTopic then
        match applyUpdate busID fromTelemetry w t a with
        | (w', false) => some (w', .fail)
        | (w', true) => some (w', .commit)
      else some (w, .commit)
    | none => some (w, .commit)

end Twin

end H2Fleet.Consumers
