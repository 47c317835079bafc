import H2Fleet.Core.Run
import H2Fleet.Core.Slots
import H2Fleet.Infra.Reply

/-!
# Incidents

`handlers/incidents.go`, the incident activities of the workflow and `UpdateStationStatus`, one step
for each SQL statement.  An incident is opened by an operator (`OpenIncident`), by a driver
(`TriggerSOS`) or by a reading of a leak sensor (`IngestLeak`), unless the reading is folded into an
incident of that sensor which is still active.  Severities are texts, compared in three places: a Go
map, `array_position` in SQL, and a CASE ladder.

`readings` are those that opened an incident or were folded into it.  The code does not keep them;
nothing reads them.
-/

namespace H2Fleet.Infra

open List

/-! ## Severities -/

def severityRank (severity : String) : Option ℕ :=
  if severity = "low" then some 0
  else if severity = "medium" then some 1
  else if severity = "high" then some 2
  else if severity = "critical" then some 3
  else none

/-- A lookup in the Go map; what is not there has rank 0. -/
def rank (severity : String) : ℕ := (severityRank severity).getD 0

def severities : List String := ["low", "medium", "high", "critical"]

/-- `array_position(ARRAY['low','medium','high','critical'], severity)`. -/
def arrayPosition (severity : String) : Option ℕ := (severities.idxOf? severity).map (· + 1)

variable {severity : String}

lemma severity_cases (h : severity ∈ severities) :
    severity = "low" ∨ severity = "medium" ∨ severity = "high" ∨ severity = "critical" := by
  simpa only [severities, mem_cons, not_mem_nil, or_false] using h

lemma mem_severities (h : severityRank severity ≠ none) : severity ∈ severities := by
  rw [severityRank] at h
  split_ifs at h with hlow hmedium hhigh hcritical
  · rw [hlow]
    decide
  · rw [hmedium]
    decide
  · rw [hhigh]
    decide
  · rw [hcritical]
    decide
  · exact absurd rfl h

lemma arrayPosition_eq (h : severity ∈ severities) :
    arrayPosition severity = some (rank severity + 1) := by
  rcases severity_cases h with rfl | rfl | rfl | rfl <;> decide

/-- The CASE of a folded reading. -/
def raiseSeverity (current new : String) : String :=
  match arrayPosition current, arrayPosition new with
  | some a, some b => if a < b then new else current
  | _, _ => current

lemma raiseSeverity_mem {current new : String} (hcurrent : current ∈ severities)
    (hnew : new ∈ severities) : raiseSeverity current new ∈ severities := by
  rw [raiseSeverity, arrayPosition_eq hcurrent, arrayPosition_eq hnew]
  simp only
  split_ifs
  · exact hnew
  · exact hcurrent

/-- **A fold takes the higher one.** -/
lemma rank_raiseSeverity {current new : String} (hcurrent : current ∈ severities)
    (hnew : new ∈ severities) : rank (raiseSeverity current new) = max (rank current)
    (rank new) := by
  rw [raiseSeverity, arrayPosition_eq hcurrent, arrayPosition_eq hnew]
  simp only
  split_ifs <;> omega

/-- The CASE of `EscalateIncident`. -/
def escalateSeverity (severity : String) : String :=
  if severity = "low" then "medium"
  else if severity = "medium" then "high"
  else if severity = "high" then "critical"
  else severity

lemma escalateSeverity_spec (h : severity ∈ severities) :
    escalateSeverity severity ∈ severities ∧ rank severity ≤ rank (escalateSeverity severity) := by
  rcases severity_cases h with rfl | rfl | rfl | rfl <;> decide

def severityFromPpm (ppm : ℚ) : String :=
  if 20000 ≤ ppm then "critical"
  else if 5000 ≤ ppm then "high"
  else if 1000 ≤ ppm then "medium"
  else "low"

lemma severityFromPpm_mem (ppm : ℚ) : severityFromPpm ppm ∈ severities := by
  simp only [severityFromPpm]
  split_ifs <;> decide

def defaultedCaller (caller : String) : String :=
  if caller = "" then "high" else if severityRank caller = none then "high" else caller

lemma defaultedCaller_mem (caller : String) : defaultedCaller caller ∈ severities := by
  simp only [defaultedCaller]
  split_ifs with hempty hunknown
  · decide
  · decide
  · exact mem_severities hunknown

def leakSeverity (caller : String) (ppm : Option ℚ) : String :=
  match ppm with
  | none => defaultedCaller caller
  | some x =>
    if rank (defaultedCaller caller) < rank (severityFromPpm x) then severityFromPpm x
    else defaultedCaller caller

/-- **The severity of a reading** is one of the four, no lower than the caller's and the band. -/
lemma leakSeverity_spec (caller : String) (ppm : Option ℚ) : leakSeverity caller ppm ∈ severities ∧
      rank (defaultedCaller caller) ≤ rank (leakSeverity caller ppm) ∧
      ∀ x ∈ ppm, rank (severityFromPpm x) ≤ rank (leakSeverity caller ppm) := by
  cases ppm with
  | none => exact ⟨defaultedCaller_mem caller, le_rfl, by simp⟩
  | some x =>
    simp only [leakSeverity]
    split_ifs with h
    · refine ⟨severityFromPpm_mem x, h.le, fun y hy => ?_⟩
      rw [Option.some.inj hy]
    · refine ⟨defaultedCaller_mem caller, le_rfl, fun y hy => ?_⟩
      cases hy
      exact not_lt.mp h

def incidentTypeFloor (kind : String) : Option String :=
  if kind = "h2_leak" then some "low"
  else if kind = "collision" then some "high"
  else if kind = "fire" then some "critical"
  else if kind = "prd_vent" then some "high"
  else if kind = "evacuation" then some "high"
  else if kind = "sos" then some "critical"
  else if kind = "security" then some "high"
  else if kind = "breakdown" then some "low"
  else if kind = "other" then some "low"
  else none

def applySeverityFloor (kind severity : String) : String :=
  let sev := if severityRank severity = none then "medium" else severity
  match incidentTypeFloor kind with
  | some floor => if rank sev < rank floor then floor else sev
  | none => sev

lemma applySeverityFloor_mem (kind severity : String) :
    applySeverityFloor kind severity ∈ severities := by
  have hsev : (if severityRank severity = none then "medium" else severity) ∈ severities := by
    split_ifs with hunknown
    · decide
    · exact mem_severities hunknown
  simp only [applySeverityFloor]
  generalize (if severityRank severity = none then "medium" else severity) = sev at hsev ⊢
  cases hfloor : incidentTypeFloor kind with
  | none => exact hsev
  | some floor =>
    simp only
    split_ifs
    · rw [incidentTypeFloor] at hfloor
      split_ifs at hfloor <;> cases hfloor <;> decide
    · exact hsev

/-! ## Rows -/

inductive IncidentStatus where
  | opened
  | inProgress
  | acknowledged
  | resolved
  deriving DecidableEq

/-- `leakEventRequest`, without its place on the bus. -/
structure Reading where
  sensorID : String
  stationID : Option String
  severity : String
  ppm : Option ℚ
  deriving DecidableEq

def Reading.effective (r : Reading) : String := leakSeverity r.severity r.ppm

/-- A row of `infra.incidents`.  `sensorID` is `meta->>'sensor_id'`. -/
structure Incident where
  kind : String
  severity : String
  stationID : Option String
  status : IncidentStatus
  openedAt : ℤ
  sensorID : Option String
  readings : List Reading
  deriving DecidableEq

open Incident

/-- 30 minutes in microseconds. -/
def leakDedupWindow : ℤ := 1800000000

namespace Incident

/-- `status IN ('open','in_progress','acknowledged')`. -/
def Active (i : Incident) : Prop := i.status ≠ .resolved
  deriving Decidable

def Folds (now : ℤ) (r : Reading) (i : Incident) : Prop :=
  i.kind = "h2_leak" ∧ i.sensorID = some r.sensorID ∧ i.Active ∧ now - leakDedupWindow < i.openedAt
  deriving Decidable

def fold (now : ℤ) (r : Reading) (i : Incident) : Incident :=
  if i.Folds now r then
    { i with severity := raiseSeverity i.severity r.effective, readings := i.readings ++ [r] }
  else i

def acknowledge (i : Incident) : Incident :=
  if i.status = .opened ∨ i.status = .inProgress then { i with status := .acknowledged } else i

def resolve (i : Incident) : Incident :=
  if i.Active then { i with status := .resolved } else i

def setInProgress (i : Incident) : Incident :=
  if i.status = .opened ∨ i.status = .acknowledged then { i with status := .inProgress } else i

def escalate (i : Incident) : Incident :=
  if i.status ≠ .resolved then { i with severity := escalateSeverity i.severity } else i

end Incident

structure StationState where
  id : String
  status : String
  deriving DecidableEq

/-! ## Calls -/

/-- Where a call stands.  An opening call carries the reply it gives when all goes well. -/
inductive SafetyCall where
  /-- `insertIncident` is next, with the severity made of the request. -/
  | opening (i : Incident) (reply : Reply)
  /-- `IngestLeak`: the UPDATE that folds the reading is next. -/
  | folding (r : Reading)
  /-- `setStationEmergency` is next, for the incident that was inserted. -/
  | opened (severity : String) (stationID : Option String) (reply : Reply)
  /-- `ResolveIncident`. -/
  | resolving (id : ℕ)
  /-- The incident is resolved; `maybeRestoreStation` is next. -/
  | restoring (stationID : String)
  /-- In that snapshot the station is in emergency without a critical incident. -/
  | restorable (stationID : String)
  | done (r : Reply)
  deriving DecidableEq

def SafetyCall.isDone : SafetyCall → Bool
  | .done _ => true
  | _ => false

structure Safety where
  stations : List StationState
  incidents : List Incident
  calls : List SafetyCall
  deriving DecidableEq

def Safety.init (stations : List StationState) : Safety := ⟨stations, [], []⟩

/-- `UPDATE infra.stations SET status = … WHERE id = $1 AND …`. -/
def setStatus (id status : String) (cond : StationState → Bool) (stations : List StationState) :
    List StationState :=
  stations.map fun st => if st.id = id ∧ cond st = true then { st with status := status } else st

namespace Safety

variable (s : Safety)

def Critical (station : String) : Prop :=
  ∃ i ∈ s.incidents, i.stationID = some station ∧ i.severity = "critical" ∧ i.Active
  deriving Decidable

def InEmergency (station : String) : Prop :=
  ∃ st ∈ s.stations, st.id = station ∧ st.status = "emergency"
  deriving Decidable

/-- `station_id uuid REFERENCES infra.stations(id)`. -/
def References (stationID : Option String) : Prop :=
  ∀ station ∈ stationID, ∃ st ∈ s.stations, st.id = station
  deriving Decidable

def setCall (i : ℕ) (c : SafetyCall) : Safety := { s with calls := s.calls.set i c }

def modify (id : ℕ) (f : Incident → Incident) : Safety :=
  { s with incidents := s.incidents.modify id f }

def setStationEmergency (severity : String) : Option String → Safety
  | none => s
  | some id =>
    if severity = "critical" then
      { s with stations := setStatus id "emergency" (fun st => st.status ≠ "emergency") s.stations }
    else s

def alreadyResolved : Reply := .conflict "incident not found or already resolved"

/-- The call of `IngestLeak` when no row was folded. -/
def ingest (r : Reading) : SafetyCall :=
  .opening ⟨"h2_leak", r.effective, r.stationID, .opened, 0, some r.sensorID, [r]⟩ .accepted

/-- The next statement of the call at `i`.  `now` is the clock when it began; it may have waited. -/
def statement (i : ℕ) (now : ℤ) : SafetyCall → Option Safety
  | .opening x reply =>
    if s.References x.stationID then
      some ({ s with incidents := s.incidents ++ [{ x with openedAt := now }] }.setCall i
        (.opened x.severity x.stationID reply))
    else some (s.setCall i (.done .internal))
  | .folding r =>
    if ∃ x ∈ s.incidents, x.Folds now r then
      some ({ s with incidents := s.incidents.map (fold now r) }.setCall i (.done .ok))
    else some (s.setCall i (ingest r))
  | .opened severity stationID reply =>
    some ((s.setStationEmergency severity stationID).setCall i (.done reply))
  | .resolving id =>
    match s.incidents[id]? with
    | none => some (s.setCall i (.done alreadyResolved))
    | some x =>
      if x.Active then
        some ((s.modify id resolve).setCall i (match x.stationID with
          | none => .done .ok
          | some station => .restoring station))
      else some (s.setCall i (.done alreadyResolved))
  | .restoring station =>
    some (s.setCall i
      (if s.InEmergency station ∧ ¬ s.Critical station then .restorable station else .done .ok))
  | .restorable station =>
    -- if the row has changed since, only its own columns are looked at again
    some ({ s with
      stations := setStatus station "online" (fun st => st.status = "emergency")
        s.stations }.setCall i (.done .ok))
  | .done _ => none

inductive Request where
  | openIncident (kind severity : String) (stationID sensorID : Option String)
  | ingestLeak (r : Reading)
  | triggerSOS (subject : String)
  | resolveIncident (id : ℕ)

/-- A call up to its first statement that reads or writes incidents. -/
def Request.call : Request → SafetyCall
  | .openIncident kind severity stationID sensorID =>
    if kind = "" then .done (.badRequest "body must include \"type\"")
    else if incidentTypeFloor kind = none then
      .done (.unprocessable ("unknown incident type " ++ kind.quote ++ " (allowed: collision, " ++
        "evacuation, fire, h2_leak, breakdown, other, prd_vent, security, sos)"))
    else
      .opening ⟨kind, applySeverityFloor kind (if severity = "" then "medium" else severity),
        stationID, .opened, 0, sensorID, []⟩ .created
  | .ingestLeak r =>
    if r.sensorID = "" then .done (.badRequest "body must include \"sensor_id\"") else .folding r
  | .triggerSOS subject =>
    if subject = "" then .done (.unauthorized "authenticated subject required")
    else .opening ⟨"sos", "critical", none, .opened, 0, none, []⟩ .created
  | .resolveIncident id => .resolving id

def ackIncident (id : ℕ) : Reply × Safety :=
  (if (s.incidents[id]?).any fun i => i.status = .opened ∨ i.status = .inProgress then .ok
    else .conflict "incident not found or not in an acknowledgeable status",
   s.modify id acknowledge)

def updateStationStatus (station status : String) : Reply × Safety :=
  if status = "" then (.badRequest "body must include \"status\"", s)
  else
    (if ∃ st ∈ s.stations, st.id = station then .ok else .notFound "station not found",
     { s with stations := setStatus station status (fun _ => true) s.stations })

/-- The handlers and activities of one statement are one step. -/
inductive Event where
  | start (r : Request)
  | statement (i : ℕ) (now : ℤ)
  | ackIncident (id : ℕ)
  | setIncidentInProgress (id : ℕ)
  | escalateIncident (id : ℕ)
  | markIncidentResolved (id : ℕ)
  | updateStationStatus (station status : String)

def step : Event → Option Safety
  | .start r => some { s with calls := s.calls ++ [r.call] }
  | .statement i now => (s.calls[i]?).bind (s.statement i now)
  | .ackIncident id => some (s.ackIncident id).2
  | .setIncidentInProgress id => some (s.modify id setInProgress)
  | .escalateIncident id => some (s.modify id escalate)
  | .markIncidentResolved id => some (s.modify id resolve)
  | .updateStationStatus station status => some (s.updateStationStatus station status).2

end Safety

/-! ## What an incident is worth -/

/-- The severity is no lower than the caller's and the band of the reading. -/
def Reading.Within (r : Reading) (severity : String) : Prop :=
  rank (defaultedCaller r.severity) ≤ rank severity ∧
    ∀ x ∈ r.ppm, rank (severityFromPpm x) ≤ rank severity

lemma Reading.Within.mono {r : Reading} {a b : String} (h : r.Within a) (hab : rank a ≤ rank b) :
    r.Within b :=
  ⟨h.1.trans hab, fun x hx => (h.2 x hx).trans hab⟩

lemma Reading.effective_mem (r : Reading) : r.effective ∈ severities :=
  (leakSeverity_spec r.severity r.ppm).1

lemma Reading.within_effective (r : Reading) : r.Within r.effective :=
  (leakSeverity_spec r.severity r.ppm).2

variable {f : Incident → Incident}

namespace Incident

/-- One of the four severities, and at least what each reading asks for. -/
def Sound (i : Incident) : Prop :=
  i.severity ∈ severities ∧ ∀ r ∈ i.readings, r.Within i.severity

structure Rises (i i' : Incident) : Prop where
  kind : i'.kind = i.kind
  rank : rank i.severity ≤ rank i'.severity
  readings : i.readings ⊆ i'.readings

lemma Rises.refl (i : Incident) : i.Rises i := ⟨rfl, le_rfl, fun _ h => h⟩

lemma Rises.trans {i j k : Incident} (h : i.Rises j) (h' : j.Rises k) : i.Rises k :=
  ⟨h'.kind.trans h.kind, h.rank.trans h'.rank, fun _ hr => h'.readings (h.readings hr)⟩

/-- A write that keeps rows sound and lets their severity only rise. -/
def Raising (f : Incident → Incident) : Prop :=
  ∀ i : Incident, i.Sound → i.Rises (f i) ∧ (f i).Sound

lemma Raising.of_status (hf : ∀ i, ∃ st, f i = { i with status := st }) : Raising f := by
  intro i hi
  obtain ⟨st, hst⟩ := hf i
  rw [hst]
  exact ⟨⟨rfl, le_rfl, fun _ h => h⟩, hi⟩

lemma ite_status (p : Prop) [Decidable p] (i : Incident) (st : IncidentStatus) :
    ∃ st', (if p then { i with status := st } else i) = { i with status := st' } := by
  split_ifs
  · exact ⟨st, rfl⟩
  · exact ⟨i.status, rfl⟩

lemma acknowledge_status (i : Incident) : ∃ st, i.acknowledge = { i with status := st } :=
  ite_status _ i _

lemma setInProgress_status (i : Incident) : ∃ st, i.setInProgress = { i with status := st } :=
  ite_status _ i _

lemma resolve_status (i : Incident) : ∃ st, i.resolve = { i with status := st } :=
  ite_status _ i _

lemma raising_escalate : Raising escalate := by
  intro i hi
  rw [escalate]
  split_ifs
  · obtain ⟨hmem, hrank⟩ := escalateSeverity_spec hi.1
    exact ⟨⟨rfl, hrank, fun _ h => h⟩, hmem, fun r hr => (hi.2 r hr).mono hrank⟩
  · exact ⟨Rises.refl i, hi⟩

lemma raising_fold (now : ℤ) (r : Reading) : Raising (fold now r) := by
  intro i hi
  rw [fold]
  split_ifs
  · have hmax := rank_raiseSeverity hi.1 r.effective_mem
    have hold : rank i.severity ≤ rank (raiseSeverity i.severity r.effective) := by omega
    have hnew : rank r.effective ≤ rank (raiseSeverity i.severity r.effective) := by omega
    exact ⟨⟨rfl, hold, subset_append_left _ _⟩, raiseSeverity_mem hi.1 r.effective_mem,
      forall_mem_concat (fun x hx => (hi.2 x hx).mono hold) (r.within_effective.mono hnew)⟩
  · exact ⟨Rises.refl i, hi⟩

end Incident

/-! ## What a step does to the incidents -/

/-- **No incident disappears, no severity falls, and all are sound.** -/
structure Grows (l l' : List Incident) : Prop where
  old : ∀ (j : ℕ) (i : Incident), l[j]? = some i → ∃ i', l'[j]? = some i' ∧ i.Rises i'
  sound : ∀ i ∈ l', i.Sound

namespace Grows

variable {l l' l'' : List Incident}

lemma refl (hl : ∀ i ∈ l, i.Sound) : Grows l l :=
  ⟨fun _ i hi => ⟨i, hi, Rises.refl i⟩, hl⟩

lemma trans (h : Grows l l') (h' : Grows l' l'') : Grows l l'' := by
  refine ⟨fun j i hi => ?_, h'.sound⟩
  obtain ⟨i', hi', hrise⟩ := h.old j i hi
  obtain ⟨i'', hi'', hrise'⟩ := h'.old j i' hi'
  exact ⟨i'', hi'', hrise.trans hrise'⟩

lemma concat (hl : ∀ i ∈ l, i.Sound) {x : Incident} (hx : x.Sound) : Grows l (l ++ [x]) :=
  ⟨fun _ i hi => ⟨i, getElem?_append_old hi, Rises.refl i⟩, forall_mem_concat hl hx⟩

lemma map (hl : ∀ i ∈ l, i.Sound) (hf : Raising f) : Grows l (l.map f) := by
  refine ⟨fun j i hi => ⟨f i, by simp [hi], (hf i (hl i (mem_of_getElem? hi))).1⟩, ?_⟩
  intro i hi
  obtain ⟨x, hx, rfl⟩ := mem_map.mp hi
  exact (hf x (hl x hx)).2

lemma modify (hl : ∀ i ∈ l, i.Sound) (hf : Raising f) (id : ℕ) : Grows l (l.modify id f) := by
  constructor
  · intro j i hi
    have hraise := hf i (hl i (mem_of_getElem? hi))
    by_cases hj : id = j
    · exact ⟨f i, by simp [hj, hi], hraise.1⟩
    · exact ⟨i, by simp [hj, hi], Rises.refl i⟩
  · intro i hi
    obtain ⟨j, hj⟩ := mem_iff_getElem?.mp hi
    rw [getElem?_modify] at hj
    obtain ⟨x, hx, rfl⟩ := Option.map_eq_some_iff.mp hj
    have hsound := hl x (mem_of_getElem? hx)
    split_ifs
    · exact (hf x hsound).2
    · exact hsound

end Grows

namespace Safety

/-- What a call is going to insert is sound. -/
def CallSound : SafetyCall → Prop
  | .opening i _ => i.Sound
  | _ => True

structure Sound (s : Safety) : Prop where
  incidents : ∀ i ∈ s.incidents, i.Sound
  calls : ∀ c ∈ s.calls, CallSound c

lemma callSound_ingest (r : Reading) : CallSound (ingest r) := by
  refine ⟨r.effective_mem, fun x hx => ?_⟩
  rw [mem_singleton.mp hx]
  exact r.within_effective

lemma callSound_call (r : Request) : CallSound r.call := by
  cases r with
  | openIncident kind severity stationID sensorID =>
    by_cases hkind : kind = ""
    · rw [Request.call, if_pos hkind]
      trivial
    by_cases hfloor : incidentTypeFloor kind = none
    · rw [Request.call, if_neg hkind, if_pos hfloor]
      trivial
    · rw [Request.call, if_neg hkind, if_neg hfloor]
      exact ⟨applySeverityFloor_mem _ _, by simp⟩
  | ingestLeak r =>
    simp only [Request.call]
    split_ifs <;> trivial
  | triggerSOS subject =>
    simp only [Request.call]
    split_ifs
    · trivial
    · exact ⟨by decide, by simp⟩
  | resolveIncident id => trivial

@[simp] lemma setCall_incidents (s : Safety) (i : ℕ) (c : SafetyCall) :
    (s.setCall i c).incidents = s.incidents := rfl

@[simp] lemma setCall_stations (s : Safety) (i : ℕ) (c : SafetyCall) :
    (s.setCall i c).stations = s.stations := rfl

@[simp] lemma setCall_calls (s : Safety) (i : ℕ) (c : SafetyCall) :
    (s.setCall i c).calls = s.calls.set i c := rfl

lemma setStationEmergency_frame (s : Safety) (severity : String) (stationID : Option String) :
    ∃ stations, s.setStationEmergency severity stationID = { s with stations := stations } := by
  cases stationID with
  | none => exact ⟨s.stations, rfl⟩
  | some id =>
    simp only [setStationEmergency]
    split_ifs
    · exact ⟨_, rfl⟩
    · exact ⟨s.stations, rfl⟩

@[simp] lemma setStationEmergency_incidents (s : Safety) (severity : String)
    (stationID : Option String) :
    (s.setStationEmergency severity stationID).incidents = s.incidents := by
  obtain ⟨stations, heq⟩ := s.setStationEmergency_frame severity stationID
  rw [heq]

@[simp] lemma setStationEmergency_calls (s : Safety) (severity : String)
    (stationID : Option String) : (s.setStationEmergency severity stationID).calls = s.calls := by
  obtain ⟨stations, heq⟩ := s.setStationEmergency_frame severity stationID
  rw [heq]

variable {s t : Safety}

/-- **What a statement writes**: the incidents grow, and one call moves on. -/
lemma statement_grows {i : ℕ} {now : ℤ} {c : SafetyCall} (hs : s.Sound) (hc : CallSound c)
    (h : s.statement i now c = some t) :
    Grows s.incidents t.incidents ∧ ∃ c', t.calls = s.calls.set i c' ∧ CallSound c' := by
  have hkeep := Grows.refl hs.incidents
  cases c with
  | opening x reply =>
    simp only [statement] at h
    split_ifs at h <;> cases h
    · exact ⟨Grows.concat hs.incidents hc, _, rfl, trivial⟩
    · exact ⟨hkeep, _, rfl, trivial⟩
  | folding r =>
    simp only [statement] at h
    split_ifs at h <;> cases h
    · exact ⟨Grows.map hs.incidents (raising_fold now r), _, rfl, trivial⟩
    · exact ⟨hkeep, _, rfl, callSound_ingest r⟩
  | opened severity stationID reply =>
    cases h
    exact ⟨by simpa using hkeep, .done reply, by simp, trivial⟩
  | resolving id =>
    have hresolve := Grows.modify hs.incidents (.of_status resolve_status) id
    simp only [statement] at h
    cases hx : s.incidents[id]? with
    | none =>
      rw [hx] at h
      cases h
      exact ⟨hkeep, _, rfl, trivial⟩
    | some x =>
      simp only [hx] at h
      split_ifs at h <;> cases h
      · refine ⟨hresolve, _, rfl, ?_⟩
        cases x.stationID <;> trivial
      · exact ⟨hkeep, _, rfl, trivial⟩
  | restoring station =>
    cases h
    refine ⟨hkeep, _, rfl, ?_⟩
    split_ifs <;> trivial
  | restorable station =>
    cases h
    exact ⟨hkeep, _, rfl, trivial⟩
  | done r => cases h

@[simp] lemma updateStationStatus_incidents (s : Safety) (station status : String) :
    (s.updateStationStatus station status).2.incidents = s.incidents := by
  rw [updateStationStatus]
  split_ifs <;> rfl

@[simp] lemma updateStationStatus_calls (s : Safety) (station status : String) :
    (s.updateStationStatus station status).2.calls = s.calls := by
  rw [updateStationStatus]
  split_ifs <;> rfl

lemma modify_grows {s : Safety} (hs : s.Sound) (hf : Raising f) (id : ℕ) :
    Grows s.incidents (s.modify id f).incidents ∧ (s.modify id f).Sound :=
  have hgrow := Grows.modify hs.incidents hf id
  ⟨hgrow, hgrow.sound, hs.calls⟩

lemma step_grows {e : Event} (hs : s.Sound) (h : step s e = some t) :
    Grows s.incidents t.incidents ∧ t.Sound := by
  cases e with
  | start r =>
    cases h
    exact ⟨Grows.refl hs.incidents, hs.incidents, forall_mem_concat hs.calls (callSound_call r)⟩
  | statement i now =>
    obtain ⟨c, hc, hstmt⟩ := Option.bind_eq_some_iff.mp h
    obtain ⟨hgrow, c', hcalls, hc'⟩ :=
      statement_grows hs (hs.calls c (mem_of_getElem? hc)) hstmt
    refine ⟨hgrow, hgrow.sound, ?_⟩
    rw [hcalls]
    exact forall_mem_set hs.calls hc'
  | ackIncident id =>
    cases h
    exact modify_grows hs (.of_status acknowledge_status) id
  | setIncidentInProgress id =>
    cases h
    exact modify_grows hs (.of_status setInProgress_status) id
  | escalateIncident id =>
    cases h
    exact modify_grows hs raising_escalate id
  | markIncidentResolved id =>
    cases h
    exact modify_grows hs (.of_status resolve_status) id
  | updateStationStatus station status =>
    cases h
    exact ⟨by simpa using Grows.refl hs.incidents, by simpa using hs.incidents,
      by simpa using hs.calls⟩

lemma sound_init (stations : List StationState) : (init stations).Sound :=
  ⟨by simp [init], by simp [init]⟩

lemma run_grows {es : List Event} (hs : s.Sound) (hrun : run step s es = some t) :
    Grows s.incidents t.incidents ∧ t.Sound := by
  refine run_invariant_always
    (fun (u : Safety) e v (h : Grows s.incidents u.incidents ∧ u.Sound) huv => ?_)
    ⟨Grows.refl hs.incidents, hs⟩ hrun
  obtain ⟨hgrow', hv⟩ := step_grows h.2 huv
  exact ⟨h.1.trans hgrow', hv⟩

/-- **The severity of a leak only rises.**  Every leak incident has one of the four severities, at
least the band and the caller's severity of each of its readings; later it is still there, with
these readings and no lower severity. -/
theorem leak_severity_only_rises {stations : List StationState} {es fs : List Event} {s t : Safety}
    (hs : run step (init stations) es = some s) (ht : run step s fs = some t) {j : ℕ} {i : Incident}
    (hi : s.incidents[j]? = some i) (hleak : i.kind = "h2_leak") :
    i.severity ∈ severities ∧
    (∀ r ∈ i.readings, rank (defaultedCaller r.severity) ≤ rank i.severity ∧
        ∀ x ∈ r.ppm, rank (severityFromPpm x) ≤ rank i.severity) ∧
      ∃ i', t.incidents[j]? = some i' ∧ i'.kind = "h2_leak" ∧ i.readings ⊆ i'.readings ∧
        rank i.severity ≤ rank i'.severity := by
  obtain ⟨-, hsound⟩ := run_grows (sound_init stations) hs
  obtain ⟨hgrow, -⟩ := run_grows hsound ht
  obtain ⟨hmem, hreadings⟩ := hsound.incidents i (mem_of_getElem? hi)
  obtain ⟨i', hi', hrise⟩ := hgrow.old j i hi
  exact ⟨hmem, hreadings, i', hi', hrise.kind.trans hleak, hrise.readings, hrise.rank⟩

def traceReading : Reading := ⟨"sensor-1", some "depot", "low", some 1200⟩

def strongReading : Reading := ⟨"sensor-1", some "depot", "", some 6000⟩

def firstReading : List Event := [.start (.ingestLeak traceReading), .statement 0 0, .statement 0 0,
  .statement 0 0]

/-- The second reading is folded into it, then nobody acknowledges it. -/
def secondReading : List Event := [.start (.ingestLeak strongReading), .statement 1 60000000,
  .escalateIncident 0]

def oneLeak : Safety :=
  ⟨[⟨"depot", "online"⟩], [⟨"h2_leak", "medium", some "depot", .opened, 0, some "sensor-1",
    [traceReading]⟩], [.done .accepted]⟩

theorem sensor_severity_rises : ∃ t, run step (init [⟨"depot", "online"⟩]) firstReading =
    some oneLeak ∧ run step oneLeak secondReading = some t ∧
    (t.incidents[0]?).map Incident.severity = some "critical" ∧
    ∃ i', t.incidents[0]? = some i' ∧ rank "medium" ≤ rank i'.severity := by
  have hfirst : run step (init [⟨"depot", "online"⟩]) firstReading = some oneLeak := by
    decide +kernel
  obtain ⟨t, ht, hseverity⟩ : ∃ t, run step oneLeak secondReading = some t ∧
      (t.incidents[0]?).map severity = some "critical" := by decide +kernel
  obtain ⟨-, -, i', hi', -, -, hrank⟩ := leak_severity_only_rises hfirst ht (j := 0) rfl rfl
  exact ⟨t, hfirst, ht, hseverity, i', hi', hrank⟩

end Safety

end H2Fleet.Infra
