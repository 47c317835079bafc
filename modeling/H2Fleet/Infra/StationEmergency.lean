import H2Fleet.Infra.Incidents
import H2Fleet.Infra.StationQueue

/-!
# Stations in emergency

A station with a critical incident has to be in `emergency`, which closes its queue.  The status is
set in one place: `setStationEmergency`, after an incident was *inserted*.  An incident becomes
critical in two more places: a repeated reading that is folded into it, and `EscalateIncident`.  And
two statements take a station out of `emergency` again: `UpdateStationStatus`, which does not look
at the incidents, and `maybeRestoreStation`, which looks at them in its snapshot while others are
being opened.
-/

namespace H2Fleet.Infra

open Incident

open List

def SafetyCall.Opens (station : String) : SafetyCall → Prop
  | .opened severity stationID _ => severity = "critical" ∧ stationID = some station
  | _ => False

instance SafetyCall.decidableOpens (station : String) (c : SafetyCall) :
    Decidable (c.Opens station) := by
  unfold SafetyCall.Opens; split <;> infer_instance

variable {status : String} {s t : Safety} {cond : StationState → Bool} {c c' : SafetyCall}
  {f : Incident → Incident} {r : Reading}

namespace Safety

def Quiet (s : Safety) : Prop := ∀ c ∈ s.calls, c.isDone = true
  deriving Decidable

def Opening (s : Safety) (station : String) : Prop := ∃ c ∈ s.calls, c.Opens station
  deriving Decidable

def AllEmergency (s : Safety) (station : String) : Prop :=
  ∀ st ∈ s.stations, st.id = station → st.status = "emergency"
  deriving Decidable

def Guarded (s : Safety) (station : String) : Prop := s.AllEmergency station ∨ s.Opening station
  deriving Decidable

def IncidentGuarded (s : Safety) (i : Incident) : Prop := ∀ station ∈ i.stationID, s.Guarded station
  deriving Decidable

def MayLeave (s : Safety) (station : String) : Prop := ¬ s.Critical station ∨ s.Opening station
  deriving Decidable

/-- **What a statement may find.** -/
def CarefulCall (s : Safety) (now : ℤ) : SafetyCall → Prop
  | .folding r =>
    ∀ i ∈ s.incidents, i.Folds now r → r.effective = "critical" → s.IncidentGuarded i
  | .restorable station => s.MayLeave station
  | _ => True

instance (s : Safety) (now : ℤ) (c : SafetyCall) : Decidable (s.CarefulCall now c) := by
  unfold CarefulCall; split <;> infer_instance

/-- A reading or an escalation that makes an incident critical finds its station guarded, and a
station that is taken out of `emergency` has no critical incident, or is about to be set to it
again. -/
def Careful (s : Safety) : Event → Prop
  | .statement i now => ∀ c ∈ s.calls[i]?, s.CarefulCall now c
  | .escalateIncident id =>
    ∀ i ∈ s.incidents[id]?, i.Active → i.severity = "high" → s.IncidentGuarded i
  | .updateStationStatus station status => status = "" ∨ status = "emergency" ∨ s.MayLeave station
  | _ => True

instance (s : Safety) (e : Event) : Decidable (s.Careful e) := by
  unfold Careful; split <;> infer_instance

def JoinsRefused (status : String) : Prop :=
  ∀ (q : StationQueue) (bus : String) (joinedAt : ℤ), q.status = status →
    q.statement (.joining bus joinedAt) .go =
      some (q.entries, .done (.conflict ("station is not online (status " ++ status ++ ")")))

lemma joinsRefused (h : status ≠ "online") : JoinsRefused status := by
  rintro q bus joinedAt rfl
  simp only [StationQueue.statement, if_neg h]

/-- **Every station with a critical incident is in emergency**, and no bus can join its queue. -/
def EmergencyOk (s : Safety) : Prop :=
  s.Quiet → ∀ st ∈ s.stations, s.Critical st.id → st.status = "emergency" ∧ JoinsRefused st.status

/-! ## The invariant -/

def EmergencyInv (s : Safety) : Prop := ∀ station, s.Critical station → s.Guarded station

lemma Quiet.not_opening (h : s.Quiet) (station : String) : ¬ s.Opening station := by
  rintro ⟨c, hc, hopens⟩
  have hdone := h c hc
  cases c <;> simp_all [SafetyCall.isDone, SafetyCall.Opens]

lemma EmergencyInv.ok (h : s.EmergencyInv) : s.EmergencyOk := by
  intro hquiet st hst hcritical
  rcases h st.id hcritical with hall | hopening
  · have hstatus := hall st hst rfl
    exact ⟨hstatus, joinsRefused (by rw [hstatus]; decide)⟩
  · exact absurd hopening (hquiet.not_opening st.id)

lemma mem_setStatus {id : String} {l : List StationState} {st' : StationState}
    (h : st' ∈ setStatus id status cond l) : (st'.id = id ∧ st'.status = status) ∨ st' ∈ l := by
  obtain ⟨st, hst, rfl⟩ := mem_map.mp h
  split_ifs with hcond
  · exact .inl ⟨hcond.1, rfl⟩
  · exact .inr hst

lemma AllEmergency.setStatus {id station : String}
    (ht : t.stations = Infra.setStatus id status cond s.stations)
    (hid : id ≠ station ∨ status = "emergency") (h : s.AllEmergency station) :
    t.AllEmergency station := by
  intro st' hst' hstation
  rw [ht] at hst'
  rcases mem_setStatus hst' with ⟨hrow, hstatus⟩ | hst
  · rcases hid with hid | rfl
    · exact absurd (hrow.symm.trans hstation) hid
    · exact hstatus
  · exact h st' hst hstation

variable {station : String}

lemma Guarded.keep (h : s.Guarded station) (hstations : t.stations = s.stations)
    (hopening : s.Opening station → t.Opening station) : t.Guarded station := by
  rcases h with hall | hopen
  · left
    intro st hst
    rw [hstations] at hst
    exact hall st hst
  · exact .inr (hopening hopen)

lemma Opening.set {i : ℕ} (h : s.Opening station) (hc : s.calls[i]? = some c)
    (hnot : ¬ c.Opens station) (hcalls : t.calls = s.calls.set i c') : t.Opening station := by
  rw [Opening, hcalls]
  exact exists_mem_set hc (fun hopens => absurd hopens hnot) h

lemma Guarded.set {i : ℕ} (h : s.Guarded station) (hc : s.calls[i]? = some c)
    (hnot : ¬ c.Opens station) (hstations : t.stations = s.stations)
    (hcalls : t.calls = s.calls.set i c') : t.Guarded station :=
  h.keep hstations fun hopen => hopen.set hc hnot hcalls

lemma critical_modify {id : ℕ} (h : (s.modify id f).Critical station) :
    s.Critical station ∨ ∃ i, s.incidents[id]? = some i ∧ (f i).stationID = some station ∧
      (f i).severity = "critical" ∧ (f i).Active := by
  obtain ⟨i', hi', hstation, hsev, hactive⟩ := h
  obtain ⟨j, hj⟩ := mem_iff_getElem?.mp hi'
  simp only [modify, getElem?_modify] at hj
  obtain ⟨i, hi, rfl⟩ := Option.map_eq_some_iff.mp hj
  split_ifs at hstation hsev hactive with hid
  · subst hid
    exact .inr ⟨i, hi, hstation, hsev, hactive⟩
  · exact .inl ⟨i, mem_of_getElem? hi, hstation, hsev, hactive⟩

lemma critical_of_status {id : ℕ} (hf : ∀ i, ∃ st, f i = { i with status := st })
    (hactive : ∀ i, (f i).Active → i.Active) (h : (s.modify id f).Critical station) :
    s.Critical station := by
  rcases critical_modify h with h | ⟨i, hi, hstation, hsev, hact⟩
  · exact h
  · have hold := hactive i hact
    obtain ⟨st, hst⟩ := hf i
    rw [hst] at hstation hsev
    exact ⟨i, mem_of_getElem? hi, hstation, hsev, hold⟩

end Safety

namespace Incident

lemma active_of_ite {p : Prop} [Decidable p] {i : Incident} {st : IncidentStatus}
    (hp : p → i.Active) (h : (if p then { i with status := st } else i).Active) : i.Active := by
  split_ifs at h with hcond
  · exact hp hcond
  · exact h

lemma active_of_acknowledge (i : Incident) (h : i.acknowledge.Active) : i.Active := by
  refine active_of_ite ?_ h
  rintro (hst | hst) <;> simp [Active, hst]

lemma active_of_setInProgress (i : Incident) (h : i.setInProgress.Active) : i.Active := by
  refine active_of_ite ?_ h
  rintro (hst | hst) <;> simp [Active, hst]

lemma active_of_resolve (i : Incident) (h : i.resolve.Active) : i.Active :=
  active_of_ite (fun hactive => hactive) h

lemma escalate_stationID (i : Incident) : i.escalate.stationID = i.stationID := by
  rw [escalate]
  split_ifs <;> rfl

end Incident

namespace Safety

/-! ## Statements -/

variable {s t : Safety} {i : ℕ} {now : ℤ}

lemma EmergencyInv.setCall (h : s.EmergencyInv) (hc : s.calls[i]? = some c)
    (hnot : ∀ station, ¬ c.Opens station) : (s.setCall i c').EmergencyInv := by
  intro station hcritical
  exact (h station hcritical).set hc (hnot station) rfl rfl

lemma EmergencyInv.fold (h : s.EmergencyInv) (hc : s.calls[i]? = some (.folding r))
    (hok : s.CarefulCall now (.folding r)) :
    ({ s with incidents := s.incidents.map (fold now r) }.setCall i
      (.done .ok)).EmergencyInv := by
  rintro station ⟨y, hy, hstation, hsev, hactive⟩
  obtain ⟨x, hx, rfl⟩ := mem_map.mp hy
  have hguarded : s.Guarded station := by
    rw [Incident.fold] at hstation hsev hactive
    split_ifs at hstation hsev hactive with hfolds
    · simp only [raiseSeverity] at hsev
      split at hsev
      · split_ifs at hsev
        · exact hok x hx hfolds hsev station hstation
        · exact h station ⟨x, hx, hstation, hsev, hactive⟩
      · exact h station ⟨x, hx, hstation, hsev, hactive⟩
    · exact h station ⟨x, hx, hstation, hsev, hactive⟩
  exact hguarded.set hc id rfl rfl

lemma EmergencyInv.emergency (h : s.EmergencyInv) {severity : String} {stationID : Option String}
    {reply : Reply} (hc : s.calls[i]? = some (.opened severity stationID reply)) :
    ((s.setStationEmergency severity stationID).setCall i (.done reply)).EmergencyInv := by
  intro station hcritical
  have hguarded := h station (by simpa [Critical] using hcritical)
  by_cases hopens : severity = "critical" ∧ stationID = some station
  · obtain ⟨rfl, rfl⟩ := hopens
    -- every row of the station is reached
    refine .inl fun st' hst' hstation => ?_
    obtain ⟨st, hst, rfl⟩ := mem_map.mp hst'
    by_cases hstatus : st.status = "emergency"
    · simp [hstatus]
    · split_ifs at hstation ⊢ with hcond
      · rfl
      · exact absurd ⟨hstation, by simpa using hstatus⟩ hcond
  · rcases hguarded with hall | hopening
    · left
      -- whatever row is written, it is set to emergency
      cases stationID with
      | none => exact hall
      | some id =>
        by_cases hsev : severity = "critical"
        · have hstations :
              ((s.setStationEmergency severity (some id)).setCall i (.done reply)).stations =
                Infra.setStatus id "emergency" (fun st => st.status ≠ "emergency") s.stations := by
            rw [setCall_stations, setStationEmergency, if_pos hsev]
          exact hall.setStatus hstations (.inr rfl)
        · intro st hst
          rw [setCall_stations, setStationEmergency, if_neg hsev] at hst
          exact hall st hst
    · have hcalls : ((s.setStationEmergency severity stationID).setCall i (.done reply)).calls =
          s.calls.set i (.done reply) := by
        rw [setCall_calls, setStationEmergency_calls]
      exact .inr (hopening.set hc hopens hcalls)

lemma guarded_setStatus (h : s.EmergencyInv) {id : String}
    (hstations : t.stations = Infra.setStatus id status cond s.stations)
    (hok : status = "emergency" ∨ s.MayLeave id)
    (hopening : ∀ station, s.Opening station → t.Opening station) {station : String}
    (hcritical : s.Critical station) : t.Guarded station := by
  rcases h station hcritical with hall | hopen
  · by_cases hid : id = station
    · subst hid
      rcases hok with hstatus | hfree | hopen
      · exact .inl (hall.setStatus hstations (.inr hstatus))
      · exact absurd hcritical hfree
      · exact .inr (hopening id hopen)
    · exact .inl (hall.setStatus hstations (.inl hid))
  · exact .inr (hopening station hopen)

lemma statement_emergency (hs : s.EmergencyInv) (hc : s.calls[i]? = some c)
    (hok : s.CarefulCall now c) (h : s.statement i now c = some t) : t.EmergencyInv := by
  cases c with
  | opening x reply =>
    simp only [statement] at h
    split_ifs at h <;> cases h
    · rintro station ⟨y, hy, hstation, hsev, hactive⟩
      rcases mem_append.mp hy with hy | hy
      · exact (hs station ⟨y, hy, hstation, hsev, hactive⟩).set hc id rfl rfl
      · rw [mem_singleton.mp hy] at hstation hsev
        exact .inr ⟨_, mem_set_self hc, hsev, hstation⟩
    · exact hs.setCall hc fun _ => id
  | folding r =>
    simp only [statement] at h
    split_ifs at h <;> cases h
    · exact hs.fold hc hok
    · exact hs.setCall hc fun _ => id
  | opened severity stationID reply =>
    cases h
    exact hs.emergency hc
  | resolving id =>
    simp only [statement] at h
    cases hx : s.incidents[id]? with
    | none =>
      rw [hx] at h
      cases h
      exact hs.setCall hc fun _ hopens => hopens
    | some x =>
      simp only [hx] at h
      split_ifs at h <;> cases h
      · intro station hcritical
        have hold : s.Critical station :=
          critical_of_status resolve_status active_of_resolve hcritical
        exact (hs station hold).set hc (fun hopens => hopens) rfl rfl
      · exact hs.setCall hc fun _ hopens => hopens
  | restoring station =>
    cases h
    exact hs.setCall hc fun _ => id
  | restorable station =>
    cases h
    intro station' hcritical
    exact guarded_setStatus hs rfl (.inr hok) (fun _ hopen => hopen.set hc id rfl) hcritical
  | done r => cases h

lemma EmergencyInv.modify_status (hs : s.EmergencyInv) (id : ℕ)
    (hf : ∀ i, ∃ st, f i = { i with status := st }) (hactive : ∀ i, (f i).Active → i.Active) :
    (s.modify id f).EmergencyInv := by
  intro station hcritical
  exact (hs station (critical_of_status hf hactive hcritical)).keep rfl fun h => h

lemma step_emergency {e : Event} (hs : s.EmergencyInv) (hok : s.Careful e) (h : step s e = some t) :
    t.EmergencyInv := by
  cases e with
  | start r =>
    cases h
    intro station hcritical
    refine (hs station hcritical).keep rfl ?_
    rintro ⟨c, hc, hopens⟩
    exact ⟨c, mem_append_left _ hc, hopens⟩
  | statement i now =>
    obtain ⟨c, hc, hstmt⟩ := Option.bind_eq_some_iff.mp h
    exact statement_emergency hs hc (hok c hc) hstmt
  | ackIncident id =>
    cases h
    exact hs.modify_status id acknowledge_status active_of_acknowledge
  | setIncidentInProgress id =>
    cases h
    exact hs.modify_status id setInProgress_status active_of_setInProgress
  | escalateIncident id =>
    cases h
    intro station hcritical
    have hguarded : s.Guarded station := by
      rcases critical_modify hcritical with hold | ⟨x, hx, hstation, hsev, hactive⟩
      · exact hs station hold
      · rw [escalate_stationID] at hstation
        rw [Incident.escalate] at hsev hactive
        split_ifs at hsev hactive with hcond
        · -- an escalation makes an incident critical from `high` only
          simp only [escalateSeverity] at hsev
          split_ifs at hsev with hlow hmedium hhigh
          · exact absurd hsev (by decide)
          · exact absurd hsev (by decide)
          · exact hok x hx hcond hhigh station hstation
          · exact hs station ⟨x, mem_of_getElem? hx, hstation, hsev, hcond⟩
        · exact absurd hactive hcond
    exact hguarded.keep rfl fun h => h
  | markIncidentResolved id =>
    cases h
    exact hs.modify_status id resolve_status active_of_resolve
  | updateStationStatus station status =>
    cases h
    by_cases hempty : status = ""
    · rw [updateStationStatus, if_pos hempty]
      exact hs
    · rw [updateStationStatus, if_neg hempty]
      intro station' hcritical
      have hopening : ∀ x, s.Opening x → Opening { s with
          stations := Infra.setStatus station status (fun _ => true) s.stations } x :=
        fun _ hopen => hopen
      exact guarded_setStatus hs rfl (hok.resolve_left hempty) hopening hcritical

/-- **Emergency, while the steps are careful**: with no call in flight every station with an
unresolved critical incident is in emergency, and its queue refuses buses. -/
theorem critical_station_in_emergency {stations : List StationState} {es : List Event}
    (hok : Meets step Careful (init stations) es) :
    Throughout step EmergencyOk (init stations) es := by
  have hinit : (init stations).EmergencyInv := by
    rintro station ⟨i, hi, -⟩
    simp [init] at hi
  exact Meets.throughout (fun _ hu => hu.ok) (fun _ _ _ => step_emergency) hinit hok

def fireDay : List Event :=
  [.start (.openIncident "fire" "" (some "depot") none), .statement 0 0, .statement 0 0,
   .start (.ingestLeak ⟨"sensor-1", some "depot", "high", none⟩), .statement 1 1, .statement 1 1,
   .statement 1 1, .escalateIncident 1]

theorem fireDay_in_emergency : ∃ t, run step (init [⟨"depot", "online"⟩]) fireDay = some t ∧
    t.stations = [⟨"depot", "emergency"⟩] ∧ t.Critical "depot" ∧
    Throughout step EmergencyOk (init [⟨"depot", "online"⟩]) fireDay := by
  obtain ⟨t, ht, hstations, hcritical⟩ : ∃ t,
    run step (init [⟨"depot", "online"⟩]) fireDay = some t ∧
      t.stations = [⟨"depot", "emergency"⟩] ∧ t.Critical "depot" := by decide +kernel
  exact ⟨t, ht, hstations, hcritical, critical_station_in_emergency (by decide +kernel)⟩

def unacknowledgedLeak : List Event :=
  [.start (.ingestLeak ⟨"sensor-1", some "depot", "high", none⟩), .statement 0 0, .statement 0 0,
   .statement 0 0, .setIncidentInProgress 0, .escalateIncident 0]

/-- **The escalation leaves the station online**, and a bus passes the check. -/
theorem escalated_leak_leaves_station_online :
    ∃ t, run step (init [⟨"depot", "online"⟩]) unacknowledgedLeak = some t ∧ t.Quiet ∧
      t.Critical "depot" ∧ t.stations = [⟨"depot", "online"⟩] ∧ ¬ t.EmergencyOk ∧
      (StationQueue.init "online" ["bus-1"]).statement (.joining "bus-1" 0) .go =
        some ([], .checked "bus-1" 0) := by
  obtain ⟨t, ht, hstations, hquiet, hcritical⟩ :
      ∃ t, run step (init [⟨"depot", "online"⟩]) unacknowledgedLeak = some t ∧
        t.stations = [⟨"depot", "online"⟩] ∧ t.Quiet ∧ t.Critical "depot" := by decide +kernel
  refine ⟨t, ht, hquiet, hcritical, hstations, fun hok => ?_, by decide⟩
  have hstatus := (hok hquiet ⟨"depot", "online"⟩ (by simp [hstations]) hcritical).1
  exact absurd hstatus (by decide)

end Safety

end H2Fleet.Infra
