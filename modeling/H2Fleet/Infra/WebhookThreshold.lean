import H2Fleet.Infra.Activities
import H2Fleet.Infra.StationEmergency

/-!
# Which partners hear of an incident

`dispatchIncidentWebhooks` fans an event out to the active subscriptions whose `min_severity` the
incident has reached, and is called in two places: when an incident was inserted, with
`incident.opened`, and when `ResolveIncident` has updated it, with `incident.resolved`.  Migration
0009 knows a third event, `escalated`; nothing sends it.

**What a partner misses.**  A folded reading and `EscalateIncident` raise the severity and tell
nobody.  An incident that reaches a threshold in that way is never opened for the partner, and its
resolution comes out of nowhere; so it does when an incident is resolved while the handler that has
opened it is still working through the subscriptions.
-/

namespace H2Fleet.Infra

/-! ## Subscriptions and deliveries -/

/-- `WebhookSubscription`; its id is its index. -/
structure Subscription where
  url : String
  secret : String
  minSeverity : String
  active : Bool

def createWebhookSubscription (url secret minSeverity : String) (subs : List Subscription) :
    Reply × List Subscription :=
  let severity := if minSeverity = "" then "high" else minSeverity
  if url = "" ∨ secret = "" then (.badRequest "body must include \"url\" and \"secret\"", subs)
  else if severityRank severity = none then
    (.badRequest "min_severity must be low, medium, high or critical", subs)
  else (.created, subs ++ [⟨url, secret, severity, true⟩])

def deactivateWebhookSubscription (id : ℕ) (subs : List Subscription) : Reply × List Subscription :=
  (if id < subs.length then .ok else .notFound "subscription not found",
   subs.modify id fun sub => { sub with active := false })

inductive IncidentEvent where
  | incidentOpened
  | incidentResolved
  deriving DecidableEq

/-- A row of `infra.webhook_deliveries`, as it is inserted. -/
structure DeliveryRow where
  subscription : ℕ
  incident : ℕ
  event : IncidentEvent
  deriving DecidableEq

/-- A call of `dispatchIncidentWebhooks`.  `rest` are the subscriptions to come, once loaded. -/
structure Fanout where
  incident : ℕ
  severity : String
  event : IncidentEvent
  rest : Option (List (ℕ × String))

structure Partners where
  safety : Safety
  subscriptions : List Subscription
  deliveries : List DeliveryRow
  fanouts : List Fanout

/-- The fan-out that follows a statement; its SELECT comes later. -/
def Safety.fanouts (s : Safety) : Safety.Event → List Fanout
  | .statement i _ =>
    match s.calls[i]? with
    | some (.opening x _) =>
      if s.References x.stationID then [⟨s.incidents.length, x.severity, .incidentOpened, none⟩]
      else []
    | some (.resolving id) =>
      match s.incidents[id]? with
      | some x => if x.Active then [⟨id, x.severity, .incidentResolved, none⟩] else []
      | none => []
    | _ => []
  | _ => []

namespace Partners

def init (stations : List StationState) (subs : List Subscription) : Partners :=
  ⟨.init stations, subs, [], []⟩

/-- `SELECT id, …, min_severity FROM infra.webhook_subscriptions WHERE active`. -/
def activeSubscriptions (s : Partners) : List (ℕ × String) :=
  (s.subscriptions.zipIdx.filter fun p => p.1.active).map fun p => (p.2, p.1.minSeverity)

inductive Event where
  | safety (e : Safety.Event)
  | createWebhookSubscription (url secret minSeverity : String)
  | deactivateWebhookSubscription (id : ℕ)
  | load (k : ℕ) (subs : List (ℕ × String))
  | next (k : ℕ)

/-- The fan-out at `k` goes on to its next subscription. -/
def advance (s : Partners) (k : ℕ) (f : Fanout) : List (ℕ × String) → Partners
  | [] => { s with fanouts := s.fanouts.eraseIdx k }
  | (id, minSeverity) :: rest =>
    { s with
      deliveries :=
        if rank f.severity < rank minSeverity then s.deliveries
        else s.deliveries ++ [⟨id, f.incident, f.event⟩]
      fanouts := s.fanouts.set k { f with rest := some rest } }

def step (s : Partners) : Event → Option Partners
  | .safety e =>
    (s.safety.step e).map fun t =>
      { s with safety := t, fanouts := s.fanouts ++ s.safety.fanouts e }
  | .createWebhookSubscription url secret minSeverity =>
    some { s with
      subscriptions :=
        (H2Fleet.Infra.createWebhookSubscription url secret minSeverity s.subscriptions).2 }
  | .deactivateWebhookSubscription id =>
    some { s with
      subscriptions := (H2Fleet.Infra.deactivateWebhookSubscription id s.subscriptions).2 }
  | .load k subs =>
    (s.fanouts[k]?).bind fun f =>
      if f.rest = none ∧ subs.Perm s.activeSubscriptions then
        some { s with fanouts := s.fanouts.set k { f with rest := some subs } }
      else none
  | .next k => (s.fanouts[k]?).bind fun f => f.rest.map fun rest => s.advance k f rest

/-! ## What a partner is promised -/

def Quiet (s : Partners) : Prop := s.safety.Quiet ∧ s.fanouts = []
  deriving Decidable

def Told (s : Partners) (j k : ℕ) : Prop := (⟨j, k, .incidentOpened⟩ : DeliveryRow) ∈ s.deliveries
  deriving Decidable

/-- **The promise to subscription `j`.** -/
structure SeesAll (j : ℕ) (minSeverity : String) (s : Partners) : Prop where
  /-- No resolution comes before the opening. -/
  order : ∀ n k : ℕ, s.deliveries[n]? = some ⟨j, k, .incidentResolved⟩ →
    ∃ m < n, s.deliveries[m]? = some ⟨j, k, .incidentOpened⟩
  /-- Every incident at the threshold was opened for the partner. -/
  told : s.Quiet → ∀ (k : ℕ) (i : Incident), s.safety.incidents[k]? = some i →
    rank minSeverity ≤ rank i.severity → s.Told j k

/-- A folded reading does not take an incident over the threshold, and the fan-out of the opening of
an incident that is resolved is over. -/
def TimelyCall (threshold : ℕ) (s : Partners) (now : ℤ) : SafetyCall → Prop
  | .folding r =>
    ∀ x ∈ s.safety.incidents, x.Folds now r → rank x.severity < threshold →
      rank r.effective < threshold
  | .resolving id => ∀ f ∈ s.fanouts, f.event = .incidentOpened → f.incident ≠ id
  | _ => True

instance (threshold : ℕ) (s : Partners) (now : ℤ) (c) :
    Decidable (TimelyCall threshold s now c) := by
  rcases c <;> dsimp only [TimelyCall] <;> infer_instance

/-- Nothing takes an incident over the threshold after it was opened, none is resolved while it is
being opened, and the subscription stays active. -/
def Timely (j : ℕ) (minSeverity : String) (s : Partners) : Event → Prop
  | .safety (.statement i now) =>
    ∀ c ∈ s.safety.calls[i]?, TimelyCall (rank minSeverity) s now c
  | .safety (.escalateIncident id) =>
    ∀ x ∈ s.safety.incidents[id]?, x.Active → rank x.severity + 1 ≠ rank minSeverity
  | .deactivateWebhookSubscription id => id ≠ j
  | _ => True

instance (j : ℕ) (minSeverity : String) (s : Partners) (e) :
    Decidable (Timely j minSeverity s e) := by
  unfold Timely; split <;> infer_instance

end Partners

/-! ## Who reaches a threshold -/

variable {id k : ℕ}

namespace Safety

variable {s t : Safety} {threshold : ℕ} {i' : Incident}

lemma getElem?_modify_cases {f : Incident → Incident} (h : (s.modify id f).incidents[k]? = some i')
    : ∃ i, s.incidents[k]? = some i ∧ (i' = i ∨ (k = id ∧ i' = f i)) := by
  simp only [modify, List.getElem?_modify] at h
  obtain ⟨i, hi, heq⟩ := Option.map_eq_some_iff.mp h
  refine ⟨i, hi, ?_⟩
  split_ifs at heq with hid
  · exact .inr ⟨hid.symm, heq.symm⟩
  · exact .inl heq.symm

lemma above_of_fold {now : ℤ} {r : Reading} (hs : s.Sound)
    (hok : ∀ x ∈ s.incidents, x.Folds now r → rank x.severity < threshold →
      rank r.effective < threshold) (h : (s.incidents.map (Incident.fold now r))[k]? = some i')
    (habove : threshold ≤ rank i'.severity) :
    ∃ i, s.incidents[k]? = some i ∧ threshold ≤ rank i.severity := by
  rw [List.getElem?_map] at h
  obtain ⟨i, hi, rfl⟩ := Option.map_eq_some_iff.mp h
  have hmem := List.mem_of_getElem? hi
  refine ⟨i, hi, ?_⟩
  by_contra hbelow
  have hlt : rank i.severity < threshold := not_le.mp hbelow
  simp only [Incident.fold] at habove
  split_ifs at habove with hfolds
  · rw [rank_raiseSeverity (hs.incidents i hmem).1 r.effective_mem] at habove
    have hreading := hok i hmem hfolds hlt
    omega
  · exact hbelow habove

variable {e : Event}

/-- **Who is at the threshold was there before, or was just inserted.** -/
lemma above_of_step (hs : s.Sound) (hstep : step s e = some t)
    (hfold : ∀ i now r, e = .statement i now → s.calls[i]? = some (.folding r) →
      ∀ x ∈ s.incidents, x.Folds now r → rank x.severity < threshold → rank r.effective < threshold)
    (hescalate : ∀ id, e = .escalateIncident id →
      ∀ x ∈ s.incidents[id]?, x.Active → rank x.severity + 1 ≠ threshold)
    (hk : t.incidents[k]? = some i') (habove : threshold ≤ rank i'.severity) :
    (∃ i, s.incidents[k]? = some i ∧ threshold ≤ rank i.severity) ∨
      ⟨k, i'.severity, .incidentOpened, none⟩ ∈ s.fanouts e := by
  have hstatus : ∀ {id : ℕ} {f : Incident → Incident}, (∀ i, ∃ st, f i = { i with status := st }) →
      t.incidents = (s.modify id f).incidents →
      ∃ i, s.incidents[k]? = some i ∧ threshold ≤ rank i.severity := by
    intro id f hf heq
    rw [heq] at hk
    obtain ⟨i, hi, rfl | ⟨-, rfl⟩⟩ := getElem?_modify_cases hk
    · exact ⟨_, hi, habove⟩
    · obtain ⟨st, hst⟩ := hf i
      exact ⟨i, hi, by rwa [hst] at habove⟩
  have hsame : t.incidents = s.incidents → ∃ i, s.incidents[k]? = some i ∧
    threshold ≤ rank i.severity :=
    fun heq => ⟨i', heq ▸ hk, habove⟩
  cases e with
  | start r =>
    rw [← Option.some.inj hstep] at hsame
    exact .inl (hsame rfl)
  | statement i now =>
    obtain ⟨c, hc, hstmt⟩ := Option.bind_eq_some_iff.mp hstep
    cases c with
    | opening x reply =>
      simp only [statement] at hstmt
      split_ifs at hstmt with href <;> cases hstmt
      · rcases getElem?_append_cases hk with ⟨rfl, rfl⟩ | hold
        · right
          simp [fanouts, hc, href]
        · exact .inl ⟨i', hold, habove⟩
      · exact .inl (hsame rfl)
    | folding r =>
      left
      simp only [statement] at hstmt
      split_ifs at hstmt <;> cases hstmt
      · exact above_of_fold hs (hfold i now r rfl hc) hk habove
      · exact hsame rfl
    | opened severity stationID reply =>
      cases hstmt
      exact .inl (hsame (by simp))
    | resolving id =>
      left
      simp only [statement] at hstmt
      cases hx : s.incidents[id]? with
      | none =>
        rw [hx] at hstmt
        cases hstmt
        exact hsame rfl
      | some x =>
        simp only [hx] at hstmt
        split_ifs at hstmt <;> cases hstmt
        · exact hstatus Incident.resolve_status rfl
        · exact hsame rfl
    | restoring | restorable =>
      cases hstmt
      exact .inl (hsame rfl)
    | done r => cases hstmt
  | ackIncident id =>
    cases hstep
    exact .inl (hstatus Incident.acknowledge_status rfl)
  | setIncidentInProgress id =>
    cases hstep
    exact .inl (hstatus Incident.setInProgress_status rfl)
  | escalateIncident id =>
    cases hstep
    -- one step of the ladder that does not end at the threshold takes no incident over it
    obtain ⟨i, hi, rfl | ⟨rfl, rfl⟩⟩ := getElem?_modify_cases hk
    · exact .inl ⟨_, hi, habove⟩
    · refine .inl ⟨i, hi, ?_⟩
      simp only [Incident.escalate] at habove
      split_ifs at habove with hactive
      · have hrank := rank_escalateSeverity_le i.severity
        have hne := hescalate _ rfl i hi hactive
        simp only at habove
        omega
      · exact habove
  | markIncidentResolved id =>
    cases hstep
    exact .inl (hstatus Incident.resolve_status rfl)
  | updateStationStatus station status =>
    cases hstep
    exact .inl (hsame (by simp))

lemma resolved_of_fanouts {f : Fanout} (hf : f ∈ s.fanouts e) (hevent : f.event = .incidentResolved)
    : ∃ i now x, e = .statement i now ∧ s.calls[i]? = some (.resolving f.incident) ∧
      s.incidents[f.incident]? = some x ∧ x.severity = f.severity := by
  cases e with
  | statement i now =>
    simp only [fanouts] at hf
    split at hf
    · split_ifs at hf
      · rw [List.mem_singleton.mp hf] at hevent
        cases hevent
      · cases hf
    · next id hc =>
        split at hf
        · next x hx =>
            split_ifs at hf
            · obtain rfl := List.mem_singleton.mp hf
              exact ⟨i, now, x, rfl, hc, hx, rfl⟩
            · cases hf
        · cases hf
    · cases hf
  | _ => cases hf

lemma rest_of_fanouts {f : Fanout} (hf : f ∈ s.fanouts e) : f.rest = none := by
  cases e with
  | statement i now =>
    simp only [fanouts] at hf
    split at hf
    · split_ifs at hf
      · rw [List.mem_singleton.mp hf]
      · cases hf
    · split at hf
      · split_ifs at hf
        · rw [List.mem_singleton.mp hf]
        · cases hf
      · cases hf
    · cases hf
  | _ => cases hf

end Safety

/-! ## What is on its way to a partner -/

/-- The fan-out is going to open incident `k` for subscription `j`. -/
def Fanout.Owes (f : Fanout) (j k : ℕ) (minSeverity : String) : Prop :=
  f.incident = k ∧ f.event = .incidentOpened ∧ rank minSeverity ≤ rank f.severity ∧
    ∀ rest ∈ f.rest, (j, minSeverity) ∈ rest

namespace Partners

open List Option

/-- **What holds of a subscription between the steps.** -/
structure Informed (j : ℕ) (minSeverity : String) (s : Partners) : Prop where
  sound : s.safety.Sound
  subscribed : ∃ sub, s.subscriptions[j]? = some sub ∧ sub.minSeverity = minSeverity ∧
    sub.active = true
  entries : ∀ f ∈ s.fanouts, ∀ rest ∈ f.rest, ∀ m, (j, m) ∈ rest → m = minSeverity
  told : ∀ (k : ℕ) (i : Incident), s.safety.incidents[k]? = some i →
    rank minSeverity ≤ rank i.severity → s.Told j k ∨ ∃ f ∈ s.fanouts, f.Owes j k minSeverity
  resolving : ∀ f ∈ s.fanouts, f.event = .incidentResolved →
    rank minSeverity ≤ rank f.severity → s.Told j f.incident
  order : ∀ n k : ℕ, s.deliveries[n]? = some ⟨j, k, .incidentResolved⟩ →
    ∃ m < n, s.deliveries[m]? = some ⟨j, k, .incidentOpened⟩

variable {j : ℕ} {minSeverity : String} {s t : Partners}

lemma mem_activeSubscriptions {m : String} : (j, m) ∈ s.activeSubscriptions ↔
      ∃ sub, s.subscriptions[j]? = some sub ∧ sub.minSeverity = m ∧ sub.active = true := by
  simp only [activeSubscriptions, List.mem_map, mem_filter, Prod.mk.injEq, Prod.exists,
    mem_zipIdx_iff_getElem?]
  constructor
  · rintro ⟨sub, k, ⟨hk, hactive⟩, rfl, rfl⟩
    exact ⟨sub, hk, rfl, hactive⟩
  · rintro ⟨sub, hj, rfl, hactive⟩
    exact ⟨sub, j, ⟨hj, hactive⟩, rfl, rfl⟩

section Informed

variable (hs : Informed j minSeverity s)
include hs

lemma Informed.safety {e : Safety.Event} (hok : Timely j minSeverity s (.safety e)) {u : Safety}
    (hu : s.safety.step e = some u) :
    Informed j minSeverity { s with safety := u, fanouts := s.fanouts ++ s.safety.fanouts e } := by
  refine ⟨(Safety.step_grows hs.sound hu).2, hs.subscribed, fun f hf rest hrest => ?_,
    fun k i hk habove => ?_, fun f hf hevent habove => ?_, hs.order⟩
  · rcases mem_append.mp hf with hf | hf
    · exact hs.entries f hf rest hrest
    · rw [Safety.rest_of_fanouts hf] at hrest
      cases hrest
  · have hfold : ∀ i now r, e = .statement i now → s.safety.calls[i]? = some (.folding r) →
        ∀ x ∈ s.safety.incidents, x.Folds now r → rank x.severity < rank minSeverity →
          rank r.effective < rank minSeverity := by
      rintro i now r rfl hc
      exact hok _ hc
    have hescalate : ∀ id, e = .escalateIncident id → ∀ x ∈ s.safety.incidents[id]?, x.Active →
        rank x.severity + 1 ≠ rank minSeverity := by
      rintro id rfl
      exact hok
    rcases Safety.above_of_step hs.sound hu hfold hescalate hk habove with ⟨x, hx, hold⟩ | hnew
    · refine (hs.told k x hx hold).imp_right ?_
      rintro ⟨f, hf, howes⟩
      exact ⟨f, mem_append_left _ hf, howes⟩
    · exact .inr ⟨_, mem_append_right _ hnew, rfl, rfl, habove, nofun⟩
  · rcases mem_append.mp hf with hf | hf
    · exact hs.resolving f hf hevent habove
    · -- the incident was at the threshold, and its opening is not on its way any more
      obtain ⟨i, now, x, rfl, hc, hx, hsev⟩ := Safety.resolved_of_fanouts hf hevent
      rcases hs.told f.incident x hx (by rwa [hsev]) with htold | ⟨g, hg, hincident, hopened, -⟩
      · exact htold
      · exact absurd hincident (hok _ hc g hg hopened)

lemma Informed.subscribe (url secret severity : String) :
    Informed j minSeverity { s with
      subscriptions := (createWebhookSubscription url secret severity s.subscriptions).2 } := by
  refine { hs with subscribed := ?_ }
  obtain ⟨sub, hj, hrest⟩ := hs.subscribed
  refine ⟨sub, ?_, hrest⟩
  simp only [createWebhookSubscription]
  split_ifs <;> first | exact hj | exact getElem?_append_old hj

lemma Informed.deactivate (hid : id ≠ j) :
    Informed j minSeverity { s with
      subscriptions := (deactivateWebhookSubscription id s.subscriptions).2 } := by
  refine { hs with subscribed := ?_ }
  obtain ⟨sub, hj, hrest⟩ := hs.subscribed
  exact ⟨sub, by simp [deactivateWebhookSubscription, hid, hj], hrest⟩

variable {f : Fanout}

lemma Informed.load (hf : s.fanouts[k]? = some f) {subs : List (ℕ × String)}
    (hsubs : subs.Perm s.activeSubscriptions) :
    Informed j minSeverity { s with fanouts := s.fanouts.set k { f with rest := some subs } } := by
  have hmine : (j, minSeverity) ∈ subs :=
    hsubs.mem_iff.mpr (mem_activeSubscriptions.mpr hs.subscribed)
  refine ⟨hs.sound, hs.subscribed, fun g hg rest hrest m hm => ?_, fun k' i hk' habove => ?_,
    forall_mem_set hs.resolving (hs.resolving f (mem_of_getElem? hf)), hs.order⟩
  · rcases mem_set_cases hg with rfl | hg
    · cases hrest
      obtain ⟨sub, hsub, rfl, -⟩ := mem_activeSubscriptions.mp (hsubs.mem_iff.mp hm)
      obtain ⟨sub', hsub', hmin, -⟩ := hs.subscribed
      rw [hsub, some.injEq] at hsub'
      rw [hsub', hmin]
    · exact hs.entries g hg rest hrest m hm
  · refine (hs.told k' i hk' habove).imp_right (exists_mem_set hf ?_)
    rintro ⟨hincident, hevent, hsev, -⟩
    exact ⟨hincident, hevent, hsev, fun rest hrest => some.inj hrest ▸ hmine⟩

lemma Informed.returned (hf : s.fanouts[k]? = some f) (hrest : f.rest = some []) :
    Informed j minSeverity { s with fanouts := s.fanouts.eraseIdx k } := by
  refine ⟨hs.sound, hs.subscribed, fun g hg => hs.entries g (mem_of_mem_eraseIdx hg),
    fun k' i hk' habove => ?_, fun g hg => hs.resolving g (mem_of_mem_eraseIdx hg), hs.order⟩
  refine (hs.told k' i hk' habove).imp_right ?_
  rintro ⟨g, hg, howes⟩
  obtain ⟨hk, rfl⟩ := List.getElem?_eq_some_iff.mp hf
  rcases mem_cons.mp ((getElem_cons_eraseIdx_perm hk).mem_iff.mpr hg) with rfl | hg
  · cases howes.2.2.2 [] hrest
  · exact ⟨g, hg, howes⟩

lemma Informed.recorded {m : String} {rest : List (ℕ × String)} (hf : s.fanouts[k]? = some f)
    (hrest : f.rest = some ((id, m) :: rest)) :
    Informed j minSeverity (s.advance k f ((id, m) :: rest)) := by
  have hmem := mem_of_getElem? hf
  have hentry : id = j → m = minSeverity := by
    rintro rfl
    exact hs.entries f hmem _ hrest m mem_cons_self
  have hdeliveries : (s.advance k f ((id, m) :: rest)).deliveries =
      if rank f.severity < rank m then s.deliveries
      else s.deliveries ++ [⟨id, f.incident, f.event⟩] := rfl
  have hkeep : ∀ k', s.Told j k' → (s.advance k f ((id, m) :: rest)).Told j k' := by
    intro k' htold
    rw [Told, hdeliveries]
    split_ifs
    · exact htold
    · exact mem_append_left _ htold
  refine ⟨hs.sound, hs.subscribed, fun g hg rest' hrest' m' hm' => ?_, fun k' i hk' habove => ?_,
    fun g hg hevent habove => hkeep _ ?_, fun n k' hn => ?_⟩
  · rcases mem_set_cases hg with rfl | hg
    · cases hrest'
      exact hs.entries f hmem _ hrest m' (mem_cons_of_mem _ hm')
    · exact hs.entries g hg rest' hrest' m' hm'
  · rcases hs.told k' i hk' habove with htold | howes
    · exact .inl (hkeep k' htold)
    · by_cases hhead : f.Owes j k' minSeverity ∧ id = j
      · -- the fan-out has come to the subscription, and the incident is at its threshold
        obtain ⟨⟨rfl, hevent, hsev, -⟩, rfl⟩ := hhead
        have hnot : ¬ rank f.severity < rank m := by
          rw [hentry rfl]
          exact not_lt.mpr hsev
        left
        rw [Told, hdeliveries, if_neg hnot, hevent]
        exact mem_append_right _ (mem_singleton_self _)
      · refine .inr (exists_mem_set hf ?_ howes)
        rintro ⟨hincident, hevent, hsev, howed⟩
        refine ⟨hincident, hevent, hsev, fun rest' hrest' => ?_⟩
        cases hrest'
        rcases mem_cons.mp (howed _ hrest) with heq | hin
        · exact absurd ⟨⟨hincident, hevent, hsev, howed⟩, (Prod.mk.inj heq).1.symm⟩ hhead
        · exact hin
  · rcases mem_set_cases hg with rfl | hg
    · exact hs.resolving f hmem hevent habove
    · exact hs.resolving g hg hevent habove
  · rw [hdeliveries] at hn ⊢
    split_ifs at hn ⊢ with hbelow
    · exact hs.order n k' hn
    · rcases getElem?_append_cases hn with ⟨rfl, hrow⟩ | hold
      · -- a resolution is recorded: the opening was recorded before the fan-out began
        obtain ⟨rfl, rfl, hevent⟩ := DeliveryRow.mk.inj hrow
        rw [hentry rfl, not_lt] at hbelow
        obtain ⟨n, hn⟩ := mem_iff_getElem?.mp (hs.resolving f hmem hevent.symm hbelow)
        exact ⟨n, (List.getElem?_eq_some_iff.mp hn).1, getElem?_append_old hn⟩
      · obtain ⟨n', hlt, hn'⟩ := hs.order n k' hold
        exact ⟨n', hlt, getElem?_append_old hn'⟩

lemma Informed.step {e : Event} (hok : Timely j minSeverity s e) (h : Partners.step s e = some t) :
    Informed j minSeverity t := by
  cases e with
  | safety e =>
    obtain ⟨u, hu, rfl⟩ := map_eq_some_iff.mp h
    exact hs.safety hok hu
  | createWebhookSubscription url secret severity =>
    cases h
    exact hs.subscribe url secret severity
  | deactivateWebhookSubscription id =>
    cases h
    exact hs.deactivate hok
  | load k subs =>
    obtain ⟨f, hf, hload⟩ := bind_eq_some_iff.mp h
    split_ifs at hload with hcond
    cases hload
    exact hs.load hf hcond.2
  | next k =>
    obtain ⟨f, hf, hnext⟩ := bind_eq_some_iff.mp h
    obtain ⟨rest, hrest, rfl⟩ := map_eq_some_iff.mp hnext
    cases rest with
    | nil => exact hs.returned hf hrest
    | cons entry rest => exact hs.recorded hf hrest

lemma Informed.seesAll : SeesAll j minSeverity s := by
  refine ⟨hs.order, fun hquiet k i hk habove => ?_⟩
  rcases hs.told k i hk habove with htold | ⟨f, hf, -⟩
  · exact htold
  · rw [hquiet.2] at hf
    cases hf

end Informed

/-- **What a partner sees.**  In any timely run from a state without incidents each
`incident.resolved` row comes after the `incident.opened` row for the same incident, and when no
handler is in flight every incident at or above `min_severity` has its `incident.opened` row. -/
theorem partner_sees_incident {stations : List StationState} {subs : List Subscription} {j : ℕ}
    {sub : Subscription} (hj : subs[j]? = some sub) (hactive : sub.active = true) {es : List Event}
    (hok : Meets step (Timely j sub.minSeverity) (init stations subs) es) :
    Throughout step (SeesAll j sub.minSeverity) (init stations subs) es :=
  Meets.throughout (fun s (hs : Informed j sub.minSeverity s) => hs.seesAll)
    (fun _ _ _ hs hok hstep => hs.step hok hstep)
    ⟨Safety.sound_init stations, ⟨sub, hj, rfl, hactive⟩, nofun, nofun, nofun, nofun⟩ hok

/-- A dashboard that wants to hear of incidents from `high` on. -/
def dashboard : Subscription := ⟨"cad-hook", "s3cret", "high", true⟩

def oneStation : List StationState := [⟨"depot", "online"⟩]

def collision : List Event := [
  .safety (.start (.openIncident "collision" "high" (some "depot") none)), .safety (.statement 0 0),
  .safety (.statement 0 0), .load 0 [(0, "high")], .next 0, .next 0,
  .safety (.start (.resolveIncident 0)), .safety (.statement 1 1), .safety (.statement 1 1),
  .load 0 [(0, "high")], .next 0, .next 0]

theorem partner_sees_collision :
    ∃ t, run step (init oneStation [dashboard]) collision = some t ∧ t.Quiet ∧
      t.deliveries = [⟨0, 0, .incidentOpened⟩, ⟨0, 0, .incidentResolved⟩] ∧
      Throughout step (SeesAll 0 "high") (init oneStation [dashboard]) collision := by
  obtain ⟨t, ht, hquiet, hrows⟩ :
      ∃ t, run step (init oneStation [dashboard]) collision = some t ∧ t.Quiet ∧
        t.deliveries = [⟨0, 0, .incidentOpened⟩, ⟨0, 0, .incidentResolved⟩] := by decide +kernel
  have hok : Meets step (Timely 0 "high") (init oneStation [dashboard]) collision := by
    decide +kernel
  have hj : [dashboard][0]? = some dashboard := rfl
  exact ⟨t, ht, hquiet, hrows, partner_sees_incident hj rfl hok⟩

/-- A trace of hydrogen, then a strong reading folded into the incident. -/
def risingLeak : List Event := [.safety (.start (.ingestLeak Safety.traceReading)),
  .safety (.statement 0 0), .safety (.statement 0 0), .safety (.statement 0 0),
  .load 0 [(0, "high")], .next 0, .next 0, .safety (.start (.ingestLeak Safety.strongReading)),
  .safety (.statement 1 60000000)]

def riskOver : List Event := [.safety (.start (.resolveIncident 0)),
  .safety (.statement 2 120000000), .safety (.statement 2 120000000), .load 0 [(0, "high")],
  .next 0, .next 0]

/-- **A leak that the dashboard never saw** opened is resolved. -/
theorem leak_never_opened :
    ((run step (init oneStation [dashboard]) risingLeak).map fun t => (decide t.Quiet,
        t.safety.incidents.map Incident.severity, t.deliveries)) = some (true, ["high"], []) ∧
      ((run step (init oneStation [dashboard]) (risingLeak ++ riskOver)).map fun t =>
        t.deliveries) =
        some [⟨0, 0, .incidentResolved⟩] := by
  decide +kernel

end Partners

end H2Fleet.Infra
