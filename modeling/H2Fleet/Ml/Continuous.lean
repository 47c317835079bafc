import H2Fleet.Core.Run
import Mathlib.Data.String.Basic
import Mathlib.Data.Rat.Defs
import Mathlib.Algebra.Order.Ring.Rat
import Mathlib.Tactic

/-!
# Continuous training

`iterate` of `training/continuous.py` and `resolve_version` of `app/registry.py`: a candidate is
trained for each model of a list, compared with the champion, and promoted if it is better.  The
artifacts are saved one by one, the registry is written at the end, and serving asks
`resolve_version` at any time.

**Two ways to a champion.**  `resolve_version` returns the registered champion, and without one the
newest directory on disk.  `iterate` resolves the champion before it trains, because the candidate
on disk would otherwise be taken for it; so it is by everyone else.  A model without a registered
champion is served by the candidate from the moment it is saved, whether it is better or not.

**Metrics.**  A `metrics.json` holds numbers by name.  `measured` is what `_better` compares.
-/

namespace H2Fleet.Ml

open List Option Function

/-- `MODEL_NAMES`. -/
inductive Model where
  | maintenanceLstm
  | demandForecaster
  | leakAutoencoder
  | evThermalAutoencoder
  | fleetGcn
  | carbonForecaster
  deriving DecidableEq

/-- The numbers of a `metrics.json`, by name. -/
abbrev Metrics := List (String × ℚ)

structure Goal where
  metric : String
  lowerIsBetter : Bool

def Goal.Beats (g : Goal) (new old : ℚ) : Prop := if g.lowerIsBetter then new < old else old < new
  deriving Decidable

/-- The primary metric in a file, under its own name or as `primary_value`. -/
def Goal.measured (g : Goal) (m : Metrics) : Option ℚ :=
  match m.lookup g.metric with
  | some old => some old
  | none => m.lookup "primary_value"

/-- The result of `run_one`: a version, and metrics that agree on the primary value. -/
structure Candidate (g : Goal) where
  version : String
  value : ℚ
  others : Metrics
  nonblank : version ≠ ""
  agrees : ∀ x, others.lookup g.metric = some x → x = value

def Candidate.metrics {g : Goal} (c : Candidate g) : Metrics :=
  ("primary_value", c.value) :: c.others

lemma Candidate.measured_metrics {g : Goal} (c : Candidate g) :
    g.measured c.metrics = some c.value := by
  rw [Goal.measured, Candidate.metrics, lookup_cons, lookup_cons]
  by_cases hname : g.metric == "primary_value"
  · simp [hname]
  · simp only [hname]
    cases hother : c.others.lookup g.metric with
    | some x => rw [c.agrees x hother]
    | none => simp

def better {g : Goal} (c : Candidate g) (championMetrics : Option Metrics) : Bool :=
  match championMetrics with
  | none => true
  | some [] => true
  | some m =>
    match g.measured m with
    | none => true
    | some old => if g.lowerIsBetter then c.value < old else c.value > old

lemma better_iff {g : Goal} (c : Candidate g) (m : Option Metrics) :
    better c m = true ↔ ∀ old, m.bind g.measured = some old → g.Beats c.value old := by
  unfold better
  split
  · simp
  · simp [Goal.measured]
  · rename_i m hne
    rw [bind_some]
    cases hold : g.measured m with
    | none => simp
    | some old => simp [Goal.Beats]

/-! ## Registry and artifacts -/

structure Registry where
  champion : Model → Option String
  challenger : Model → Option String

inductive Role where
  | champion
  | challenger

/-- The directories with their `metrics.json`; `registry.json`; the registry of a running `iterate`;
the candidates so far. -/
structure State where
  disk : Model → List (String × Option Metrics)
  registry : Registry
  training : Option Registry
  trained : List (Model × String)

open State

/-- `version or …`: an empty text counts as none. -/
def truthy (version : Option String) : Option String := version.filter fun v => v ≠ ""

variable (s : State)

/-- `versions[-1]` of the sorted directory names. -/
def State.newest (m : Model) : Option String := ((s.disk m).map Prod.fst).max?

def State.resolveVersion (m : Model) (role : Role) : Option String :=
  let version := match role with
    | .champion => truthy (s.registry.champion m)
    | .challenger => (truthy (s.registry.challenger m)).or (truthy (s.registry.champion m))
  match version with
  | some v => some v
  | none => s.newest m

def State.metricsOf (m : Model) (v : String) : Option Metrics :=
  ((s.disk m).lookup v).join

def State.championMetrics (m : Model) : Option Metrics :=
  match truthy (s.resolveVersion m .champion) with
  | none => none
  | some v => s.metricsOf m v

/-! ## Training -/

section Training

variable (goal : Model → Goal)

/-- `iterate` reads the registry, trains one model after another, and writes the registry; an
exception ends it before. -/
inductive Event where
  | begin
  | train (m : Model) (c : Candidate (goal m))
  | finish
  | abort

def Registry.decided (r : Registry) (m : Model) (version : String) (promoted : Bool) : Registry :=
  if promoted then
    { champion := update r.champion m (some version)
      challenger := update r.challenger m none }
  else { r with challenger := update r.challenger m (some version) }

/-- One step.  A candidate's version is greater than those on disk. -/
def State.step (s : State) : Event goal → Option State
  | .begin =>
    match s.training with
    | none => some { s with training := some s.registry }
    | some _ => none
  | .train m c =>
    match s.training with
    | none => none
    | some r =>
      if ∀ e ∈ s.disk m, e.1 < c.version then
        some { s with
            disk := update s.disk m (s.disk m ++ [(c.version, some c.metrics)])
            training := some (r.decided m c.version (better c (s.championMetrics m)))
            trained := s.trained ++ [(m, c.version)] }
      else none
  | .finish =>
    match s.training with
    | none => none
    | some r => some { s with registry := r, training := none }
  | .abort => some { s with training := none }

/-- The primary metric of a version on disk. -/
def State.metricAt (s : State) (m : Model) (v : String) : Option ℚ :=
  (s.metricsOf m v).bind (goal m).measured

def State.servedMetric (s : State) (m : Model) : Option ℚ :=
  (s.championMetrics m).bind (goal m).measured

/-- **What is served changes only for the better**: to a candidate with a strictly better metric,
unless there was none. -/
def NeverWorse (s s' : State) : Prop :=
  ∀ m, s'.resolveVersion m .champion ≠ s.resolveVersion m .champion → s.servedMetric goal m = none ∨
      ∃ v new old, s'.resolveVersion m .champion = some v ∧ (m, v) ∈ s'.trained ∧
        s'.servedMetric goal m = some new ∧ s.servedMetric goal m = some old ∧
        (goal m).Beats new old

def State.Registered (s : State) (m : Model) : Prop := truthy (s.registry.champion m) ≠ none
  deriving Decidable

def State.Guarded (s : State) : Event goal → Prop
  | .train m c => s.Registered m ∨ ∀ old, s.servedMetric goal m = some old →
      (goal m).Beats c.value old
  | _ => True

instance decidableGuarded (s : State) : ∀ e : Event goal, Decidable (s.Guarded goal e)
  | .train m c =>
    have := decidable_of_iff (∀ old ∈ s.servedMetric goal m, (goal m).Beats c.value old) Iff.rfl
    inferInstanceAs (Decidable (s.Registered m ∨
      ∀ old, s.servedMetric goal m = some old → (goal m).Beats c.value old))
  | .begin | .finish | .abort => inferInstanceAs (Decidable True)

end Training

/-! ## What a step changes -/

variable {v w : String}

section Frames

variable {goal : Model → Goal} {s s' : State} {m : Model}

lemma resolveVersion_champion (s : State) (m : Model) :
    s.resolveVersion m .champion = (truthy (s.registry.champion m)).or (s.newest m) := by
  rw [resolveVersion]
  cases truthy (s.registry.champion m) <;> rfl

lemma resolveVersion_congr (hdisk : s'.disk m = s.disk m)
    (hreg : s'.registry.champion m = s.registry.champion m) :
    s'.resolveVersion m .champion = s.resolveVersion m .champion := by
  rw [resolveVersion_champion, resolveVersion_champion, newest, newest, hdisk, hreg]

lemma servedMetric_congr (hdisk : s'.disk m = s.disk m)
    (hreg : s'.registry.champion m = s.registry.champion m) :
    s'.servedMetric goal m = s.servedMetric goal m := by
  simp [servedMetric, championMetrics, resolveVersion_congr hdisk hreg, metricsOf, hdisk]

lemma resolveVersion_of_registered (h : s.Registered m) :
    s.resolveVersion m .champion = truthy (s.registry.champion m) := by
  rw [resolveVersion_champion]
  exact or_of_isSome (isSome_iff_ne_none.mpr h)

lemma truthy_eq_some {o : Option String} : truthy o = some v ↔ o = some v ∧ v ≠ "" := by
  simp [truthy, filter_eq_some_iff]

lemma State.Registered.exists_version (h : s.Registered m) :
    ∃ v, s.resolveVersion m .champion = some v ∧ v ≠ "" := by
  obtain ⟨v, hv⟩ := ne_none_iff_exists'.mp h
  exact ⟨v, (resolveVersion_of_registered h).trans hv, (truthy_eq_some.mp hv).2⟩

lemma servedMetric_of_resolve (hv : s.resolveVersion m .champion = some v) (hne : v ≠ "") :
    s.servedMetric goal m = s.metricAt goal m v := by
  have htruthy := truthy_eq_some.mpr ⟨hv, hne⟩
  simp only [servedMetric, championMetrics, metricAt, htruthy]

lemma step_train {c : Candidate (goal m)} (hs : s.step goal (.train m c) = some s') :
    ∃ r, s.training = some r ∧ (∀ e ∈ s.disk m, e.1 < c.version) ∧
      s'.disk = update s.disk m (s.disk m ++ [(c.version, some c.metrics)]) ∧
      s'.registry = s.registry ∧
      s'.training = some (r.decided m c.version (better c (s.championMetrics m))) ∧
      s'.trained = s.trained ++ [(m, c.version)] := by
  cases hr : s.training with
  | none => simp [step, hr] at hs
  | some r =>
    simp only [step, hr] at hs
    split at hs
    · rename_i hfresh
      cases hs
      exact ⟨r, rfl, hfresh, rfl, rfl, rfl, rfl⟩
    · cases hs

section Saved

variable {v : String} {file : Metrics}
  (hdisk : s'.disk = update s.disk m (s.disk m ++ [(v, some file)]))
  (hfresh : ∀ e ∈ s.disk m, e.1 < v)

include hdisk hfresh

lemma newest_saved : s'.newest m = some v := by
  rw [newest, hdisk, update_self, max?_eq_some_iff]
  refine ⟨by simp, fun w hw => ?_⟩
  rw [map_append, mem_append] at hw
  rcases hw with hw | hw
  · obtain ⟨e, he, rfl⟩ := mem_map.mp hw
    exact (hfresh e he).le
  · exact (mem_singleton.mp hw).le

omit hdisk in
lemma lookup_fresh : (s.disk m).lookup v = none := by
  rw [lookup_eq_none_iff]
  intro e he
  simpa using (hfresh e he).ne'

lemma metricsOf_saved : s'.metricsOf m v = some file := by
  rw [metricsOf, hdisk, update_self, lookup_append, lookup_fresh hfresh]
  simp

omit hfresh in
lemma metricsOf_other (hw : w ≠ v) : s'.metricsOf m w = s.metricsOf m w := by
  have hnone : [(v, some file)].lookup w = none := by
    rw [lookup_cons, beq_eq_false_iff_ne.mpr hw]
    rfl
  rw [metricsOf, metricsOf, hdisk, update_self, lookup_append, hnone, or_none]

omit hfresh in
lemma metricAt_other (hw : w ≠ v) : s'.metricAt goal m w = s.metricAt goal m w := by
  rw [metricAt, metricAt, metricsOf_other hdisk hw]

omit hdisk in
lemma ne_of_metricAt {x : ℚ} (hw : s.metricAt goal m w = some x) : w ≠ v := by
  rintro rfl
  rw [metricAt, metricsOf, lookup_fresh hfresh] at hw
  cases hw

end Saved

end Frames

/-! ## The registry in memory -/

section Pending

variable {goal : Model → Goal} {s s' : State} {m : Model}

/-- A champion not yet written is a candidate, and is served, or has beaten the registered one. -/
structure State.Promoted (goal : Model → Goal) (s : State) (m : Model) (v : String) : Prop where
  nonblank : v ≠ ""
  trained : (m, v) ∈ s.trained
  measured : ∃ new, s.metricAt goal m v = some new
  ahead : s.resolveVersion m .champion = some v ∨
    s.Registered m ∧ ∀ old new, s.servedMetric goal m = some old → s.metricAt goal m v = some new →
      (goal m).Beats new old

/-- The registry that `iterate` holds has what is on disk, or such a champion. -/
def State.Sound (goal : Model → Goal) (s : State) : Prop :=
  ∀ r, s.training = some r → ∀ m, r.champion m = s.registry.champion m ∨
    ∃ v, r.champion m = some v ∧ s.Promoted goal m v

lemma State.Promoted.congr (h : s.Promoted goal m v) (hdisk : s'.disk m = s.disk m)
    (hreg : s'.registry = s.registry) (htrained : s.trained ⊆ s'.trained) :
    s'.Promoted goal m v := by
  have hchampion : s'.registry.champion m = s.registry.champion m := by rw [hreg]
  refine ⟨h.nonblank, htrained h.trained, ?_, ?_⟩
  · rw [metricAt, metricsOf, hdisk]
    exact h.measured
  · rw [resolveVersion_congr hdisk hchampion, servedMetric_congr hdisk hchampion, Registered,
      hchampion, metricAt, metricsOf, hdisk]
    exact h.ahead

variable {c : Candidate (goal m)}

lemma resolveVersion_train (hs : s.step goal (.train m c) = some s') :
    s'.resolveVersion m .champion =
      if s.Registered m then s.resolveVersion m .champion else some c.version := by
  obtain ⟨r, -, hfresh, hdisk, hreg, -, -⟩ := step_train hs
  split_ifs with hregistered
  · have hregistered' : s'.Registered m := by rwa [Registered, hreg]
    rw [resolveVersion_of_registered hregistered, resolveVersion_of_registered hregistered', hreg]
  · have hregistered' : ¬ s'.Registered m := by rwa [Registered, hreg]
    rw [resolveVersion_champion, not_not.mp hregistered', none_or, newest_saved hdisk hfresh]

lemma metricAt_candidate (hs : s.step goal (.train m c) = some s') :
    s'.metricAt goal m c.version = some c.value := by
  obtain ⟨r, -, hfresh, hdisk, -, -, -⟩ := step_train hs
  rw [metricAt, metricsOf_saved hdisk hfresh, bind_some, c.measured_metrics]

lemma servedMetric_train (hs : s.step goal (.train m c) = some s') (hregistered : s.Registered m)
    (hv : s.resolveVersion m .champion = some v) (hblank : v ≠ "") (hne : v ≠ c.version) :
    s'.servedMetric goal m = s.servedMetric goal m := by
  obtain ⟨r, -, -, hdisk, -, -, -⟩ := step_train hs
  have hv' : s'.resolveVersion m .champion = some v := by
    rw [resolveVersion_train hs, if_pos hregistered, hv]
  rw [servedMetric_of_resolve hv hblank, servedMetric_of_resolve hv' hblank,
    metricAt_other hdisk hne]

lemma promoted_candidate (hs : s.step goal (.train m c) = some s')
    (hbetter : better c (s.championMetrics m) = true) : s'.Promoted goal m c.version := by
  obtain ⟨r, -, -, -, hreg, -, htrained⟩ := step_train hs
  refine ⟨c.nonblank, ?_, ⟨_, metricAt_candidate hs⟩, ?_⟩
  · rw [htrained]
    exact mem_append_right _ (mem_singleton.mpr rfl)
  · rw [resolveVersion_train hs]
    split_ifs with hregistered
    · obtain ⟨v, hv, hblank⟩ := hregistered.exists_version
      by_cases hne : v = c.version
      · exact .inl (hne ▸ hv)
      · refine .inr ⟨by rwa [Registered, hreg], fun old new hold hnew => ?_⟩
        rw [servedMetric_train hs hregistered hv hblank hne] at hold
        rw [metricAt_candidate hs, some.injEq] at hnew
        exact hnew ▸ (better_iff c _).mp hbetter old hold
    · exact .inl rfl

/-- A champion to be stays one if a later candidate is not better than what is served. -/
lemma State.Promoted.train (h : s.Promoted goal m v) (hregistered : s.Registered m)
    (hbetter : ¬ better c (s.championMetrics m) = true) (hs : s.step goal (.train m c) = some s') :
    s'.Promoted goal m v := by
  obtain ⟨r, -, hfresh, hdisk, hreg, -, htrained⟩ := step_train hs
  obtain ⟨w, hw, hblank⟩ := hregistered.exists_version
  -- what is served has metrics, as everything is better than nothing
  have hold : ∃ old, s.servedMetric goal m = some old := by
    by_contra hnone
    exact hbetter ((better_iff c _).mpr fun old hold => absurd ⟨old, hold⟩ hnone)
  obtain ⟨old, hold⟩ := hold
  have hwne : w ≠ c.version :=
    ne_of_metricAt hfresh ((servedMetric_of_resolve hw hblank).symm.trans hold)
  obtain ⟨new, hnew⟩ := h.measured
  have hmetric : s'.metricAt goal m v = s.metricAt goal m v :=
    metricAt_other hdisk (ne_of_metricAt hfresh hnew)
  refine ⟨h.nonblank, htrained ▸ mem_append_left _ h.trained, ⟨new, hmetric.trans hnew⟩, ?_⟩
  rw [resolveVersion_train hs, if_pos hregistered,
    servedMetric_train hs hregistered hw hblank hwne, hmetric, Registered, hreg]
  exact h.ahead

lemma decided_champion (r : Registry) (m : Model) (v : String) (promoted : Bool) (m' : Model) :
    (r.decided m v promoted).champion m' =
      if m' = m ∧ promoted = true then some v else r.champion m' := by
  rw [Registry.decided]
  by_cases hm : m' = m <;> cases promoted <;> simp [hm]

lemma State.Sound.train (h : s.Sound goal) (hok : s.Guarded goal (.train m c))
    (hs : s.step goal (.train m c) = some s') : s'.Sound goal := by
  obtain ⟨r, htraining, -, hdisk, hreg, htraining', htrained⟩ := step_train hs
  intro r' hr' m'
  cases htraining'.symm.trans hr'
  rw [decided_champion, hreg]
  split_ifs with hdecided
  · obtain ⟨rfl, hbetter⟩ := hdecided
    exact .inr ⟨c.version, rfl, promoted_candidate hs hbetter⟩
  · refine (h r htraining m').imp id ?_
    rintro ⟨v, hv, hprom⟩
    refine ⟨v, hv, ?_⟩
    by_cases hm : m' = m
    · subst hm
      have hbetter : ¬ better c (s.championMetrics m') = true := fun hb => hdecided ⟨rfl, hb⟩
      have hregistered : s.Registered m' :=
        hok.resolve_right fun hbeats => hbetter ((better_iff c _).mpr hbeats)
      exact hprom.train hregistered hbetter hs
    · exact hprom.congr (by rw [hdisk, update_of_ne hm]) hreg (htrained ▸ subset_append_left _ _)

lemma State.Sound.step {e : Event goal} (h : s.Sound goal) (hok : s.Guarded goal e)
    (hs : s.step goal e = some s') : s'.Sound goal := by
  cases e with
  | begin =>
    cases hr : s.training with
    | none =>
      simp only [State.step, hr] at hs
      cases hs
      intro r hr m
      exact .inl (congrFun (congrArg Registry.champion (some.inj hr).symm) m)
    | some r => simp [State.step, hr] at hs
  | train m c => exact h.train hok hs
  | finish =>
    cases hr : s.training with
    | none => simp [State.step, hr] at hs
    | some r =>
      simp only [State.step, hr] at hs
      cases hs
      intro r hr
      cases hr
  | abort =>
    cases hs
    intro r hr
    cases hr

lemma State.Sound.neverWorse_finish (h : s.Sound goal) (hs : s.step goal .finish = some s') :
    NeverWorse goal s s' := by
  cases hr : s.training with
  | none => simp [State.step, hr] at hs
  | some r =>
    simp only [State.step, hr] at hs
    cases hs
    intro m hchanged
    rcases h r hr m with hsame | ⟨v, hv, hprom⟩
    · exact (hchanged (resolveVersion_congr rfl hsame)).elim
    · have hresolve : resolveVersion { s with registry := r, training := none } m .champion =
          some v := by
        rw [resolveVersion_champion]
        simp [truthy_eq_some.mpr ⟨hv, hprom.nonblank⟩]
      rw [hresolve] at hchanged
      obtain ⟨hregistered, hbeats⟩ := hprom.ahead.resolve_left (Ne.symm hchanged)
      obtain ⟨new, hnew⟩ := hprom.measured
      cases hold : s.servedMetric goal m with
      | none => exact .inl rfl
      | some old =>
        refine .inr ⟨v, new, old, hresolve, hprom.trained, ?_, rfl, hbeats old new hold hnew⟩
        rw [servedMetric_of_resolve hresolve hprom.nonblank]
        exact hnew

lemma NeverWorse.beats {old new : ℚ} (h : NeverWorse goal s s')
    (hchanged : s'.resolveVersion m .champion ≠ s.resolveVersion m .champion)
    (hold : s.servedMetric goal m = some old) (hnew : s'.servedMetric goal m = some new) :
    (goal m).Beats new old := by
  rcases h m hchanged with hnone | ⟨-, new', old', -, -, hnew', hold', hbeats⟩
  · cases hnone.symm.trans hold
  · cases hnew.symm.trans hnew'
    cases hold.symm.trans hold'
    exact hbeats

lemma neverWorse_train_iff (hs : s.step goal (.train m c) = some s') :
    NeverWorse goal s s' ↔ s.Guarded goal (.train m c) := by
  obtain ⟨r, -, hfresh, hdisk, hreg, -, htrained⟩ := step_train hs
  have hother : ∀ m', m' ≠ m → s'.resolveVersion m' .champion = s.resolveVersion m' .champion :=
    fun m' hm => resolveVersion_congr (by rw [hdisk, update_of_ne hm]) (by rw [hreg])
  constructor
  · intro h
    refine or_iff_not_imp_left.mpr fun hregistered old hold => ?_
    have hresolve : s'.resolveVersion m .champion = some c.version := by
      rw [resolveVersion_train hs, if_neg hregistered]
    have hserved : s'.servedMetric goal m = some c.value := by
      rw [servedMetric_of_resolve hresolve c.nonblank, metricAt_candidate hs]
    have hchanged : s'.resolveVersion m .champion ≠ s.resolveVersion m .champion := by
      -- what was served has metrics, and the candidate was not there
      rw [hresolve]
      intro heq
      rw [servedMetric_of_resolve heq.symm c.nonblank] at hold
      exact ne_of_metricAt hfresh hold rfl
    exact h.beats hchanged hold hserved
  · intro hok m' hchanged
    obtain rfl : m' = m := not_not.mp fun hm => hchanged (hother m' hm)
    rw [resolveVersion_train hs] at hchanged
    split_ifs at hchanged with hregistered
    · exact absurd rfl hchanged
    · have hresolve : s'.resolveVersion m' .champion = some c.version := by
        rw [resolveVersion_train hs, if_neg hregistered]
      cases hold : s.servedMetric goal m' with
      | none => exact .inl rfl
      | some old =>
        refine .inr ⟨c.version, c.value, old, hresolve, ?_, ?_, rfl,
          hok.resolve_left hregistered old hold⟩
        · rw [htrained]
          exact mem_append_right _ (mem_singleton.mpr rfl)
        · rw [servedMetric_of_resolve hresolve c.nonblank, metricAt_candidate hs]

lemma neverWorse_of_same (hdisk : s'.disk = s.disk) (hreg : s'.registry = s.registry) :
    NeverWorse goal s s' :=
  fun _ hchanged => absurd (resolveVersion_congr (by rw [hdisk]) (by rw [hreg])) hchanged

lemma State.Sound.neverWorse_iff {e : Event goal} (h : s.Sound goal)
    (hs : s.step goal e = some s') : NeverWorse goal s s' ↔ s.Guarded goal e := by
  cases e with
  | begin =>
    refine iff_of_true ?_ trivial
    cases hr : s.training with
    | none =>
      simp only [State.step, hr] at hs
      cases hs
      exact neverWorse_of_same rfl rfl
    | some r => simp [State.step, hr] at hs
  | train m c => exact neverWorse_train_iff hs
  | finish => exact iff_of_true (h.neverWorse_finish hs) trivial
  | abort =>
    cases hs
    exact iff_of_true (neverWorse_of_same rfl rfl) trivial

end Pending

/-! ## All iterations -/

/-- **What is served never gets worse, exactly if every training meets the condition**, from any
artifacts and registry, whether iterations end or not. -/
theorem served_never_worse_iff {goal : Model → Goal} {s t : State} {events : List (Event goal)}
    (hidle : s.training = none) (hrun : run (step goal) s events = some t) :
    Meets (step goal) (fun s e => ∀ s', s.step goal e = some s' → NeverWorse goal s s') s events ↔
      Meets (step goal) (Guarded goal) s events := by
  have hsound : s.Sound goal := fun r hr => nomatch hidle.symm.trans hr
  refine (meets_congr_of_run (fun s e s' hs hstep => ?_) (fun s e s' hs hok hstep =>
    ?_) hsound hrun).symm
  · exact ⟨fun hok s'' hs'' => (hs.neverWorse_iff hs'').mpr hok,
      fun h => (hs.neverWorse_iff hstep).mp (h s' hstep)⟩
  · exact hs.step hok hstep

/-- The direction of a classifier's primary metric. -/
def auc : Model → Goal := fun _ => { metric := "auc", lowerIsBetter := false }

/-- A candidate with a primary value and nothing else. -/
def plain {g : Goal} (version : String) (nonblank : version ≠ "") (value : ℚ) : Candidate g :=
  { version, value, others := [], nonblank, agrees := nofun }

def oneArtifact (champion : Option String) : State where
  disk := fun m => if m = .leakAutoencoder then [("v1", some [("auc", 9 / 10)])] else []
  registry := { champion := fun _ => champion, challenger := fun _ => none }
  training := none
  trained := []

/-- A registered champion, a worse candidate, and a better one. -/
theorem served_never_worse_registered : (oneArtifact (some "v1")).training = none ∧
    Meets (step auc) (fun s e => ∀ s', s.step auc e = some s' → NeverWorse auc s s')
      (oneArtifact (some "v1"))
      [.begin, .train .leakAutoencoder (plain "v2" (by decide) (1 / 2)),
        .train .leakAutoencoder (plain "v3" (by decide) (19 / 20)), .finish] :=
  ⟨rfl, (served_never_worse_iff rfl (some_get (by decide +kernel)).symm).mpr (by decide +kernel)⟩

/-- **A model without a registered champion gets worse**: the candidate is served all the same. -/
theorem unregistered_model_gets_worse :
    ∃ s s' t, run (step auc) (oneArtifact none) [.begin] = some s ∧
      s.step auc (.train .leakAutoencoder (plain "v2" (by decide) (1 / 2))) = some s' ∧
      s.resolveVersion .leakAutoencoder .champion = some "v1" ∧
      s.servedMetric auc .leakAutoencoder = some (9 / 10) ∧
      s'.resolveVersion .leakAutoencoder .champion = some "v2" ∧
      s'.servedMetric auc .leakAutoencoder = some (1 / 2) ∧
      s'.step auc .finish = some t ∧ t.resolveVersion .leakAutoencoder .champion = some "v2" ∧
      ¬ NeverWorse auc s s' := by
  refine ⟨_, _, _, rfl, rfl, by decide +kernel, by decide +kernel, by decide +kernel,
    by decide +kernel, rfl, by decide +kernel, fun h => ?_⟩
  have hbeats : (auc .leakAutoencoder).Beats (1 / 2) (9 / 10) :=
    h.beats (by decide +kernel) (by decide +kernel) (by decide +kernel)
  exact absurd hbeats (by decide +kernel)

end H2Fleet.Ml
