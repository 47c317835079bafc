import Mathlib.Tactic
import Mathlib.Data.List.Basic

/-!
# Runs of a partial step function

The services are modelled as partial step functions `step : σ → ε → Option σ`: an event carries
everything the environment decides (the answer of a broker, the value of a clock, the point of a
crash), and `none` says that the event is not enabled in the state.  A run is a list of events.

* `Meets ok` — every step of the run meets the condition `ok` in the state it starts from.
* `Throughout P` — every state of the run has the property `P`.

A statement about the last state of every run that meets `ok` is a statement about every state
such a run passes through: the beginning of a run is a run, and it meets `ok` too.
-/

namespace H2Fleet

open List Option

variable {σ ε : Type*} (step : σ → ε → Option σ)

/-- The state after the events of a list, taken one after another. -/
def run : σ → List ε → Option σ
  | s, [] => some s
  | s, e :: es => (step s e).bind fun s' => run s' es

/-- Every step of the run meets `ok` in the state it is taken from. -/
def Meets (ok : σ → ε → Prop) : σ → List ε → Prop
  | _, [] => True
  | s, e :: es => ok s e ∧ ∀ s', step s e = some s' → Meets ok s' es

/-- Whether a run meets a decidable condition can be computed. -/
instance Meets.decidable (ok : σ → ε → Prop)
    [∀ s e, Decidable (ok s e)] : ∀ (s : σ) (es : List ε), Decidable (Meets step ok s es)
  | _, [] => isTrue trivial
  | s, e :: es =>
    match h : step s e with
    | none => decidable_of_iff (ok s e) (by simp [Meets, h])
    | some s' =>
      have := Meets.decidable ok s' es
      decidable_of_iff (ok s e ∧ Meets step ok s' es) (by simp [Meets, h])

/-- Whether a run ends in a state with a decidable property is found by running it. -/
instance decidableEnds {α : Type*} (o : Option α) (P : α → Prop) [DecidablePred P] :
    Decidable (∃ a, o = some a ∧ P a) :=
  inferInstanceAs (Decidable (∃ a ∈ o, P a))

@[simp] lemma run_nil (s : σ) : run step s [] = some s := rfl

lemma run_cons (s : σ) (e : ε) (es : List ε) :
    run step s (e :: es) = (step s e).bind fun s' => run step s' es := rfl

variable {step}

lemma run_cons_eq_some {s t : σ} {e : ε} {es : List ε} :
    run step s (e :: es) = some t ↔ ∃ s', step s e = some s' ∧ run step s' es = some t := by
  rw [run_cons, bind_eq_some_iff]

lemma run_append (step : σ → ε → Option σ) (s : σ) (es fs : List ε) :
    run step s (es ++ fs) = (run step s es).bind fun t => run step t fs := by
  induction es generalizing s with
  | nil => rfl
  | cons e es ih =>
    rw [cons_append, run_cons, run_cons, bind_assoc]
    simp only [ih]

variable {ok : σ → ε → Prop} {Inv : σ → Prop}

/-- **The run rule.**  An invariant that every step meeting `ok` preserves holds at the end of every
run that meets `ok`. -/
theorem run_invariant (hstep : ∀ s e s', Inv s → ok s e → step s e = some s' → Inv s') :
    ∀ {s : σ} {es : List ε} {t : σ}, Inv s → Meets step ok s es → run step s es = some t → Inv t
  | s, [], t, hs, _, hrun => by
    rw [run_nil, some.injEq] at hrun
    exact hrun ▸ hs
  | s, e :: es, t, hs, hok, hrun => by
    obtain ⟨s', hs', hrest⟩ := run_cons_eq_some.mp hrun
    exact run_invariant hstep (hstep s e s' hs hok.1 hs') (hok.2 s' hs') hrest

lemma Meets.of_forall (h : ∀ s e, ok s e) : ∀ {s : σ} {es : List ε}, Meets step ok s es
  | _, [] => trivial
  | s, e :: _ => ⟨h s e, fun _ _ => Meets.of_forall h⟩

lemma Meets.of_mem {P : ε → Prop} :
    ∀ {s : σ} {es : List ε}, (∀ e ∈ es, P e) → Meets step (fun _ e => P e) s es
  | _, [], _ => trivial
  | _, e :: _, h => ⟨h e mem_cons_self, fun _ _ =>
    Meets.of_mem fun e' he' => h e' (mem_cons_of_mem _ he')⟩

variable {ok' : σ → ε → Prop}

lemma meets_and : ∀ {s : σ} {es : List ε}, Meets step (fun s e => ok s e ∧ ok' s e) s es ↔
      Meets step ok s es ∧ Meets step ok' s es
  | _, [] => by simp [Meets]
  | s, e :: es => by
    simp only [Meets, meets_and]
    exact ⟨fun h => ⟨⟨h.1.1, fun s' hs => (h.2 s' hs).1⟩, h.1.2, fun s' hs => (h.2 s' hs).2⟩,
      fun h => ⟨⟨h.1.1, h.2.1⟩, fun s' hs => ⟨h.1.2 s' hs, h.2.2 s' hs⟩⟩⟩

/-- The rule for a property of all steps, along an invariant. -/
lemma Meets.imp (himp : ∀ s e, Inv s → ok s e → ok' s e)
    (hstep : ∀ s e s', Inv s → step s e = some s' → Inv s') :
    ∀ {s : σ} {es : List ε}, Inv s → Meets step ok s es → Meets step ok' s es
  | _, [], _, _ => trivial
  | s, e :: _, hs, hok =>
    ⟨himp s e hs hok.1, fun s' hs' => (hok.2 s' hs').imp himp hstep (hstep s e s' hs hs')⟩

lemma Meets.of_run (h : ∀ s e s', step s e = some s' → ok s e → ok' s e) :
    ∀ {s : σ} {es : List ε} {t : σ}, Meets step ok s es → run step s es = some t →
    Meets step ok' s es
  | _, [], _, _, _ => trivial
  | s, e :: es, t, hok, hrun => by
    obtain ⟨s', hs', hrest⟩ := run_cons_eq_some.mp hrun
    refine ⟨h s e s' hs' hok.1, fun s'' hs'' => ?_⟩
    cases hs'.symm.trans hs''
    exact (hok.2 s' hs').of_run h hrest

lemma meets_append {fs : List ε} : ∀ {s : σ} {es : List ε} {t : σ}, run step s es = some t →
      (Meets step ok s (es ++ fs) ↔ Meets step ok s es ∧ Meets step ok t fs)
  | s, [], t, hrun => by
    cases hrun
    simp [Meets]
  | s, e :: es, t, hrun => by
    obtain ⟨s', hs', hrest⟩ := run_cons_eq_some.mp hrun
    simp only [cons_append, Meets, hs', some.injEq, forall_eq', meets_append hrest, and_assoc]

/-- **Two conditions that agree along an invariant** are met by the same runs. -/
theorem meets_congr {P : ε → Prop} (hiff : ∀ s e, Inv s → P e → (ok s e ↔ ok' s e))
    (hstep : ∀ s e s', Inv s → P e → ok s e → step s e = some s' → Inv s') :
    ∀ {s : σ} {es : List ε}, Inv s → (∀ e ∈ es, P e) → (Meets step ok s es ↔ Meets step ok' s es)
  | _, [], _, _ => Iff.rfl
  | s, e :: es, hs, hes => by
    have he := hes e mem_cons_self
    have hrest : ∀ e ∈ es, P e := fun e he => hes e (mem_cons_of_mem _ he)
    rw [Meets, Meets, ← hiff s e hs he]
    refine and_congr_right fun hok => forall_congr' fun s' => imp_congr_right fun hs' => ?_
    exact meets_congr hiff hstep (hstep s e s' hs he hok hs') hrest

/-- The same for the steps of a run that are taken. -/
theorem meets_congr_of_run (hiff : ∀ s e s', Inv s → step s e = some s' → (ok s e ↔ ok' s e))
    (hstep : ∀ s e s', Inv s → ok s e → step s e = some s' → Inv s') :
    ∀ {s : σ} {es : List ε} {t : σ}, Inv s → run step s es = some t →
      (Meets step ok s es ↔ Meets step ok' s es)
  | _, [], _, _, _ => Iff.rfl
  | s, e :: es, t, hs, hrun => by
    obtain ⟨s', hs', hrest⟩ := run_cons_eq_some.mp hrun
    rw [Meets, Meets, ← hiff s e s' hs hs']
    refine and_congr_right fun hok => forall_congr' fun s'' => imp_congr_right fun hs'' => ?_
    cases hs'.symm.trans hs''
    exact meets_congr_of_run hiff hstep (hstep s e s' hs hok hs') hrest

/-- A run that meets `ok` comes to its end, if every step that meets it can be taken. -/
theorem run_total {P : ε → Prop}
    (hstep : ∀ s e, Inv s → P e → ok s e → ∃ s', step s e = some s' ∧ Inv s') :
    ∀ {s : σ} {es : List ε}, Inv s → (∀ e ∈ es, P e) → Meets step ok s es →
      ∃ t, run step s es = some t ∧ Inv t
  | s, [], hs, _, _ => ⟨s, rfl, hs⟩
  | s, e :: es, hs, hes, hok => by
    obtain ⟨s', hs', hinv⟩ := hstep s e hs (hes e mem_cons_self) hok.1
    obtain ⟨t, hrun, ht⟩ := run_total hstep hinv (fun e he => hes e (mem_cons_of_mem _ he))
      (hok.2 s' hs')
    exact ⟨t, run_cons_eq_some.mpr ⟨s', hs', hrun⟩, ht⟩

/-- Every state of the run has the property. -/
def Throughout (step : σ → ε → Option σ) (P : σ → Prop) : σ → List ε → Prop
  | s, [] => P s
  | s, e :: es => P s ∧ ∀ s', step s e = some s' → Throughout step P s' es

lemma Throughout.head {P : σ → Prop} {s : σ} : ∀ {es : List ε}, Throughout step P s es → P s
  | [], h => h
  | _ :: _, h => h.1

lemma Throughout.last {P : σ → Prop} :
    ∀ {s : σ} {es : List ε} {t : σ}, Throughout step P s es → run step s es = some t → P t
  | s, [], t, h, hrun => by
    rw [run_nil, some.injEq] at hrun
    exact hrun ▸ h
  | s, e :: es, t, h, hrun => by
    obtain ⟨s', hs', hrest⟩ := run_cons_eq_some.mp hrun
    exact Throughout.last (h.2 s' hs') hrest

/-- The run rule for a property of all states. -/
theorem Meets.throughout {Inv P : σ → Prop} (hP : ∀ s, Inv s → P s)
    (hstep : ∀ s e s', Inv s → ok s e → step s e = some s' → Inv s') :
    ∀ {s : σ} {es : List ε}, Inv s → Meets step ok s es → Throughout step P s es
  | s, [], hs, _ => hP s hs
  | s, e :: _, hs, hok =>
    ⟨hP s hs, fun s' hs' => Meets.throughout hP hstep (hstep s e s' hs hok.1 hs') (hok.2 s' hs')⟩

/-- **What a run has to meet for a property to hold throughout**, for events with `Q`. -/
theorem throughout_iff_meets {Inv P : σ → Prop} {Q : ε → Prop} (hP : ∀ s, Inv s → P s)
    (hstep : ∀ s e s', Inv s → Q e → ok s e → step s e = some s' → Inv s')
    (hbad : ∀ s e s', Inv s → Q e → ¬ ok s e → step s e = some s' → ¬ P s') :
    ∀ {s : σ} {es : List ε} {t : σ}, Inv s → (∀ e ∈ es, Q e) → run step s es = some t →
      (Throughout step P s es ↔ Meets step ok s es)
  | s, [], _, hs, _, _ => iff_of_true (hP s hs) trivial
  | s, e :: es, t, hs, hes, hrun => by
    obtain ⟨s', hs', hrest⟩ := run_cons_eq_some.mp hrun
    have he := hes e mem_cons_self
    have hes' : ∀ e ∈ es, Q e := fun e he => hes e (mem_cons_of_mem _ he)
    by_cases hok : ok s e
    · have ih := throughout_iff_meets hP hstep hbad (hstep s e s' hs he hok hs') hes' hrest
      simp [Throughout, Meets, hs', ih, hok, hP s hs]
    · refine iff_of_false (fun h => ?_) (fun h => hok h.1)
      exact hbad s e s' hs he hok hs' (h.2 s' hs').head

/-- The same if nothing is known of the events. -/
theorem throughout_iff_meets_always {Inv P : σ → Prop} (hP : ∀ s, Inv s → P s)
    (hstep : ∀ {s e s'}, Inv s → ok s e → step s e = some s' → Inv s')
    (hbad : ∀ {s e s'}, Inv s → ¬ ok s e → step s e = some s' → ¬ P s') {s t : σ} {es : List ε}
    (hs : Inv s) (hrun : run step s es = some t) : Throughout step P s es ↔ Meets step ok s es :=
  throughout_iff_meets (Q := fun _ => True) hP (fun _ _ _ h _ => hstep h)
    (fun _ _ _ h _ => hbad h) hs (fun _ _ => trivial) hrun

/-- The run rule for an invariant that every step preserves. -/
theorem run_invariant_always (hstep : ∀ s e s', Inv s → step s e = some s' → Inv s') {s t : σ}
    {es : List ε} (hs : Inv s) (hrun : run step s es = some t) : Inv t :=
  run_invariant (fun s e s' h _ => hstep s e s' h) hs (Meets.of_forall fun _ _ => trivial) hrun

end H2Fleet
