import H2Fleet.Core.Run

/-!
# The history of a run

What a state owes to a step long past is said with the run itself: `Took step s es P` says that the
run `es` from `s` has taken a step of which `P` holds, of the event and of the state it was taken
from.
-/

namespace H2Fleet

open List

variable {σ ε : Type*} {step : σ → ε → Option σ} {s t : σ} {es : List ε} {P Q : σ → ε → Prop}

def Took (step : σ → ε → Option σ) (s : σ) (es : List ε) (P : σ → ε → Prop) : Prop :=
  ∃ (before : List ε) (e : ε) (after : List ε) (t : σ),
    es = before ++ e :: after ∧ run step s before = some t ∧ P t e

lemma Took.concat (h : Took step s es P) (e : ε) : Took step s (es ++ [e]) P := by
  obtain ⟨before, d, after, t, rfl, hrun, hP⟩ := h
  exact ⟨before, d, after ++ [e], t, by simp, hrun, hP⟩

lemma Took.last (hrun : run step s es = some t) {e : ε} (hP : P t e) : Took step s (es ++ [e]) P :=
  ⟨es, e, [], t, rfl, hrun, hP⟩

/-- **The run rule with history.** -/
theorem run_history {Inv : List ε → σ → Prop} (hnil : Inv [] s)
    (hstep : ∀ es t e t', run step s es = some t → Inv es t → step t e = some t' →
      Inv (es ++ [e]) t') (hrun : run step s es = some t) : Inv es t := by
  induction es using reverseRecOn generalizing t with
  | nil =>
    cases hrun
    exact hnil
  | append_singleton es e ih =>
    rw [run_append, Option.bind_eq_some_iff] at hrun
    obtain ⟨t', ht', hlast⟩ := hrun
    obtain ⟨u, hu, hend⟩ := run_cons_eq_some.mp hlast
    obtain rfl := Option.some.inj hend
    exact hstep es t' e u ht' (ih ht') hu

section Once

variable {R : σ → ε → Prop} {Done : σ → Prop}
  (hdone : ∀ t e t', R t e → step t e = some t' → Done t')
  (hkeep : ∀ t e t', Done t → step t e = some t' → Done t')
  (honce : ∀ t e t', Done t → R t e → step t e ≠ some t')

include hdone hkeep honce

/-- A run with a step of a kind that ends in `Done` takes no other of that kind. -/
lemma run_not_again {before between after : List ε} {e e' : ε} {t t' u : σ}
    (hrun : run step s (before ++ e :: (between ++ e' :: after)) = some u)
    (ht : run step s before = some t) (ht' : run step s (before ++ e :: between) = some t')
    (hR : R t e) : ¬ R t' e' := by
  intro hR'
  -- the second step is enabled where the run has come to
  rw [← cons_append, ← append_assoc, run_append, ht', Option.bind_some] at hrun
  obtain ⟨u', hu', -⟩ := run_cons_eq_some.mp hrun
  rw [run_append, ht, Option.bind_some] at ht'
  obtain ⟨v, hv, hrest⟩ := run_cons_eq_some.mp ht'
  exact honce t' e' u' (run_invariant_always hkeep (hdone t e v hR hv) hrest) hR' hu'

/-- **What happens once.** -/
theorem Took.unique {u : σ} (hrun : run step s es = some u) (hP : Took step s es P)
    (hPR : ∀ t e, P t e → R t e) (hQ : Took step s es Q) (hQR : ∀ t e, Q t e → R t e) :
    ∃ t e, P t e ∧ Q t e := by
  obtain ⟨before, e, after, t, rfl, ht, hPt⟩ := hP
  obtain ⟨before', e', after', t', heq, ht', hQt⟩ := hQ
  rcases append_eq_append_iff.mp heq with ⟨m, rfl, hm⟩ | ⟨m, rfl, hm⟩
  · cases m with
    | nil =>
      rw [append_nil, ht] at ht'
      cases ht'
      obtain ⟨rfl, -⟩ := cons_eq_cons.mp hm
      exact ⟨t, e, hPt, hQt⟩
    | cons d m =>
      obtain ⟨rfl, rfl⟩ := cons_eq_cons.mp hm
      exact absurd (hQR t' e' hQt) (run_not_again hdone hkeep honce hrun ht ht' (hPR t e hPt))
  · cases m with
    | nil =>
      rw [append_nil, ht'] at ht
      obtain rfl := Option.some.inj ht
      obtain ⟨rfl, -⟩ := cons_eq_cons.mp hm
      exact ⟨t', e', hPt, hQt⟩
    | cons d m =>
      obtain ⟨rfl, rfl⟩ := cons_eq_cons.mp hm
      rw [append_assoc] at hrun
      exact absurd (hPR t e hPt) (run_not_again hdone hkeep honce hrun ht' ht (hQR t' e' hQt))

end Once

end H2Fleet
