import Mathlib.Tactic
import Mathlib.Algebra.BigOperators.Group.List.Basic

/-!
# Lists of processes

A system with any number of calls in progress keeps them in a list: a new call is appended, and a
step of the call at an index replaces the entry there.  An entry after a change is the new one or
was there before; what all entries, or any two of them, are, they still are if the new one is.
-/

namespace H2Fleet

open List Function

variable {α : Type*} {l : List α}

lemma getElem?_set_cases {i j : ℕ} {a x : α} (h : (l.set i a)[j]? = some x) :
    (j = i ∧ x = a) ∨ (j ≠ i ∧ l[j]? = some x) := by
  by_cases hij : i = j
  · subst hij
    rw [getElem?_set_self'] at h
    cases hl : l[i]? with
    | none => simp [hl] at h
    | some y =>
      simp only [hl, Option.map_eq_map, Option.map_some, const_apply, Option.some.injEq] at h
      exact .inl ⟨rfl, h.symm⟩
  · rw [getElem?_set_ne hij] at h
    exact .inr ⟨fun hji => hij hji.symm, h⟩

lemma getElem?_append_cases {j : ℕ} {a x : α} (h : (l ++ [a])[j]? = some x) :
    (j = l.length ∧ x = a) ∨ l[j]? = some x := by
  rcases lt_trichotomy j l.length with hlt | rfl | hgt
  · rw [getElem?_append_left hlt] at h
    exact .inr h
  · rw [getElem?_concat_length, Option.some.injEq] at h
    exact .inl ⟨rfl, h.symm⟩
  · rw [getElem?_eq_none (by simp; omega)] at h
    cases h

variable {i : ℕ}

lemma mem_set_cases {a x : α} (h : x ∈ l.set i a) : x = a ∨ x ∈ l :=
  (mem_or_eq_of_mem_set h).symm

lemma mem_set_self {a b : α} (h : l[i]? = some b) : a ∈ l.set i a := by
  obtain ⟨hi, -⟩ := List.getElem?_eq_some_iff.mp h
  exact mem_iff_getElem?.mpr ⟨i, by simp [hi]⟩

variable {P : α → Prop}

lemma exists_mem_set {a x : α} (h : l[i]? = some x) (hP : P x → P a) (hex : ∃ y ∈ l, P y) :
    ∃ y ∈ l.set i a, P y := by
  obtain ⟨y, hy, hPy⟩ := hex
  obtain ⟨j, hj⟩ := mem_iff_getElem?.mp hy
  by_cases hij : i = j
  · subst hij
    rw [h, Option.some.injEq] at hj
    exact ⟨a, mem_set_self h, hP (hj ▸ hPy)⟩
  · refine ⟨y, mem_iff_getElem?.mpr ⟨j, ?_⟩, hPy⟩
    rw [getElem?_set_ne hij]
    exact hj

lemma getElem?_set_other {i j : ℕ} {a x : α} (hij : j ≠ i) (h : l[j]? = some x) :
    (l.set i a)[j]? = some x := by
  rw [getElem?_set_ne hij.symm]
  exact h

lemma getElem?_append_old {l l' : List α} {j : ℕ} {x : α} (h : l[j]? = some x) :
    (l ++ l')[j]? = some x := by
  rw [getElem?_append_left (List.getElem?_eq_some_iff.mp h).1]
  exact h

/-! ## All entries -/

variable {a : α}

lemma forall_mem_set (hl : ∀ x ∈ l, P x) (ha : P a) : ∀ x ∈ l.set i a, P x := by
  intro x hx
  rcases mem_set_cases hx with rfl | hx
  · exact ha
  · exact hl x hx

lemma forall_mem_concat (hl : ∀ x ∈ l, P x) (ha : P a) : ∀ x ∈ l ++ [a], P x :=
  forall_mem_append.mpr ⟨hl, forall_mem_singleton.mpr ha⟩

lemma forall_slot_set {P : ℕ → α → Prop} (hl : ∀ j x, l[j]? = some x → P j x) (ha : P i a) :
    ∀ j x, (l.set i a)[j]? = some x → P j x := by
  intro j x hx
  rcases getElem?_set_cases hx with ⟨rfl, rfl⟩ | ⟨-, hx⟩
  · exact ha
  · exact hl j x hx

lemma forall_slot_concat {P : ℕ → α → Prop} (hl : ∀ j x, l[j]? = some x → P j x)
    (ha : P l.length a) : ∀ j x, (l ++ [a])[j]? = some x → P j x := by
  intro j x hx
  rcases getElem?_append_cases hx with ⟨rfl, rfl⟩ | hx
  · exact ha
  · exact hl j x hx

lemma forall_pair_set {R : α → α → Prop} (hsymm : ∀ x y, R x y → R y x)
    (hl : ∀ (j k : ℕ) x y, l[j]? = some x → l[k]? = some y → j ≠ k → R x y)
    (ha : ∀ j x, j ≠ i → l[j]? = some x → R x a) :
    ∀ (j k : ℕ) x y, (l.set i a)[j]? = some x → (l.set i a)[k]? = some y → j ≠ k → R x y := by
  intro j k x y hx hy hjk
  rcases getElem?_set_cases hx with ⟨rfl, rfl⟩ | ⟨hj, hx'⟩
  · rcases getElem?_set_cases hy with ⟨rfl, -⟩ | ⟨hk, hy⟩
    · exact absurd rfl hjk
    · exact hsymm _ _ (ha k y hk hy)
  · rcases getElem?_set_cases hy with ⟨rfl, rfl⟩ | ⟨-, hy⟩
    · exact ha j x hj hx'
    · exact hl j k x y hx' hy hjk

lemma forall_pair_concat {R : α → α → Prop} (hsymm : ∀ x y, R x y → R y x)
    (hl : ∀ (j k : ℕ) x y, l[j]? = some x → l[k]? = some y → j ≠ k → R x y)
    (ha : ∀ (j : ℕ) x, l[j]? = some x → R x a) :
    ∀ (j k : ℕ) x y, (l ++ [a])[j]? = some x → (l ++ [a])[k]? = some y → j ≠ k → R x y := by
  intro j k x y hx hy hjk
  rcases getElem?_append_cases hx with ⟨rfl, rfl⟩ | hx'
  · rcases getElem?_append_cases hy with ⟨rfl, -⟩ | hy
    · exact absurd rfl hjk
    · exact hsymm _ _ (ha k y hy)
  · rcases getElem?_append_cases hy with ⟨-, rfl⟩ | hy
    · exact ha j x hx'
    · exact hl j k x y hx' hy hjk

lemma forall_update {κ : Type*} [DecidableEq κ] {f : κ → Option α} {k : κ} {v : Option α}
    {P : κ → α → Prop} (hf : ∀ k' x, f k' = some x → P k' x) (hv : ∀ x, v = some x → P k x) :
    ∀ k' x, update f k v k' = some x → P k' x := by
  intro k' x hx
  by_cases hk : k' = k
  · subst hk
    exact hv x (by rwa [update_self] at hx)
  · exact hf k' x (by rwa [update_of_ne hk] at hx)

/-! ## Sums -/

lemma sum_set {M : Type*} [AddCommGroup M] (f : α → M) :
    ∀ {l : List α} {i : ℕ} {a x : α}, l[i]? = some x →
    ((l.set i a).map f).sum = (l.map f).sum - f x + f a
  | [], i, a, x, h => by simp at h
  | y :: l, 0, a, x, h => by
    obtain rfl : y = x := by simpa using h
    simp only [set_cons_zero, map_cons, sum_cons]
    abel
  | y :: l, i + 1, a, x, h => by
    have ih := sum_set f (l := l) (i := i) (a := a) (x := x) (by simpa using h)
    simp only [set_cons_succ, map_cons, sum_cons, ih]
    abel

lemma sum_filter (p : α → Prop) [DecidablePred p] (f : α → ℤ) (l : List α) :
    ((l.filter fun x => p x).map f).sum = (l.map fun x => if p x then f x else 0).sum := by
  rw [sum_map_ite]
  simp

end H2Fleet
