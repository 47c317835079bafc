import H2Fleet.Core.Slots

/-!
# Locks

Processes in a list, each of which holds at most one lock of some kind.  `Exclusive holds l` says
that no lock is held twice; `Exclusive.released` says that nobody has a lock that its holder has let
go.

A unique column of a table is a special case: the rows are the processes, and each holds its value.
-/

namespace H2Fleet

variable {α κ : Type*}

/-- No two processes hold one lock. -/
def Exclusive (holds : α → Option κ) (l : List α) : Prop :=
  ∀ (i j : ℕ) (a b : α) (k : κ), l[i]? = some a → l[j]? = some b → holds a = some k →
    holds b = some k → i = j

variable {holds : α → Option κ}

lemma Exclusive.nil : Exclusive holds [] := by
  intro i j a b k ha
  simp at ha

variable {l : List α}

lemma Exclusive.eq (h : Exclusive holds l) {a b : α} {k : κ} (ha : a ∈ l) (hb : b ∈ l)
    (hak : holds a = some k) (hbk : holds b = some k) : a = b := by
  obtain ⟨i, hi⟩ := List.mem_iff_getElem?.mp ha
  obtain ⟨j, hj⟩ := List.mem_iff_getElem?.mp hb
  obtain rfl := h i j a b k hi hj hak hbk
  exact Option.some.inj (hi.symm.trans hj)

lemma Exclusive.set (h : Exclusive holds l) {i : ℕ} {a a' : α} (hi : l[i]? = some a)
    (hnew : ∀ k, holds a' = some k → holds a = some k ∨ ∀ b ∈ l, holds b ≠ some k) :
    Exclusive holds (l.set i a') := by
  have hother : ∀ (j : ℕ) (b : α) (k : κ), l[j]? = some b → holds b = some k →
      holds a' = some k → j = i := by
    intro j b k hb hbk hk
    rcases hnew k hk with hak | hfree
    · exact h j i b a k hb hi hbk hak
    · exact absurd hbk (hfree b (List.mem_of_getElem? hb))
  intro j m b c k hb hc hbk hck
  rcases getElem?_set_cases hb with ⟨rfl, rfl⟩ | ⟨-, hb'⟩
  · rcases getElem?_set_cases hc with ⟨rfl, -⟩ | ⟨-, hc'⟩
    · rfl
    · exact (hother m c k hc' hck hbk).symm
  · rcases getElem?_set_cases hc with ⟨rfl, rfl⟩ | ⟨-, hc'⟩
    · exact hother j b k hb' hbk hck
    · exact h j m b c k hb' hc' hbk hck

/-- Whoever holds a lock and lets it go was the only one to hold it. -/
lemma Exclusive.released (h : Exclusive holds l) {i : ℕ} {a a' : α} {k : κ} (hi : l[i]? = some a)
    (ha : holds a = some k) (ha' : holds a' ≠ some k) : ∀ b ∈ l.set i a', holds b ≠ some k := by
  intro b hb hbk
  obtain ⟨j, hj⟩ := List.mem_iff_getElem?.mp hb
  rcases getElem?_set_cases hj with ⟨-, rfl⟩ | ⟨hne, hj⟩
  · exact ha' hbk
  · exact hne (h j i b a k hj hi hbk ha)

lemma Exclusive.of_free (h : ∀ k, ∀ a ∈ l, holds a ≠ some k) : Exclusive holds l :=
  fun _ _ a _ k ha _ hak => absurd hak (h k a (List.mem_of_getElem? ha))

lemma Exclusive.concat (h : Exclusive holds l) {a : α}
    (hnew : ∀ k, holds a = some k → ∀ b ∈ l, holds b ≠ some k) : Exclusive holds (l ++ [a]) := by
  intro j m b c k hb hc hbk hck
  rcases getElem?_append_cases hb with ⟨rfl, rfl⟩ | hb'
  · rcases getElem?_append_cases hc with ⟨rfl, -⟩ | hc'
    · rfl
    · exact absurd hck (hnew k hbk c (List.mem_of_getElem? hc'))
  · rcases getElem?_append_cases hc with ⟨rfl, rfl⟩ | hc'
    · exact absurd hbk (hnew k hck b (List.mem_of_getElem? hb'))
    · exact h j m b c k hb' hc' hbk hck

lemma Exclusive.map (h : Exclusive holds l) {f : α → α} (hf : ∀ a, holds (f a) = holds a) :
    Exclusive holds (l.map f) := by
  intro i j a b k ha hb hak hbk
  rw [List.getElem?_map, Option.map_eq_some_iff] at ha hb
  obtain ⟨a, ha, rfl⟩ := ha
  obtain ⟨b, hb, rfl⟩ := hb
  rw [hf] at hak hbk
  exact h i j a b k ha hb hak hbk

end H2Fleet
