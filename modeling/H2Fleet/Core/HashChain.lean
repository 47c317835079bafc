import Mathlib.Tactic
import Mathlib.Data.List.Basic

/-!
# Hash chains

A chain is a list of links, each with a body, the hash of the link before it and its own hash.  It
is `Linked` from a genesis value when every link names its predecessor and carries the hash of what
it says.  The hash function `hf` is a parameter; the results hold for one that is collision free
(`HashLaws`) and never yields the genesis value.
-/

namespace H2Fleet

open List Option

structure Link (B H : Type*) where
  body : B
  prev : H
  hash : H

variable {B H : Type*}

/-- Collision freedom, and a genesis value that is not a hash. -/
structure HashLaws (hf : H → B → H) (genesis : H) : Prop where
  collisionFree : ∀ {p q : H} {b c : B}, hf p b = hf q c → p = q ∧ b = c
  ne_genesis : ∀ (p : H) (b : B), hf p b ≠ genesis

/-- Every link names the hash before it and carries its own. -/
def Linked (hf : H → B → H) : H → List (Link B H) → Prop
  | _, [] => True
  | p, l :: ls => l.prev = p ∧ hf p l.body = l.hash ∧ Linked hf l.hash ls

/-- The two hashes of a link: the one it names and its own. -/
def Link.ends (l : Link B H) : H × H := (l.prev, l.hash)

/-- The hash in front of position `i`. -/
def hashBefore (genesis : H) (ls : List (Link B H)) : ℕ → H
  | 0 => genesis
  | i + 1 => (ls[i]?.map Link.hash).getD genesis

variable {ls : List (Link B H)} {i : ℕ}

lemma hashBefore_succ {p : H} (hi : i < ls.length) : hashBefore p ls (i + 1) = ls[i].hash := by
  simp [hashBefore, hi]

lemma hashBefore_cons {p : H} {l : Link B H} (hi : i ≤ ls.length) :
    hashBefore p (l :: ls) (i + 1) = hashBefore l.hash ls i := by
  cases i with
  | zero => simp [hashBefore]
  | succ k => simp [hashBefore, Nat.lt_of_succ_le hi]

lemma linked_iff {hf : H → B → H} : ∀ {p : H} {ls : List (Link B H)}, Linked hf p ls ↔
    ∀ i (hi : i < ls.length), ls[i].prev = hashBefore p ls i ∧ hf ls[i].prev ls[i].body = ls[i].hash
  | p, [] => by simp [Linked]
  | p, l :: ls => by
    rw [Linked, linked_iff (p := l.hash)]
    constructor
    · rintro ⟨hprev, hhash, hrest⟩ i hi
      cases i with
      | zero => exact ⟨hprev, by rw [getElem_cons_zero, hprev]; exact hhash⟩
      | succ k =>
        have hk : k < ls.length := by simpa using hi
        rw [hashBefore_cons hk.le]
        exact hrest k hk
    · intro h
      have h0 := h 0 (by simp)
      rw [getElem_cons_zero, hashBefore] at h0
      refine ⟨h0.1, by rw [← h0.2, h0.1], fun k hk => ?_⟩
      have hk1 := h (k + 1) (by simpa using hk)
      rwa [hashBefore_cons hk.le] at hk1

section Laws

variable {hf : H → B → H} {genesis : H} (laws : HashLaws hf genesis)
include laws

lemma Linked.hash_ne_genesis (h : Linked hf genesis ls) (hi : i < ls.length) :
    ls[i].hash ≠ genesis := by
  rw [← (linked_iff.mp h i hi).2]
  exact laws.ne_genesis _ _

lemma Linked.prev_eq_genesis (h : Linked hf genesis ls) (hi : i < ls.length)
    (hprev : ls[i].prev = genesis) : i = 0 := by
  cases i with
  | zero => rfl
  | succ k =>
    have hlink := (linked_iff.mp h (k + 1) hi).1
    rw [hashBefore_succ (by omega : k < ls.length), hprev] at hlink
    exact absurd hlink.symm (h.hash_ne_genesis laws (by omega))

/-- **No hash occurs twice**: equal hashes have equal predecessors. -/
lemma Linked.hash_inj (h : Linked hf genesis ls) :
    ∀ {i j : ℕ} (hi : i < ls.length) (hj : j < ls.length), ls[i].hash = ls[j].hash → i = j
  | 0, j, hi, hj, heq => by
    have hl0 := linked_iff.mp h 0 hi
    have hlj := linked_iff.mp h j hj
    rw [← hl0.2, ← hlj.2] at heq
    have hprev := (laws.collisionFree heq).1
    rw [hl0.1] at hprev
    exact (h.prev_eq_genesis laws hj hprev.symm).symm
  | i + 1, 0, hi, hj, heq => by
    have hl0 := linked_iff.mp h 0 hj
    have hli := linked_iff.mp h (i + 1) hi
    rw [← hl0.2, ← hli.2] at heq
    have hprev := (laws.collisionFree heq).1
    rw [hl0.1] at hprev
    exact h.prev_eq_genesis laws hi hprev
  | i + 1, j + 1, hi, hj, heq => by
    have hli := linked_iff.mp h (i + 1) hi
    have hlj := linked_iff.mp h (j + 1) hj
    rw [← hli.2, ← hlj.2] at heq
    have hprev := (laws.collisionFree heq).1
    rw [hli.1, hlj.1, hashBefore_succ (by omega : i < ls.length),
      hashBefore_succ (by omega : j < ls.length)] at hprev
    rw [Linked.hash_inj h (by omega) (by omega) hprev]

lemma Linked.nodup_hashes (h : Linked hf genesis ls) : (ls.map Link.hash).Nodup := by
  rw [nodup_iff_injective_get]
  intro i j hij
  simp only [get_eq_getElem, getElem_map] at hij
  exact Fin.ext (h.hash_inj laws (by simpa using i.isLt) (by simpa using j.isLt) hij)

lemma Linked.prev_eq_hash (h : Linked hf genesis ls) {i j : ℕ} (hi : i < ls.length)
    (hj : j < ls.length) (heq : ls[j].prev = ls[i].hash) : j = i + 1 := by
  have hprev := (linked_iff.mp h j hj).1
  cases j with
  | zero =>
    rw [heq, hashBefore] at hprev
    exact absurd hprev (h.hash_ne_genesis laws hi)
  | succ k =>
    rw [heq, hashBefore_succ (by omega : k < ls.length)] at hprev
    rw [h.hash_inj laws hi (by omega) hprev]

/-- **Links that name one another in a row stand next to one another in the chain.**  The induction
takes links off the front. -/
theorem Linked.isInfix_ends (h : Linked hf genesis ls) :
    ∀ {ps : List (H × H)}, (∀ p ∈ ps, p ∈ ls.map Link.ends) → ps.IsChain (fun p q => q.1 = p.2) →
      ps <:+: ls.map Link.ends
  | [], _, _ => nil_infix
  | [p], hmem, _ => (singleton_infix_iff p _).mpr (hmem p (by simp))
  | p :: q :: ps, hmem, hchain => by
    rw [isChain_cons_cons] at hchain
    obtain ⟨pre, post, hsplit⟩ := Linked.isInfix_ends h
      (fun r hr => hmem r (mem_cons_of_mem p hr)) hchain.2
    have hlen := congrArg length hsplit
    simp only [length_append, length_cons, length_map] at hlen
    obtain ⟨i, hi, hp⟩ := getElem_of_mem (hmem p (by simp))
    have hi' : i < ls.length := by simpa using hi
    have hk : pre.length < ls.length := by omega
    have hq : (ls.map Link.ends)[pre.length]? = some q := by
      rw [← hsplit]
      simp
    rw [getElem_map] at hp
    rw [getElem?_map, getElem?_eq_getElem hk, map_some, some.injEq] at hq
    -- `p` stands right in front of `q`
    have hpos : pre.length = i + 1 := by
      refine h.prev_eq_hash laws hi' hk ?_
      have hlink := hchain.1
      rwa [← hp, ← hq] at hlink
    obtain ⟨init, x, rfl⟩ : ∃ init x, pre = init ++ [x] := by
      cases pre using reverseRecOn with
      | nil => cases hpos
      | append_singleton init x => exact ⟨init, x, rfl⟩
    have hi'' : init.length = i := by simpa using hpos
    have hx : (ls.map Link.ends)[i]? = some x := by
      rw [← hsplit, ← hi'']
      simp
    rw [getElem?_map, getElem?_eq_getElem hi', map_some, some.injEq, hp] at hx
    subst hx
    exact ⟨init, post, by rw [← hsplit]; simp⟩

end Laws

end H2Fleet
