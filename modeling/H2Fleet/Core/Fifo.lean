import Mathlib.Order.Basic
import Mathlib.Data.List.Basic
import Mathlib.Tactic

/-!
# The order of first confirmations

Items are sent in calls, and a call confirms some of them.  An item may be confirmed more than once;
what counts is the first call that does.  `FirstInOrder` says that the first confirmations follow
the order of the items, call by call.

**What can break it.**  An item that is still pending, has never been confirmed, and has a greater
one confirmed already.  `Line` is the state of affairs in which there is none.
-/

namespace H2Fleet.Fifo

open List

variable {α : Type*}

def Confirmed (calls : List (List α)) (a : α) : Prop := ∃ call ∈ calls, a ∈ call

lemma not_confirmed_nil {a : α} : ¬ Confirmed [] a := by
  simp [Confirmed]

@[simp] lemma confirmed_append {calls : List (List α)} {sent : List α} {a : α} :
    Confirmed (calls ++ [sent]) a ↔ Confirmed calls a ∨ a ∈ sent := by
  simp [Confirmed]

variable [LinearOrder α]

/-- The place of the first call that confirmed the item. -/
def firstCall (calls : List (List α)) (a : α) : ℕ := calls.findIdx fun call => a ∈ call

/-- Of two confirmed items, the lesser was confirmed in the same call or before. -/
def FirstInOrder (calls : List (List α)) : Prop :=
  ∀ a b, a < b → Confirmed calls a → Confirmed calls b → firstCall calls a ≤ firstCall calls b

variable {calls : List (List α)} {sent : List α} {a b : α}

lemma firstCall_lt_iff : firstCall calls a < calls.length ↔ Confirmed calls a := by
  simp [firstCall, Confirmed, findIdx_lt_length]

lemma firstCall_append_of_confirmed (h : Confirmed calls a) :
    firstCall (calls ++ [sent]) a = firstCall calls a := by
  have hlt := firstCall_lt_iff.mpr h
  rw [firstCall] at hlt
  simp only [firstCall, findIdx_append, if_pos hlt]

lemma firstCall_append_of_not_confirmed (h : ¬ Confirmed calls a) :
    calls.length ≤ firstCall (calls ++ [sent]) a := by
  have hge := not_lt.mp (mt firstCall_lt_iff.mp h)
  rw [firstCall] at hge
  simp only [firstCall, findIdx_append, if_neg (not_lt.mpr hge)]
  omega

/-- What is pending, with no item overtaken. -/
structure Line (calls : List (List α)) (pending : List α) : Prop where
  sorted : pending.Pairwise (· < ·)
  inOrder : FirstInOrder calls
  behind : ∀ a ∈ pending, ¬ Confirmed calls a → ∀ b, Confirmed calls b → ¬ a < b

lemma Line.firstInOrder_send {pending : List α} (h : Line calls pending) (hsent : sent ⊆ pending) :
    FirstInOrder (calls ++ [sent]) := by
  intro a b hab ha hb
  rw [confirmed_append] at ha hb
  by_cases hold : Confirmed calls a
  · rw [firstCall_append_of_confirmed hold]
    by_cases hbold : Confirmed calls b
    · rw [firstCall_append_of_confirmed hbold]
      exact h.inOrder a b hab hold hbold
    · exact (firstCall_lt_iff.mpr hold).le.trans (firstCall_append_of_not_confirmed hbold)
  · -- the lesser one was pending until now, so the greater one is not older
    have hbold : ¬ Confirmed calls b := fun hb' =>
      h.behind a (hsent (ha.resolve_left hold)) hold b hb' hab
    have hlast := firstCall_lt_iff.mpr (confirmed_append.mpr ha)
    have := @firstCall_append_of_not_confirmed _ _ _ sent _ hbold
    rw [length_append, length_singleton] at hlast
    omega

/-- **A call keeps the line**, if no item handed back has a greater one confirmed. -/
theorem Line.send {chunk pending : List α} (rest : List α) (h : Line calls (chunk ++ rest))
    (hsent : sent ⊆ chunk) (hpending : pending.Sublist (chunk ++ rest))
    (hfair : ∀ a ∈ chunk, a ∈ pending → a ∉ sent → ¬ Confirmed calls a → ∀ b ∈ sent, ¬ a < b) :
    Line (calls ++ [sent]) pending where
  sorted := h.sorted.sublist hpending
  inOrder := h.firstInOrder_send fun _ ha => mem_append_left _ (hsent ha)
  behind a ha hnot b hb hab := by
    rw [confirmed_append, not_or] at hnot
    rcases confirmed_append.mp hb with hb | hb
    · exact h.behind a (hpending.subset ha) hnot.1 b hb hab
    · rcases mem_append.mp (hpending.subset ha) with hchunk | hrest
      · exact hfair a hchunk ha hnot.2 hnot.1 b hb hab
      · exact lt_asymm hab ((pairwise_append.mp h.sorted).2.2 b (hsent hb) a hrest)

lemma Line.push {pending : List α} (h : Line calls pending) (hpending : ∀ b ∈ pending, b < a)
    (hcalls : ∀ b, Confirmed calls b → b < a) : Line calls (pending ++ [a]) where
  sorted := pairwise_append.mpr ⟨h.sorted, pairwise_singleton _ _, fun b hb c hc => by
    rw [mem_singleton.mp hc]
    exact hpending b hb⟩
  inOrder := h.inOrder
  behind c hc hnot b hb hcb := by
    rcases mem_append.mp hc with hc | hc
    · exact h.behind c hc hnot b hb hcb
    · rw [mem_singleton.mp hc] at hcb
      exact lt_asymm hcb (hcalls b hb)

end H2Fleet.Fifo
