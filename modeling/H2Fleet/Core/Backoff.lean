import Mathlib.Tactic
import Mathlib.Logic.Relation

/-!
# Retries with a doubling backoff under a deadline

A loop tries something until it succeeds.  After a failure it sleeps for its backoff and tries
again, if the sleep ends before the deadline; the backoff doubles up to a cap.
-/

namespace H2Fleet

/-- A retry loop: its deadline and the backoff before the next attempt. -/
structure Loop where
  deadline : ℤ
  backoff : ℤ

/-- Twice as long, up to the cap. -/
def nextBackoff (cap d : ℤ) : ℤ := if cap < 2 * d then cap else 2 * d

lemma nextBackoff_le (cap d : ℤ) : nextBackoff cap d ≤ 2 * d := by
  rw [nextBackoff]
  split_ifs with h
  · exact h.le
  · exact le_rfl

lemma le_nextBackoff {cap d m : ℤ} (hm : 0 ≤ m) (hd : m ≤ d) (hcap : m ≤ cap) :
    m ≤ nextBackoff cap d := by
  rw [nextBackoff]
  split_ifs
  · exact hcap
  · omega

/-- The sleep would end before the deadline. -/
def Loop.MayRetry (l : Loop) (now : ℤ) : Prop := now + l.backoff < l.deadline
  deriving Decidable

def Loop.next (cap : ℤ) (l : Loop) : Loop := { l with backoff := nextBackoff cap l.backoff }

/-- One failure and the sleep after it. -/
def Retried (cap : ℤ) (x y : ℤ × Loop) : Prop :=
  x.2.MayRetry x.1 ∧ y = (x.1 + x.2.backoff, x.2.next cap)

/-- A loop that slept at least half as long as it would sleep next comes to a last attempt, after a
third of the time to its deadline. -/
lemma exists_last_start_of_le {cap first deadline : ℤ} (start : ℤ) (hfirst : 0 < first)
    (hcap : first ≤ cap) :
    ∀ (fuel : ℕ) (now backoff : ℤ), deadline - now ≤ fuel → now ≤ deadline → first ≤ backoff →
      backoff ≤ 2 * (now - start) →
      ∃ (last : ℤ) (l : Loop), Relation.ReflTransGen (Retried cap) (now, ⟨deadline, backoff⟩)
      (last, l) ∧
        l.deadline = deadline ∧ now ≤ last ∧ ¬ l.MayRetry last ∧
        deadline - start ≤ 3 * (last - start)
  | 0, now, backoff, hfuel, hle, hback, hhalf => by
    push_cast at hfuel
    refine ⟨now, ⟨deadline, backoff⟩, .refl, rfl, le_rfl, ?_, by omega⟩
    show ¬ now + backoff < deadline
    omega
  | fuel + 1, now, backoff, hfuel, hle, hback, hhalf => by
    push_cast at hfuel
    by_cases hretry : now + backoff < deadline
    · have hnext := nextBackoff_le cap backoff
      obtain ⟨last, l, hreach, hdead, hafter, hlast, hthird⟩ :=
        exists_last_start_of_le start hfirst hcap fuel (now + backoff) (nextBackoff cap backoff)
          (by omega) hretry.le (le_nextBackoff hfirst.le hback hcap) (by omega)
      exact ⟨last, l, .head ⟨hretry, rfl⟩ hreach, hdead, by omega, hlast, hthird⟩
    · exact ⟨now, ⟨deadline, backoff⟩, .refl, rfl, le_rfl, hretry, by omega⟩

/-- **The last attempt of a loop that fails at once** is after a third of its budget. -/
theorem exists_last_start {cap first budget : ℤ} (hfirst : 0 < first) (hcap : first ≤ cap)
    (hbudget : first < budget) (start : ℤ) :
    ∃ (last : ℤ) (l : Loop),
      Relation.ReflTransGen (Retried cap) (start, ⟨start + budget, first⟩) (last, l) ∧
      l.deadline = start + budget ∧ start ≤ last ∧ ¬ l.MayRetry last ∧
      budget ≤ 3 * (last - start) := by
  have hretry : start + first < start + budget := by omega
  have hnext := nextBackoff_le cap first
  obtain ⟨last, l, hreach, hdead, hafter, hlast, hthird⟩ :=
    exists_last_start_of_le start hfirst hcap (budget - first).toNat (start + first)
      (nextBackoff cap first) (by omega) hretry.le (le_nextBackoff hfirst.le le_rfl hcap)
      (by omega)
  exact ⟨last, l, .head ⟨hretry, rfl⟩ hreach, hdead, by omega, hlast, by omega⟩

end H2Fleet
