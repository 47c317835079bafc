import Mathlib.Tactic
import Mathlib.Data.List.Basic

/-!
# Functions given by a table

A function that takes listed values on listed arguments and is some other function elsewhere.  Where
a development is parametrised by a function it cannot compute (a digest, a random id), a table puts
the values it has on a concrete run next to a fallback that keeps it injective.
-/

namespace H2Fleet

open Option

variable {α β : Type*} [BEq α] [LawfulBEq α]

omit [LawfulBEq α] in
def onTable (table : List (α × β)) (other : α → β) (a : α) : β := (table.lookup a).getD (other a)

lemma mem_of_lookup {table : List (α × β)} {a : α} {b : β} (h : table.lookup a = some b) :
    (a, b) ∈ table := by
  obtain ⟨l, r, hsplit, -⟩ := List.lookup_eq_some_iff.mp h
  rw [hsplit]
  simp

lemma onTable_injective {table : List (α × β)} {other : α → β}
    (hnodup : (table.map Prod.snd).Nodup) (hother : Function.Injective other)
    (hdisjoint : ∀ b ∈ table.map Prod.snd, ∀ a, b ≠ other a) :
    Function.Injective (onTable table other) := by
  have hlisted : ∀ {a b c}, table.lookup a = some b → b ≠ other c :=
    fun h => hdisjoint _ (List.mem_map_of_mem (mem_of_lookup h)) _
  intro a c h
  rw [onTable, onTable] at h
  cases ha : table.lookup a with
  | none =>
    cases hc : table.lookup c with
    | none =>
      rw [ha, hc, getD_none, getD_none] at h
      exact hother h
    | some d =>
      rw [ha, hc, getD_none, getD_some] at h
      exact absurd h.symm (hlisted hc)
  | some b =>
    cases hc : table.lookup c with
    | none =>
      rw [ha, hc, getD_none, getD_some] at h
      exact absurd h (hlisted ha)
    | some d =>
      rw [ha, hc, getD_some, getD_some] at h
      have hpair := List.inj_on_of_nodup_map hnodup (mem_of_lookup ha) (mem_of_lookup hc) h
      exact (Prod.mk.inj hpair).1

end H2Fleet
