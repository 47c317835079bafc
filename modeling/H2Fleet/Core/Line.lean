import Mathlib.Tactic
import Mathlib.Data.List.Basic

/-!
# Lines of offsets

A consumer takes the records of a log in order and holds some of them in a line — a channel, a
buffer, a batch — before they are done with.  A number written down as the place to resume from is
right when everything live below it is safe; `Covered` is the invariant of the line that makes such
numbers available: everything live below an offset of the line is safe or ahead of it.

`live` says which offsets of the log count, `safe` which of them are done with; both are arbitrary.
-/

namespace H2Fleet

variable {live safe safe' : ℕ → Prop}

/-- Everything live below `v` is safe. -/
def Below (live safe : ℕ → Prop) (v : ℕ) : Prop := ∀ o < v, live o → safe o

/-- Everything live below an offset of the line is safe or ahead of it. -/
def Covered (live : ℕ → Prop) : (ℕ → Prop) → List ℕ → Prop
  | _, [] => True
  | safe, o :: line => Below live safe o ∧ Covered live (fun x => safe x ∨ x = o) line

lemma Below.mono (h : ∀ x, safe x → safe' x) {v : ℕ} (hb : Below live safe v) :
    Below live safe' v :=
  fun o ho hlive => h o (hb o ho hlive)

lemma Covered.mono : ∀ {line : List ℕ} {safe safe' : ℕ → Prop}, (∀ x, safe x → safe' x) →
    Covered live safe line → Covered live safe' line
  | [], _, _, _, _ => trivial
  | _ :: _, _, _, h, hc => ⟨hc.1.mono h, hc.2.mono fun x hx => hx.imp_left (h x)⟩

lemma covered_append : ∀ {a b : List ℕ} {safe : ℕ → Prop},
    Covered live safe (a ++ b) ↔ Covered live safe a ∧ Covered live (fun x => safe x ∨ x ∈ a) b
  | [], b, safe => by simp [Covered]
  | o :: a, b, safe => by
    rw [List.cons_append, Covered, Covered, covered_append, and_assoc]
    simp only [List.mem_cons, or_assoc]

lemma Covered.drop {a b : List ℕ} (h : Covered live safe (a ++ b)) (ha : ∀ x ∈ a, safe x) :
    Covered live safe b :=
  (covered_append.mp h).2.mono fun x hx => hx.elim id (ha x)

variable {line : List ℕ}

lemma Covered.move {p q : ℕ} (h : Covered live safe (line ++ [p]))
    (hgap : ∀ k < q, p ≤ k → ¬ live k) : Covered live safe (line ++ [q]) := by
  obtain ⟨hline, hp, -⟩ := covered_append.mp h
  refine covered_append.mpr ⟨hline, fun x hx hlive => ?_, trivial⟩
  rcases lt_or_ge x p with hxp | hxp
  · exact hp x hxp hlive
  · exact absurd hlive (hgap x hx hxp)

lemma Covered.advance {p o : ℕ} (h : Covered live safe (line ++ [p]))
    (hgap : ∀ k < o, p ≤ k → ¬ live k) : Covered live safe (line ++ [o, o + 1]) := by
  obtain ⟨hline, ho, -⟩ := covered_append.mp (h.move hgap)
  refine covered_append.mpr ⟨hline, ho, fun x hx hlive => ?_, trivial⟩
  rcases Nat.lt_succ_iff_lt_or_eq.mp hx with hxo | rfl
  · exact .inl (ho x hxo hlive)
  · exact .inr rfl

lemma Covered.below_mem : ∀ {line : List ℕ} {safe : ℕ → Prop}, Covered live safe line →
    ∀ {m : ℕ}, m ∈ line → Below live (fun x => safe x ∨ x ∈ line) (m + 1)
  | o :: line, safe, h, m, hm => by
    intro x hx hlive
    rcases List.mem_cons.mp hm with rfl | hm
    · rcases Nat.lt_succ_iff_lt_or_eq.mp hx with hlt | rfl
      · exact .inl (h.1 x hlt hlive)
      · exact .inr List.mem_cons_self
    · rcases h.2.below_mem hm x hx hlive with (hsafe | rfl) | hmem
      · exact .inl hsafe
      · exact .inr List.mem_cons_self
      · exact .inr (List.mem_cons_of_mem _ hmem)

lemma Covered.skip {o p : ℕ} (h : Covered live safe (line ++ [o, p])) (ho : safe o) :
    Covered live safe (line ++ [p]) := by
  obtain ⟨hline, -, hp, -⟩ := covered_append.mp h
  refine covered_append.mpr ⟨hline, hp.mono fun x hx => ?_, trivial⟩
  rcases hx with hx | rfl
  · exact hx
  · exact .inl ho

end H2Fleet
