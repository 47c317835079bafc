import Mathlib

/-!
# Periods of carbon credits

`period_bounds` and `credit_id_for_period` of the carbon-analytics service.  A credit is issued for
a text `YYYY-MM`: its row is unique by the text, and its id is computed from it.  In a Python
pattern `\d` is any decimal digit of Unicode, and `$` is also true in front of a newline that ends
the string.
-/

namespace H2Fleet.Carbon

open List Nat

/-- The decimal digits of Unicode with their values. -/
structure Decimal where
  value : Char → Option ℕ
  ascii : ∀ n < 10, value (digitChar n) = some n

/-- `int(s)` of decimal digits. -/
def int (D : Decimal) (s : List Char) : Option ℕ :=
  s.foldlM (fun n c => (D.value c).map fun d => 10 * n + d) 0

/-- `(0[1-9]|1[0-2])`. -/
def isMonth : List Char → Bool
  | ['0', c] => c ∈ "123456789".toList
  | ['1', c] => c ∈ "012".toList
  | _ => false

/-- `$`. -/
def atEnd (rest : List Char) : Bool := rest = [] ∨ rest = ['\n']

/-- `_PERIOD_RE.match`. -/
def periodRe (D : Decimal) (period : List Char) : Bool :=
  (period.take 4).length = 4 ∧ (period.take 4).all (fun c => (D.value c).isSome) ∧
    period[4]? = some '-' ∧ isMonth ((period.drop 5).take 2) ∧ atEnd (period.drop 7)

/-- Year, month and what has passed of the month, in UTC. -/
abbrev Datetime := ℕ ×ₗ ℕ ×ₗ ℕ

/-- `datetime(year, month, 1)`, an error outside the years 1 to 9999. -/
def datetime (year month : ℕ) : Option Datetime :=
  if 1 ≤ year ∧ year ≤ 9999 ∧ 1 ≤ month ∧
    month ≤ 12 then some (toLex (year, toLex (month, 0))) else none

def periodBounds (D : Decimal) (period : List Char) : Option (Datetime × Datetime) :=
  if periodRe D period then do
    let year ← int D (period.take 4)
    let month ← int D ((period.drop 5).take 2)
    let start ← datetime year month
    let stop ← (if month = 12 then datetime (year + 1) 1 else datetime year (month + 1))
    return (start, stop)
  else none

def creditIdForPeriod {ID : Type} (uuid5 : List Char → ID) (period : List Char) : ID :=
  uuid5 ("carbon-credit:".toList ++ period)

variable {D : Decimal} {p q : List Char} {b c : Datetime × Datetime}

/-- The first moments of a month and of the next. -/
def monthBounds (year month : ℕ) : Datetime × Datetime :=
  (toLex (year, toLex (month, 0)),
    if month = 12 then toLex (year + 1, toLex (1, 0)) else toLex (year, toLex (month + 1, 0)))

lemma eq_of_isMonth {m : List Char} (h : isMonth m) :
    ∃ d < 10, ∃ e < 10, m = [digitChar d, digitChar e] := by
  have hdigits : "0123456789".toList = (range 10).map digitChar := by decide
  have hdigit : ∀ c ∈ "0123456789".toList, ∃ e < 10, digitChar e = c := by simp [hdigits]
  unfold isMonth at h
  split at h
  · obtain ⟨e, he, rfl⟩ := hdigit _ (mem_cons_of_mem _ (of_decide_eq_true h))
    exact ⟨0, by decide, e, he, rfl⟩
  · obtain ⟨e, he, rfl⟩ := hdigit _ (take_subset 3 _ (of_decide_eq_true h))
    exact ⟨1, by decide, e, he, rfl⟩
  · cases h

/-- **The parts of an accepted text**: year, two digits of the month, newline. -/
lemma periodBounds_cases (h : periodBounds D p = some b) : ∃ year d e, d < 10 ∧ e < 10 ∧
    p = p.take 4 ++ '-' :: digitChar d :: digitChar e :: p.drop 7 ∧
    (p.drop 7 = [] ∨ p.drop 7 = ['\n']) ∧
    1 ≤ 10 * d + e ∧ 10 * d + e ≤ 12 ∧ b = monthBounds year (10 * d + e) := by
  simp only [periodBounds, Option.ite_none_right_eq_some, periodRe, decide_eq_true_eq, bind,
    Option.bind_eq_some_iff, atEnd] at h
  obtain ⟨⟨-, -, hdash, hmonth, hend⟩, year, -, month, hint, start, hstart, stop, hstop, hb⟩ := h
  obtain ⟨d, hd, e, he, hm⟩ := eq_of_isMonth hmonth
  have hvalue : 10 * d + e = month := by simpa [hm, int, D.ascii d hd, D.ascii e he] using hint
  subst hvalue
  obtain ⟨⟨-, -, h1, h12⟩, ⟨⟩⟩ := Option.ite_none_right_eq_some.mp hstart
  refine ⟨year, d, e, hd, he, ?_, hend, h1, h12, ?_⟩
  · obtain ⟨hlt, hget⟩ := List.getElem?_eq_some_iff.mp hdash
    have hdrop : p.drop 5 = digitChar d :: digitChar e :: p.drop 7 := by
      rw [← take_append_drop 2 (p.drop 5), hm, drop_drop]
      rfl
    conv_lhs => rw [← take_append_drop 4 p, drop_eq_getElem_cons hlt, hget, hdrop]
  · rw [← Option.some.inj hb, monthBounds]
    split_ifs at hstop ⊢
    all_goals
      obtain ⟨-, ⟨⟩⟩ := Option.ite_none_right_eq_some.mp hstop
      rfl

/-- **What a month says about its texts.**  Two accepted texts of one month are the same exactly if
the years are written alike and both or none end with a newline; different months are disjoint. -/
theorem period_identifies_month_iff {ID : Type} {uuid5 : List Char → ID}
    (huuid : Set.InjOn (creditIdForPeriod uuid5) {p | (periodBounds D p).isSome})
    (hp : periodBounds D p = some b) (hq : periodBounds D q = some c) :
    (b = c → (p = q ↔ p.take 4 = q.take 4 ∧ p.length = q.length) ∧
      (creditIdForPeriod uuid5 p = creditIdForPeriod uuid5 q ↔ p = q)) ∧
    (b ≠ c → Disjoint (Set.Ico b.1 b.2) (Set.Ico c.1 c.2)) := by
  have hids : creditIdForPeriod uuid5 p = creditIdForPeriod uuid5 q ↔ p = q :=
    huuid.eq_iff (by simp [hp]) (by simp [hq])
  obtain ⟨y, d, e, hd, he, htext, hend, h1, h12, rfl⟩ := periodBounds_cases hp
  obtain ⟨y', d', e', hd', he', htext', hend', h1', h12', rfl⟩ := periodBounds_cases hq
  refine ⟨fun hsame => ⟨⟨?_, ?_⟩, hids⟩, fun hne => ?_⟩
  · rintro rfl
    exact ⟨rfl, rfl⟩
  · rintro ⟨htake, hlen⟩
    have hmonth : y = y' ∧ 10 * d + e = 10 * d' + e' := by
      have hfst := congrArg (fun b => ofLex b.1) hsame
      simpa [monthBounds] using hfst
    obtain rfl : d = d' := by omega
    obtain rfl : e = e' := by omega
    have hrest : p.drop 7 = q.drop 7 := by
      have hdrop : (p.drop 7).length = (q.drop 7).length := by rw [length_drop, length_drop, hlen]
      rcases hend with h | h <;> rcases hend' with h' | h' <;> rw [h, h'] at hdrop ⊢ <;> cases hdrop
    rw [htext, htext', htake, hrest]
  · have hmonth : ¬ (y = y' ∧ 10 * d + e = 10 * d' + e') := by
      rintro ⟨rfl, hmonth⟩
      rw [hmonth] at hne
      exact hne rfl
    rw [Set.Ico_disjoint_Ico, min_le_iff, le_max_iff, le_max_iff]
    simp only [monthBounds]
    split_ifs <;> simp [Prod.Lex.toLex_le_toLex] <;> omega

/-- The digits of ASCII and those of full width. -/
def wideDecimal : Decimal where
  value c := if c.toNat - 0xff10 < 10 ∧ 0xff10 ≤ c.toNat then some (c.toNat - 0xff10)
    else if c.toNat - 48 < 10 ∧ 48 ≤ c.toNat then some (c.toNat - 48) else none
  ascii := by decide

/-- December and January, and two texts of one month. -/
theorem period_identifies_month_new_year :
    Disjoint (Set.Ico (monthBounds 2025 12).1 (monthBounds 2025 12).2)
      (Set.Ico (monthBounds 2026 1).1 (monthBounds 2026 1).2) ∧
    creditIdForPeriod id "2025-01".toList ≠ creditIdForPeriod id "２０２５-01".toList := by
  have hid : Set.InjOn (creditIdForPeriod id) {p | (periodBounds wideDecimal p).isSome} :=
    fun p _ q _ h => append_cancel_left h
  have hjanuary : periodBounds wideDecimal "2025-01".toList = some (monthBounds 2025 1) := by decide
  have hwide : periodBounds wideDecimal "２０２５-01".toList = some (monthBounds 2025 1) := by decide
  exact ⟨(@period_identifies_month_iff _ "2025-12".toList "2026-01".toList _ _ _ _ hid rfl rfl).2
    (by decide), ((period_identifies_month_iff hid hjanuary hwide).1 rfl).2.not.mpr (by decide)⟩

/-- **January has three texts at least**: with a newline, and in full-width digits. -/
theorem month_has_texts : "2025-01" ≠ "2025-01\n" ∧ "2025-01" ≠ "２０２５-01" ∧
    ∀ p ∈ ["2025-01", "2025-01\n", "２０２５-01"],
      periodBounds wideDecimal p.toList = some (monthBounds 2025 1) :=
  ⟨by decide, by decide, by decide⟩

end H2Fleet.Carbon
