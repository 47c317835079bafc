import H2Fleet.Commerce.Fare
import Mathlib.Data.Finset.Sort

/-!
# The daily revenue report

`GET /v1/analytics/revenue-daily` groups the payments and the trades of a window by day, puts the
trades into a map and looks each day of the payments up in it.  So a day without payments has no
row, whatever was traded on it.  The money of a day is the sum of `amount_minor`, the fare before
the daily cap.
-/

namespace H2Fleet.Commerce

variable {δ α β ID : Type} [LinearOrder δ]

/-! ## Groups -/

/-- The distinct days in order, each with the aggregate of its rows. -/
def groupByDay (day : α → δ) (aggregate : List α → β) (rows : List α) : List (δ × β) :=
  ((rows.map day).toFinset.sort (· ≤ ·)).map fun d => (d, aggregate (rows.filter (day · = d)))

def setDay (m : δ → Option β) (p : δ × β) : δ → Option β := Function.update m p.1 (some p.2)

lemma foldl_setDay (f : δ → β) (days : List δ) (m : δ → Option β) (d : δ) :
    (days.map fun d => (d, f d)).foldl setDay m d = if d ∈ days then some (f d) else m d := by
  induction days generalizing m with
  | nil => rfl
  | cons d' days ih =>
    rw [List.map_cons, List.foldl_cons, ih, setDay, Function.update_apply]
    by_cases hd : d = d' <;> simp [hd]

lemma sum_days (day : α → δ) {days : Finset δ} (v : α → ℤ) {rows : List α}
    (h : ∀ x ∈ rows, day x ∈ days) :
    ∑ d ∈ days, ((rows.filter (day · = d)).map v).sum = (rows.map v).sum := by
  induction rows with
  | nil => simp
  | cons x rows ih =>
    have hx : ∀ d, (((x :: rows).filter (day · = d)).map v).sum =
        (if day x = d then v x else 0) + ((rows.filter (day · = d)).map v).sum := by
      intro d
      by_cases hd : day x = d <;> simp [hd]
    simp only [hx, Finset.sum_add_distrib, Finset.sum_ite_eq, h x List.mem_cons_self, if_true,
      ih fun y hy => h y (List.mem_cons_of_mem _ hy), List.map_cons, List.sum_cons]

/-! ## The report -/

/-- What the report reads of a trade; `counts` is `status in ('executed','settled')`. -/
structure TradeRow where
  createdAt : ℤ
  priceMinor : ℤ
  counts : Bool

/-- The rows in the window, and how the database finds the day. -/
structure Window (δ ID : Type) where
  day : ℤ → δ
  payments : List (Payment ID)
  trades : List TradeRow

structure RevenueRow (δ : Type) where
  day : δ
  payments : ℕ
  settledMinor : ℤ
  trades : ℕ
  tradesMinor : ℤ
  deriving DecidableEq

/-- The sums that `revenueDailySchema` wants to be `nonnegative`; counts are. -/
def RevenueRow.valid (r : RevenueRow δ) : Bool := 0 ≤ r.settledMinor ∧ 0 ≤ r.tradesMinor

def settledSum (v : Payment ID → ℤ) (rows : List (Payment ID)) : ℤ :=
  ((rows.filter (·.status = .settled)).map v).sum

def tradeSum (rows : List TradeRow) : ℤ := ((rows.filter (·.counts)).map (·.priceMinor)).sum

namespace Window

open List

/-- The two tables, from the moment `since` on. -/
def ofTables (day : ℤ → δ) (since : ℤ) (payments : List (Payment ID)) (trades : List TradeRow) :
    Window δ ID :=
  ⟨day, payments.filter (since ≤ ·.createdAt), trades.filter (since ≤ ·.createdAt)⟩

variable (w : Window δ ID)

def fares : List (δ × ℕ × ℤ) :=
  groupByDay (w.day ·.createdAt) (fun ps => (ps.length, settledSum (·.amountMinor) ps)) w.payments

def tradeRows : List (δ × ℕ × ℤ) :=
  groupByDay (w.day ·.createdAt) (fun ts => (ts.length, tradeSum ts)) w.trades

def rows : List (RevenueRow δ) :=
  let byDay := w.tradeRows.foldl setDay fun _ => none
  w.fares.map fun f =>
    ⟨f.1, f.2.1, f.2.2, ((byDay f.1).map (·.1)).getD 0, ((byDay f.1).map (·.2)).getD 0⟩

/-- The handler; without a value, the schema has thrown. -/
def revenueDaily : Option (List (RevenueRow δ)) :=
  if w.rows.all RevenueRow.valid then some w.rows else none

def paymentsOf (d : δ) : List (Payment ID) := w.payments.filter (w.day ·.createdAt = d)

def tradesOf (d : δ) : List TradeRow := w.trades.filter (w.day ·.createdAt = d)

/-- **The report is complete**: a row for each day on which something was created, in order; the
trades add up; and the money of a day is what was charged. -/
structure Complete (report : List (RevenueRow δ)) : Prop where
  order : (report.map (·.day)).Pairwise (· < ·)
  days : ∀ d, d ∈ report.map (·.day) ↔
    (∃ p ∈ w.payments, w.day p.createdAt = d) ∨ ∃ t ∈ w.trades, w.day t.createdAt = d
  trades : (report.map (·.tradesMinor)).sum = tradeSum w.trades
  settled : ∀ r ∈ report, r.settledMinor = settledSum Payment.effectiveCharged (w.paymentsOf r.day)

/-! ## When it is complete -/

def fareDays : Finset δ := (w.payments.map (w.day ·.createdAt)).toFinset

def rowOf (d : δ) : RevenueRow δ :=
  ⟨d, (w.paymentsOf d).length, settledSum (·.amountMinor) (w.paymentsOf d), (w.tradesOf d).length,
    tradeSum (w.tradesOf d)⟩

lemma rows_eq : w.rows = (w.fareDays.sort (· ≤ ·)).map w.rowOf := by
  have htrades : w.tradeRows = ((w.trades.map (w.day ·.createdAt)).toFinset.sort (· ≤ ·)).map
    fun d =>
      (d, (w.tradesOf d).length, tradeSum (w.tradesOf d)) := rfl
  rw [rows, fares, groupByDay, map_map, htrades]
  refine map_congr_left fun d _ => ?_
  simp only [Function.comp_apply, foldl_setDay, Finset.mem_sort, mem_toFinset]
  split_ifs with hd
  · rfl
  · have hnone : w.tradesOf d = [] := by simpa [tradesOf, filter_eq_nil_iff] using hd
    rw [rowOf, hnone]
    rfl

lemma map_day_rows : w.rows.map (·.day) = w.fareDays.sort (· ≤ ·) := by
  rw [rows_eq, map_map]
  exact map_id _

lemma mem_rows {r : RevenueRow δ} : r ∈ w.rows ↔ ∃ d ∈ w.fareDays, w.rowOf d = r := by
  simp only [rows_eq, mem_map, Finset.mem_sort]

lemma settledSum_eq_iff {ps : List (Payment ID)} (h : ∀ p ∈ ps, p.effectiveCharged ≤ p.amountMinor)
    : settledSum (·.amountMinor) ps = settledSum Payment.effectiveCharged ps ↔
      ∀ p ∈ ps, p.status = .settled → p.effectiveCharged = p.amountMinor := by
  induction ps with
  | nil => simp [settledSum]
  | cons p ps ih =>
    obtain ⟨hp, hps⟩ := forall_mem_cons.mp h
    have hle : settledSum Payment.effectiveCharged ps ≤ settledSum (·.amountMinor) ps :=
      sum_le_sum fun q hq => hps q (mem_of_mem_filter hq)
    rw [forall_mem_cons, ← ih hps]
    by_cases hs : p.status = .settled
    · have hsum : ∀ v : Payment ID → ℤ, settledSum v (p :: ps) = v p + settledSum v ps := by
        simp [settledSum, hs]
      rw [hsum, hsum]
      constructor
      · intro heq
        exact ⟨fun _ => by omega, by omega⟩
      · rintro ⟨heq, hrest⟩
        rw [heq hs, hrest]
    · simp [settledSum, hs]

/-- **When the report is complete**: the schema takes every row, each day with a trade has a
payment, and the fares of each day are what was charged: no settled payment was charged less. -/
theorem revenueDaily_complete_iff : ((∃ report, w.revenueDaily = some report ∧ w.Complete report) ↔
    (∀ d ∈ w.fareDays, (w.rowOf d).valid = true ∧
      settledSum (·.amountMinor) (w.paymentsOf d) = settledSum Payment.effectiveCharged
      (w.paymentsOf d)) ∧
    ∀ t ∈ w.trades, w.day t.createdAt ∈ w.fareDays) ∧
    ∀ d, (∀ p ∈ w.paymentsOf d, p.effectiveCharged ≤ p.amountMinor) →
      (settledSum (·.amountMinor) (w.paymentsOf d) = settledSum Payment.effectiveCharged
      (w.paymentsOf d) ↔
        ∀ p ∈ w.paymentsOf d, p.status = .settled → p.effectiveCharged = p.amountMinor) := by
  refine ⟨⟨?_, ?_⟩, fun d => settledSum_eq_iff⟩
  · rintro ⟨report, hreport, hcomplete⟩
    rw [revenueDaily] at hreport
    split_ifs at hreport with hvalid
    cases hreport
    constructor
    · intro d hd
      have hrow := w.mem_rows.mpr ⟨d, hd, rfl⟩
      exact ⟨all_eq_true.mp hvalid _ hrow, hcomplete.settled _ hrow⟩
    · intro t ht
      have hday := (hcomplete.days _).mpr (.inr ⟨t, ht, rfl⟩)
      rwa [map_day_rows, Finset.mem_sort] at hday
  · rintro ⟨hrows, htrades⟩
    refine ⟨_, if_pos (all_eq_true.mpr fun r hr => ?_), ?_, fun d => ?_, ?_, fun r hr => ?_⟩
    · obtain ⟨d, hd, rfl⟩ := w.mem_rows.mp hr
      exact (hrows d hd).1
    · rw [map_day_rows]
      exact (Finset.sortedLT_sort _).pairwise
    · simp only [map_day_rows, Finset.mem_sort, fareDays, mem_toFinset, mem_map]
      refine ⟨.inl, ?_⟩
      rintro (hd | ⟨t, ht, rfl⟩)
      · exact hd
      · simpa [fareDays] using htrades t ht
    · rw [rows_eq, map_map, ← sum_toFinset _ (Finset.sort_nodup _ _), Finset.sort_toFinset,
        tradeSum, ← sum_days (w.day ·.createdAt) _ fun t ht => htrades t (mem_of_mem_filter ht)]
      refine Finset.sum_congr rfl fun d _ => ?_
      simp only [Function.comp_apply, rowOf, tradesOf, tradeSum, filter_filter, Bool.and_comm]
    · obtain ⟨d, hd, rfl⟩ := w.mem_rows.mp hr
      exact (hrows d hd).2

def tradeOnly : Window ℤ ℕ := ofTables (· / 86400) 0 [] [⟨0, 900, true⟩]

def cappedRide : Window ℤ ℕ :=
  ofTables (· / 86400) 0 [⟨"p", "rider-1", 250, some 100, "EUR", none, none, none, .settled, 0, 0⟩]
    []

/-- A day with a trade only has no row, and a ride of 250 capped to 100 is reported as 250. -/
theorem revenueDaily_incomplete :
    (tradeOnly.revenueDaily = some [] ∧ ¬ tradeOnly.Complete []) ∧
      cappedRide.revenueDaily = some [⟨0, 1, 250, 0, 0⟩] ∧
      ¬ cappedRide.Complete [⟨0, 1, 250, 0, 0⟩] := by
  refine ⟨⟨by decide +kernel, fun h => ?_⟩, by decide +kernel, fun h => ?_⟩
  · exact absurd ((h.days 0).mpr (.inr ⟨_, mem_cons_self, rfl⟩)) not_mem_nil
  · exact absurd (h.settled _ mem_cons_self) (by decide +kernel)

end H2Fleet.Commerce.Window
