import H2Fleet.Core.Allocator
import H2Fleet.Commerce.Accounts

/-!
# Ledger account numbers

Two tables number the accounts the service opens: `commerce.rider_accounts` from 1001 on
(`riderAccount`) and `commerce.billing_accounts` from 5001 on (`CreateBillingAccount`).  Both take
the largest number plus one and try three times; neither knows where the range ends that
`EnsureAccount` caps.
-/

namespace H2Fleet.Commerce

open List Option Ledger

/-! ## The two tables -/

structure Directory where
  riders : Allocator String
  billing : Allocator String

def Directory.init : Directory := ⟨.init, .init⟩

/-- A rider uses the wallet, a billing account is created, or a transaction takes a step. -/
inductive DirectoryEvent where
  | useWallet (rider : String)
  | createBillingAccount
  | riderStep (e : AllocEvent String)
  | billingStep (e : AllocEvent String)

def firstBillingAccountID : ℕ := 5001

/-- `for attempt := 0; attempt < 3; attempt++`. -/
def allocAttempts : ℕ := 3

def Directory.step (s : Directory) : DirectoryEvent → Option Directory
  | .useWallet rider =>
    (s.riders.step 1000 allocAttempts (.start (some rider))).map fun a => { s with riders := a }
  | .createBillingAccount =>
    (s.billing.step (firstBillingAccountID - 1) allocAttempts (.start none)).map fun a =>
      { s with billing := a }
  | .riderStep e =>
    if e.continues then
      (s.riders.step 1000 allocAttempts e).map fun a => { s with riders := a }
    else none
  | .billingStep e =>
    if e.continues then
      (s.billing.step (firstBillingAccountID - 1) allocAttempts e).map fun a =>
        { s with billing := a }
    else none

def platformAccounts : List ℕ :=
  [operatorRevenueAccount, riderFundingAccount, energyTradeAccount,
    carbonFundAccount, carbonIssuanceAccount]

/-- **What the ranges are for.** -/
structure Separated (s : Directory) : Prop where
  unique : s.riders.numbers.Nodup
  capped : ∀ a ∈ s.riders.numbers, (accountFor a codeFare).capped = true
  platform : ∀ a ∈ s.riders.numbers, a ∉ platformAccounts
  clearing : ∀ a ∈ s.riders.numbers, a ∉ s.billing.numbers
  billing : ∀ a ∈ s.billing.numbers, isBillingAccount a = true

/-! ## Every run -/

/-- Both tables hand out consecutive numbers. -/
structure Directory.Contiguous (s : Directory) : Prop where
  riders : s.riders.Contiguous 1000
  billing : s.billing.Contiguous 5000

lemma Directory.Contiguous.init : Directory.init.Contiguous := ⟨.init, .init⟩

lemma Directory.Contiguous.step {s s' : Directory} {e : DirectoryEvent} (h : s.Contiguous)
    (hstep : s.step e = some s') : s'.Contiguous := by
  cases e with
  | useWallet rider =>
    rw [Directory.step, map_eq_some_iff] at hstep
    obtain ⟨a, ha, rfl⟩ := hstep
    exact ⟨h.riders.step ha, h.billing⟩
  | createBillingAccount =>
    rw [Directory.step, map_eq_some_iff] at hstep
    obtain ⟨a, ha, rfl⟩ := hstep
    exact ⟨h.riders, h.billing.step ha⟩
  | riderStep e =>
    rw [Directory.step, ite_none_right_eq_some] at hstep
    obtain ⟨a, ha, rfl⟩ := map_eq_some_iff.mp hstep.2
    exact ⟨h.riders.step ha, h.billing⟩
  | billingStep e =>
    rw [Directory.step, ite_none_right_eq_some] at hstep
    obtain ⟨a, ha, rfl⟩ := map_eq_some_iff.mp hstep.2
    exact ⟨h.riders, h.billing.step ha⟩

/-- **How long the numbers are separated.**  The wallet of the 1000th rider is account 2000, which
`EnsureAccount` does not cap; the next two are the platform's own.  The 1000th billing account is
6000. -/
theorem separated_iff {s : Directory} {es : List DirectoryEvent}
    (h : run Directory.step .init es = some s) :
    Separated s ↔ s.riders.rows.length ≤ 999 ∧ s.billing.rows.length ≤ 999 := by
  have hs : s.Contiguous := run_invariant_always (fun _ _ _ hs hstep => hs.step hstep) .init h
  have hriders := hs.riders.mem_numbers
  have hbilling := hs.billing.mem_numbers
  constructor
  · intro hsep
    constructor
    · by_contra hmany
      have hcapped := hsep.capped 2000 ((hriders 2000).mpr (by omega))
      revert hcapped
      decide
    · by_contra hmany
      have hrange := hsep.billing 6000 ((hbilling 6000).mpr (by omega))
      revert hrange
      decide
  · rintro ⟨hr, hb⟩
    refine ⟨?_, ?_, ?_, ?_, ?_⟩
    · rw [hs.riders.numbers]
      exact nodup_range'
    · intro a ha
      rw [hriders] at ha
      have hwallet : isRiderWallet a = true := decide_eq_true (by omega)
      simp [accountFor, hwallet]
    · intro a ha hplatform
      rw [hriders] at ha
      simp only [platformAccounts, operatorRevenueAccount, riderFundingAccount,
        energyTradeAccount, carbonFundAccount, carbonIssuanceAccount,
        mem_cons, not_mem_nil, or_false] at hplatform
      omega
    · intro a ha hclearing
      rw [hriders] at ha
      rw [hbilling] at hclearing
      omega
    · intro a ha
      rw [hbilling] at ha
      exact decide_eq_true (by omega)

/-! ## The step of the payment handlers

`State.riderAccount` allocates in one step.  It does what a transaction does that nobody interrupts.
-/

section Atomic

variable {ID : Type}

def Holds (a : Allocator String) (s : State ID) : Prop :=
  a.rows = s.accounts.map fun r => (some r.1, r.2)

variable {a : Allocator String} {s : State ID}

lemma Holds.owned (h : Holds a s) (rider : String) : a.owned (some rider) = s.account? rider := by
  rw [Holds] at h
  simp only [Allocator.owned, bind_some, State.account?, h, find?_map, Option.map_map,
    Function.comp_def, some.injEq]

lemma Holds.candidate (h : Holds a s) : a.candidate 1000 = s.nextAccount := by
  have hnumbers : a.numbers = s.accounts.map Prod.snd := by
    rw [Allocator.numbers, h, List.map_map]
    rfl
  rw [Allocator.candidate, hnumbers, State.nextAccount]

/-- **`riderAccount` in one step** is the allocation without interruption. -/
lemma Holds.riderAccount (h : Holds a s) (hcontiguous : a.Contiguous 1000)
    (hquiet : ∀ d ∈ a.calls, d.pc.pending = none) {rider : String}
    (hnew : s.account? rider = none) : ∃ a', run (Allocator.step 1000 allocAttempts) a
        (Allocator.allocation (some rider) a.calls.length) = some a' ∧
      Holds a' (s.riderAccount rider).1 := by
  refine ⟨_, hcontiguous.allocate allocAttempts ((h.owned rider).trans hnew) hquiet, ?_⟩
  rw [← hcontiguous.candidate, h.candidate]
  rw [Holds] at h
  simp [Holds, State.riderAccount, hnew, h]

end Atomic

/-! ## Riders one after another -/

def walletEvent : AllocEvent String → DirectoryEvent
  | .start (some rider) => .useWallet rider
  | e => .riderStep e

lemma step_walletEvent (s : Directory) {e : AllocEvent String} (he : e ≠ .start none) :
    s.step (walletEvent e) =
      (s.riders.step 1000 allocAttempts e).map fun a => { s with riders := a } := by
  cases e with
  | start key =>
    cases key with
    | none => exact absurd rfl he
    | some rider => rfl
  | read i | insert i | commit i | crash i => rfl

lemma run_walletEvents {es : List (AllocEvent String)} (hes : ∀ e ∈ es, e ≠ .start none)
    (s : Directory) :
    run Directory.step s (es.map walletEvent) =
      (run (Allocator.step 1000 allocAttempts) s.riders es).map fun a =>
      { s with riders := a } := by
  induction es generalizing s with
  | nil => rfl
  | cons e es ih =>
    have hrest : ∀ e ∈ es, e ≠ .start none := fun e he => hes e (mem_cons_of_mem _ he)
    rw [map_cons, run_cons, run_cons, step_walletEvent s (hes e mem_cons_self)]
    cases s.riders.step 1000 allocAttempts e with
    | none => rfl
    | some a => exact ih hrest _

/-- The transactions of the first `n` riders, one after another. -/
def walletAllocations (n : ℕ) : List (AllocEvent String) :=
  (range n).flatMap fun i => Allocator.allocation (some (numbered "rider" i)) i

def walletTable (n : ℕ) : Allocator String where
  rows := (range n).map fun i => (some (numbered "rider" i), 1000 + i + 1)
  calls := (range n).map fun i => ⟨some (numbered "rider" i), 0, .done (1000 + i + 1)⟩

lemma mem_walletTable {i n : ℕ} (h : i < n) :
    (some (numbered "rider" i), 1000 + i + 1) ∈ (walletTable n).rows :=
  mem_map.mpr ⟨i, mem_range.mpr h, rfl⟩

lemma run_walletAllocations (n : ℕ) :
    run (Allocator.step 1000 allocAttempts) .init (walletAllocations n) = some (walletTable n) := by
  induction n with
  | zero => rfl
  | succ n ih =>
    have hcontiguous : (walletTable n).Contiguous 1000 :=
      run_invariant_always (fun _ _ _ hs hstep => hs.step hstep) .init ih
    have hnew : (walletTable n).owned (some (numbered "rider" n)) = none := by
      simp only [Allocator.owned, bind_some, map_eq_none_iff, find?_eq_none,
        walletTable, List.mem_map, mem_range, decide_eq_true_eq]
      rintro _ ⟨i, hi, rfl⟩ heq
      have := (numbered_inj (some.inj heq)).2
      omega
    have hquiet : ∀ d ∈ (walletTable n).calls, d.pc.pending = none := by
      intro d hd
      obtain ⟨i, -, rfl⟩ := mem_map.mp hd
      rfl
    have hlength : (walletTable n).calls.length = n ∧ (walletTable n).rows.length = n := by
      simp [walletTable]
    have hlast := hcontiguous.allocate allocAttempts hnew hquiet
    rw [hlength.1, hlength.2] at hlast
    rw [walletAllocations, range_succ, flatMap_append, run_append, ← walletAllocations, ih]
    simp only [bind_some, flatMap_cons, flatMap_nil, append_nil, hlast]
    simp [walletTable, range_succ]

lemma walletAllocations_start {n : ℕ} : ∀ e ∈ walletAllocations n, e ≠ .start none := by
  intro e he
  obtain ⟨i, -, hi⟩ := mem_flatMap.mp he
  simp only [Allocator.allocation, mem_cons, not_mem_nil, or_false] at hi
  rcases hi with rfl | rfl | rfl | rfl <;> simp

def newRiders (n : ℕ) : List DirectoryEvent := (walletAllocations n).map walletEvent

lemma run_newRiders (n : ℕ) :
    run Directory.step .init (newRiders n) = some ⟨walletTable n, .init⟩ := by
  rw [newRiders, run_walletEvents walletAllocations_start]
  show (run (Allocator.step 1000 allocAttempts) .init (walletAllocations n)).map _ = _
  rw [run_walletAllocations]
  rfl

/-- 999 riders have 999 separate wallets. -/
theorem separated_iff_full_range : Separated ⟨walletTable 999, .init⟩ := by
  refine (separated_iff (run_newRiders 999)).mpr ⟨?_, ?_⟩
  · simp [walletTable]
  · exact Nat.zero_le _

/-- **The 1001st rider's wallet is the operator's revenue account.** -/
theorem rider_gets_revenue_account : ∃ s, run Directory.step .init (newRiders 1001) = some s ∧
      (some (numbered "rider" 1000), operatorRevenueAccount) ∈ s.riders.rows ∧ ¬ Separated s := by
  have hmem : (some (numbered "rider" 1000), operatorRevenueAccount) ∈
      (walletTable 1001).rows := mem_walletTable (by omega)
  refine ⟨_, run_newRiders 1001, hmem, fun hsep => ?_⟩
  refine hsep.platform _ (mem_map_of_mem hmem) ?_
  decide

end H2Fleet.Commerce
