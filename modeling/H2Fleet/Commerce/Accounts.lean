import H2Fleet.Commerce.Steps

/-!
# Wallet accounts

`riderAccount` numbers the wallets from 1001 on and knows no end: the wallet of the 1001st rider is
account 2001, the operator's revenue.  As long as no wallet is a platform account, a ledger call for
one rider leaves the wallets of all others alone.
-/

namespace H2Fleet.Commerce

open State

variable {ID : Type} {s s' : State ID} {rider : String}

lemma lt_nextAccount {a : ℕ} (h : s.account? rider = some a) : a < s.nextAccount := by
  have hmem : a ∈ s.accounts.map Prod.snd := List.mem_map_of_mem (account?_mem h)
  rw [nextAccount]
  cases hmax : (s.accounts.map Prod.snd).max? with
  | none =>
    rw [List.max?_eq_none_iff] at hmax
    rw [hmax] at hmem
    cases hmem
  | some m =>
    have hle := (List.max?_eq_some_iff.mp hmax).2 a hmem
    simp only [Option.getD_some]
    omega

/-- No two riders share a wallet account. -/
def State.AccountsInj (s : State ID) : Prop :=
  ∀ r r' a, s.account? r = some a → s.account? r' = some a → r = r'

lemma State.AccountsInj.congr (h : s.AccountsInj) (hs : s'.accounts = s.accounts) :
    s'.AccountsInj := by
  intro r r' a hr hr'
  rw [account?_congr hs] at hr hr'
  exact h r r' a hr hr'

lemma State.AccountsInj.riderAccount (h : s.AccountsInj) (rider : String) :
    (s.riderAccount rider).1.AccountsInj := by
  -- the account of the rider is either an old one or beyond all old ones
  have hself : ∀ r a, r ≠ rider → s.account? r = some a → a ≠ (s.riderAccount rider).2 := by
    rintro r a hne hr rfl
    cases hrider : s.account? rider with
    | some b =>
      rw [riderAccount_of_some hrider] at hr
      exact hne (h r rider b hr hrider)
    | none =>
      have hlt := lt_nextAccount hr
      rw [riderAccount_of_none hrider] at hlt
      exact lt_irrefl _ hlt
  intro r r' a hr hr'
  rw [account?_riderAccount] at hr hr'
  split_ifs at hr hr' with h₁ h₂ h₂
  · rw [h₁, h₂]
  · cases hr
    exact absurd rfl (hself r' _ h₂ hr')
  · cases hr'
    exact absurd rfl (hself r _ h₁ hr)
  · exact h r r' a hr hr'

/-! ## Wallets and platform accounts -/

/-- A platform account that payments, refunds and top-ups use. -/
def Platform (a : ℕ) : Prop := a = Ledger.operatorRevenueAccount ∨ a = Ledger.riderFundingAccount
  deriving Decidable

def State.Allocates (s : State ID) (rider : String) : Prop := ¬ Platform (s.riderAccount rider).2
  deriving Decidable

structure AccountsOk (s : State ID) : Prop where
  inj : s.AccountsInj
  wallets : ∀ r a, s.account? r = some a → ¬ Platform a
  touched : ∀ t ∈ s.books.posted, ∀ a, t.debit = a ∨ t.credit = a → ¬ Platform a →
    ∃ r, s.account? r = some a

lemma AccountsOk.init : AccountsOk (init : State ID) where
  inj r r' a hr := by cases hr
  wallets r a hr := by cases hr
  touched _ ht := nomatch ht

lemma AccountsOk.congr (h : AccountsOk s) (hbooks : s'.books = s.books)
    (hacc : s'.accounts = s.accounts) : AccountsOk s' where
  inj := h.inj.congr hacc
  wallets r a hr := h.wallets r a (account?_congr hacc r ▸ hr)
  touched t ht a ha hp := by
    obtain ⟨r, hr⟩ := h.touched t (hbooks ▸ ht) a ha hp
    exact ⟨r, (account?_congr hacc r).trans hr⟩

def BetweenWallet (t : Transfer ID) (a : ℕ) : Prop :=
  (t.debit = a ∧ Platform t.credit) ∨ (t.credit = a ∧ Platform t.debit)

variable {b : Books ID}

lemma AccountsOk.afterLedger (h : AccountsOk s) (hok : s.Allocates rider)
    (hposted : ∀ t ∈ b.posted, t ∈ s.books.posted ∨
      BetweenWallet t (s.riderAccount rider).2) : AccountsOk (s.afterLedger rider b) where
  inj := (h.inj.riderAccount rider).congr rfl
  wallets r a hr := by
    replace hr := (account?_riderAccount rider r).symm.trans hr
    split_ifs at hr with hrider
    · cases hr
      exact hok
    · exact h.wallets r a hr
  touched t ht a ha hp := by
    rcases hposted t ht with ht | ht
    · obtain ⟨r, hr⟩ := h.touched t ht a ha hp
      exact ⟨r, account?_riderAccount_of_some hr rider⟩
    · refine ⟨rider, (account?_riderAccount_self rider).trans (congrArg some ?_)⟩
      rcases ht with ⟨hd, hcredit⟩ | ⟨hc, hdebit⟩
      · rcases ha with rfl | rfl
        · exact hd.symm
        · exact absurd hcredit hp
      · rcases ha with rfl | rfl
        · exact absurd hdebit hp
        · exact hc.symm

/-! ## Balances -/

lemma AccountsOk.balance_new (h : AccountsOk s) (hok : s.Allocates rider)
    (hnone : s.account? rider = none) : s.books.balance (s.riderAccount rider).2 = 0 := by
  have hunknown : ∀ r, s.account? r ≠ some (s.riderAccount rider).2 := by
    intro r hr
    have hlt := lt_nextAccount hr
    rw [riderAccount_of_none hnone] at hlt
    exact lt_irrefl _ hlt
  refine List.sum_eq_zero fun x hx => ?_
  obtain ⟨t, ht, rfl⟩ := List.mem_map.mp hx
  refine Transfer.effect_other (fun hd => ?_) fun hc => ?_
  · obtain ⟨r, hr⟩ := h.touched t ht _ (.inl hd) hok
    exact hunknown r hr
  · obtain ⟨r, hr⟩ := h.touched t ht _ (.inr hc) hok
    exact hunknown r hr

lemma AccountsOk.wallet_eq (h : AccountsOk s) (hok : s.Allocates rider) :
    s.wallet rider = s.books.balance (s.riderAccount rider).2 := by
  cases hr : s.account? rider with
  | some a => rw [wallet, hr, riderAccount_of_some hr]
  | none => rw [h.balance_new hok hr, wallet, hr]

lemma wallet_congr (hbooks : s'.books = s.books) (hacc : s'.accounts = s.accounts)
    (rider : String) : s'.wallet rider = s.wallet rider := by
  rw [wallet, account?_congr hacc, hbooks, wallet]

lemma wallet_afterLedger_self (rider : String) (b : Books ID) :
    (s.afterLedger rider b).wallet rider = b.balance (s.riderAccount rider).2 := by
  rw [wallet, show (s.afterLedger rider b).account? rider = _ from account?_riderAccount_self rider]
  rfl

lemma account?_afterLedger_other {rider r : String} (hr : r ≠ rider) (b : Books ID) :
    (s.afterLedger rider b).account? r = s.account? r :=
  (account?_riderAccount rider r).trans (if_neg hr)

lemma AccountsOk.wallet_post (h : AccountsOk s) (hok : s.Allocates rider) {t : Transfer ID}
    (hposted : b.posted = s.books.posted ++ [t]) (ht : BetweenWallet t (s.riderAccount rider).2)
    (r : String) :
    (s.afterLedger rider b).wallet r =
      s.wallet r + if r = rider then t.effect (s.riderAccount rider).2 else 0 := by
  have hbalance : ∀ a, b.balance a = s.books.balance a + t.effect a := fun a =>
    (Books.balance_congr (b := { s.books with posted := s.books.posted ++ [t] }) hposted a).trans
      (s.books.balance_post t a)
  by_cases hr : r = rider
  · subst hr
    rw [wallet_afterLedger_self, h.wallet_eq hok, if_pos rfl, hbalance]
  · rw [if_neg hr, add_zero, wallet, account?_afterLedger_other hr, wallet]
    cases ha : s.account? r with
    | none => rfl
    | some a =>
      have hne : a ≠ (s.riderAccount rider).2 := by
        rintro rfl
        refine hr (h.inj.riderAccount rider r rider _ ?_ (account?_riderAccount_self rider))
        rw [account?_riderAccount, if_neg hr]
        exact ha
      have hwallet := h.wallets r a ha
      have heffect : t.effect a = 0 := by
        rcases ht with ⟨hd, hcredit⟩ | ⟨hc, hdebit⟩
        · exact Transfer.effect_other (fun hda => hne (hda.symm.trans hd))
            fun hca => hwallet (hca ▸ hcredit)
        · exact Transfer.effect_other (fun hda => hwallet (hda ▸ hdebit))
            fun hca => hne (hca.symm.trans hc)
      show b.balance a = s.books.balance a
      rw [hbalance, heffect, add_zero]

/-- **A ledger call** changes the wallet of its rider at most. -/
lemma AccountsOk.wallet_call (h : AccountsOk s) (hok : s.Allocates rider) {t : Transfer ID}
    {success : Bool} (hcall : (success = true ∧ b.posted = s.books.posted ++ [t]) ∨
      (success = false ∧ b.posted = s.books.posted)) (ht : BetweenWallet t (s.riderAccount rider).2)
    (r : String) :
    (s.afterLedger rider b).wallet r =
      s.wallet r + if success = true ∧ rider = r then t.effect (s.riderAccount rider).2 else 0 := by
  rcases hcall with ⟨rfl, hposted⟩ | ⟨rfl, hposted⟩
  · rw [h.wallet_post hok hposted ht]
    simp only [true_and, eq_comm]
  · simp only [Bool.false_eq_true, false_and, if_false, add_zero]
    by_cases hr : r = rider
    · subst hr
      rw [wallet_afterLedger_self, h.wallet_eq hok, Books.balance_congr hposted]
    · rw [wallet, account?_afterLedger_other hr, wallet]
      cases s.account? r with
      | none => rfl
      | some a => exact Books.balance_congr hposted a

end H2Fleet.Commerce
