import H2Fleet.Ledger.Cluster
import H2Fleet.Commerce.World

/-!
# The money operations and their accounts

The six kinds of ledger calls of the commerce service with the accounts and the code each one names:
top-ups, fares and refunds under the fare code, energy trades between the clearing account 3001 and
the operator's revenue under the energy code, invoice payments to the revenue under the billing
code, and the carbon consumer from 4002 to 4001.

`Transfer` asks for both accounts with the code of the transfer before it posts.  `New` has opened
the revenue account with the fare code, so a call that names it with another code fails.
-/

namespace H2Fleet.Commerce

open Ledger

/-! ## Trades -/

/-- `validTradeKinds`. -/
inductive TradeKind where
  | h2Sale
  | h2Purchase
  | energyExport
  | evV2gExport
  | evChargePurchase

def TradeKind.text : TradeKind → String
  | .h2Sale => "h2-sale"
  | .h2Purchase => "h2-purchase"
  | .energyExport => "energy-export"
  | .evV2gExport => "ev-v2g-export"
  | .evChargePurchase => "ev-charge-purchase"

/-- `strings.HasSuffix(kind, "-purchase")`. -/
def TradeKind.isPurchase (k : TradeKind) : Bool := "-purchase".toList.isSuffixOf k.text.toList

/-! ## Operations -/

inductive LedgerOp where
  | topUp (wallet : ℕ)
  | fare (wallet : ℕ)
  | refund (wallet : ℕ)
  | trade (kind : TradeKind)
  | invoice (clearing : ℕ)
  | carbon

open LedgerOp

section Requests

variable {ID : Type}

def LedgerOp.request (id : ID) (amount : ℕ) : LedgerOp → Request ID
  | .topUp wallet => ⟨id, riderFundingAccount, wallet, amount, codeFare⟩
  | .fare wallet => ⟨id, wallet, operatorRevenueAccount, amount, codeFare⟩
  | .refund wallet => ⟨id, operatorRevenueAccount, wallet, amount, codeFare⟩
  | .trade kind =>
    if kind.isPurchase then
      ⟨id, operatorRevenueAccount, energyTradeAccount, amount, codeEnergy⟩
    else
      ⟨id, energyTradeAccount, operatorRevenueAccount, amount, codeEnergy⟩
  | .invoice clearing =>
    ⟨id, clearing, operatorRevenueAccount, amount, codeBilling⟩
  | .carbon =>
    ⟨id, carbonIssuanceAccount, carbonFundAccount, amount, codeCarbon⟩

structure LedgerCall (ID : Type) where
  op : LedgerOp
  id : ID
  amount : ℕ

def LedgerCall.request (c : LedgerCall ID) : Request ID := c.op.request c.id c.amount

@[simp] lemma LedgerCall.request_id (c : LedgerCall ID) : c.request.id = c.id := by
  obtain ⟨op, id, amount⟩ := c
  cases op with
  | trade kind =>
    simp only [LedgerCall.request, LedgerOp.request]
    split_ifs <;> rfl
  | topUp | fare | refund | invoice | carbon => rfl

def HeldOtherwise (b : Books ID) (account code : ℕ) : Prop :=
  ∃ a ∈ b.accounts, a.id = account ∧ a.code ≠ code
  deriving Decidable

/-- **The condition.**  Trades and invoice payments name the revenue account under another code. -/
def LedgerOp.Clear (b : Books ID) : LedgerOp → Prop
  | .topUp wallet =>
    wallet ≠ riderFundingAccount ∧ ¬ HeldOtherwise b wallet codeFare
  | .fare wallet | .refund wallet =>
    wallet ≠ operatorRevenueAccount ∧ ¬ HeldOtherwise b wallet codeFare
  | .trade _ | .invoice _ => False
  | .carbon => True

def FundsOnly : Except LedgerError ID → Prop
  | .ok _ => True
  | .error e => e.insufficientFunds = true

/-! ## The platform accounts -/

variable {b : Books ID}

/-- The accounts of `New` are held under the codes `New` gives them. -/
lemma not_conflicts_platform (hb : Chart b.accounts) (id code : ℕ)
    (h : accountFor id code ∈ (bootstrapped : Books ℕ).accounts) :
    ¬ b.Conflicts (accountFor id code) :=
  fun hconflict => hconflict.1 (hb.platform h)

lemma conflicts_revenue (hb : Chart b.accounts) (code : ℕ) (h : code ≠ codeFare) :
    b.Conflicts (accountFor operatorRevenueAccount code) := by
  rw [hb.conflicts_iff]
  refine ⟨accountFor operatorRevenueAccount codeFare, hb.platform ?_, rfl, h.symm⟩
  decide

/-- **Which requests meet a conflict** or have one account on both sides. -/
lemma clear_iff (hb : Chart b.accounts) (c : LedgerCall ID) :
    (¬ c.request.Conflicted b ∧ c.request.debit ≠ c.request.credit) ↔ c.op.Clear b := by
  have hfare : ∀ wallet, b.Conflicts (accountFor wallet codeFare) ↔
      HeldOtherwise b wallet codeFare := fun wallet => hb.conflicts_iff wallet _
  have hrevenue := not_conflicts_platform hb operatorRevenueAccount codeFare (by decide)
  have hfunding := not_conflicts_platform hb riderFundingAccount codeFare (by decide)
  obtain ⟨op, id, amount⟩ := c
  simp only [LedgerCall.request, Request.Conflicted]
  cases op with
  | topUp wallet =>
    simp only [request, Clear, hfunding, hfare, false_or]
    tauto
  | fare wallet =>
    simp only [request, Clear, hrevenue, hfare, or_false]
    tauto
  | refund wallet =>
    simp only [request, Clear, hrevenue, hfare, false_or]
    tauto
  | trade kind =>
    have henergy := conflicts_revenue hb codeEnergy (by decide)
    simp only [request, Clear]
    split_ifs <;> simp [henergy]
  | invoice clearing =>
    have hbilling := conflicts_revenue hb codeBilling (by decide)
    simp [request, Clear, hbilling]
  | carbon =>
    have hissuance :=
      not_conflicts_platform hb carbonIssuanceAccount codeCarbon (by decide)
    have hfund := not_conflicts_platform hb carbonFundAccount codeCarbon (by decide)
    have hne : carbonIssuanceAccount ≠ carbonFundAccount := by decide
    simp [request, Clear, hissuance, hfund, hne]

end Requests

/-! ## Sequences of calls -/

section Calls

variable {ID : Type} [DecidableEq ID]

def ledgerStep (b : Books ID) (c : LedgerCall ID) : Option (Books ID) :=
  (perform b c.request).map Prod.fst

/-- A new id succeeds or fails for lack of funds unless its accounts are in the way. -/
lemma fundsOnly_iff {b : Books ID} (hb : Chart b.accounts) {r : Request ID}
    (hfresh : b.Fresh r.id) : (∃ b' res, perform b r = some (b', res) ∧ FundsOnly res) ↔
      ¬ r.Conflicted b ∧ r.debit ≠ r.credit := by
  obtain ⟨b', res, hcall, -, hres⟩ := perform_spec hb r
  have hiff : (∃ b' res, perform b r = some (b', res) ∧ FundsOnly res) ↔ FundsOnly res := by
    simp [hcall]
  rw [hiff]
  cases hres with
  | conflict e hconflict he => simp [FundsOnly, he, hconflict]
  | repeated _ hmem => exact absurd rfl (hfresh _ hmem)
  | refused e hclear _ hwhy he =>
    have hsame : r.debit = r.credit := hwhy.resolve_left (not_not.mpr hfresh)
    simp [FundsOnly, he, hsame]
  | overdrawn e hclear _ hne _ he => simp [FundsOnly, he, hclear, hne]
  | posted hclear _ hne => simp [FundsOnly, hclear, hne]

/-- A sequence of calls leaves the accounts in order, and no transfers but its own. -/
lemma ledger_run {b b' : Books ID} {cs : List (LedgerCall ID)} (hb : Chart b.accounts)
    (hrun : run ledgerStep b cs = some b') :
    Chart b'.accounts ∧ ∀ t ∈ b'.posted, t ∈ b.posted ∨ ∃ c ∈ cs, c.id = t.id := by
  induction cs generalizing b with
  | nil =>
    rw [run_nil] at hrun
    cases hrun
    exact ⟨hb, fun t ht => .inl ht⟩
  | cons c cs ih =>
    obtain ⟨b₁, hstep, hrest⟩ := run_cons_eq_some.mp hrun
    obtain ⟨b₂, res, hcall, hchart, hres⟩ := perform_spec hb c.request
    have hb₁ : b₁ = b₂ := by simpa [ledgerStep, hcall, eq_comm] using hstep
    subst hb₁
    have hposted : ∀ t ∈ b₁.posted, t ∈ b.posted ∨ t.id = c.id := by
      intro t ht
      cases hres with
      | conflict _ _ _ hafter => exact .inl (hafter ▸ ht)
      | repeated _ _ hafter => exact .inl (hafter ▸ ht)
      | refused _ _ _ _ _ hafter => exact .inl (hafter ▸ ht)
      | overdrawn _ _ _ _ _ _ hafter => exact .inl (hafter ▸ ht)
      | posted _ _ _ _ hafter =>
        rw [hafter, List.mem_append, List.mem_singleton] at ht
        rcases ht with ht | rfl
        · exact .inl ht
        · exact .inr c.request_id
    obtain ⟨hchart', hrest'⟩ := ih hchart hrest
    refine ⟨hchart', fun t ht => ?_⟩
    rcases hrest' t ht with ht | ⟨d, hd, hid⟩
    · rcases hposted t ht with ht | hid
      · exact .inl ht
      · exact .inr ⟨c, List.mem_cons_self, hid.symm⟩
    · exact .inr ⟨d, List.mem_cons_of_mem _ hd, hid⟩

/-- **When a call can fail for another reason than funds**: from the books that `New` leaves, an
operation succeeds or fails for lack of funds exactly if it is clear. -/
theorem fails_only_for_funds_iff {cs : List (LedgerCall ID)} {b : Books ID}
    (hrun : run ledgerStep bootstrapped cs = some b) (c : LedgerCall ID)
    (hids : ∀ d ∈ cs, d.id ≠ c.id) :
    (∃ b' res, perform b c.request = some (b', res) ∧ FundsOnly res) ↔ c.op.Clear b := by
  obtain ⟨hchart, hposted⟩ := ledger_run .bootstrapped hrun
  have hfresh : b.Fresh c.request.id := by
    intro t ht
    rcases hposted t ht with ht | ⟨d, hd, hid⟩
    · cases ht
    · rw [← hid, c.request_id]
      exact hids d hd
  rw [fundsOnly_iff hchart hfresh, clear_iff hchart]

end Calls

def toppedUpBooks : Books ℕ where
  accounts := (bootstrapped : Books ℕ).accounts ++ [accountFor 1001 codeFare]
  posted := [((topUp 1001).request 0 500).transfer]

/-- A fare out of this wallet. -/
theorem fails_only_for_funds_iff_fare :
    ∃ b' res, perform toppedUpBooks (LedgerCall.request ⟨.fare 1001, 1, 200⟩) =
      some (b', res) ∧ FundsOnly res :=
  (fails_only_for_funds_iff
    (by decide +kernel : run ledgerStep _ [⟨.topUp 1001, 0, 500⟩] = some toppedUpBooks) ⟨.fare 1001,
    1, 200⟩ (by decide)).mpr ⟨by decide, by decide⟩

/-- **The first trade and the first invoice payment fail**, whatever the funds. -/
theorem purchase_and_invoice_fail_on_code : (perform (bootstrapped : Books ℕ)
      (LedgerCall.request ⟨.trade .h2Purchase, 0, 500⟩)).map Prod.snd =
        some (.error
        ⟨"ensure debit account: create account 2001: exists with different code or flags",
          false⟩) ∧ (perform (bootstrapped : Books ℕ)
        (LedgerCall.request ⟨.invoice 5001, 0, 500⟩)).map Prod.snd =
          some (.error ⟨"ensure credit account: create account 2001: " ++
            "exists with different code or flags", false⟩) := by
  decide +kernel

end H2Fleet.Commerce
