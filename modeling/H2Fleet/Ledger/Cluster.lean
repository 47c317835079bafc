import H2Fleet.Core.Run
import H2Fleet.Ledger.Client

/-!
# The ledger client over a reachable cluster

`Transfer` when every client call reaches the cluster and the cluster decides by its books: an
account exists for the client only with the same code and flags, a transfer id only with the same
parameters, and an overdraft is refused on the accounts that `EnsureAccount` caps.
-/

namespace H2Fleet.Ledger

open Books

/-- The arguments of a `Transfer` call. -/
structure Request (ID : Type) where
  id : ID
  debit : ℕ
  credit : ℕ
  amount : ℕ
  code : ℕ

open Request

/-- The accounts whose debits must not exceed their credits. -/
def capped (id : ℕ) : Bool :=
  isRiderWallet id || isBillingAccount id || decide (id = energyTradeAccount)

section Accounts

variable {ID : Type}

def Request.transfer (r : Request ID) : Transfer ID :=
  transferFor r.id r.debit r.credit r.amount r.code

/-- One of the two accounts is held under another code. -/
def Request.Conflicted (r : Request ID) (b : Books ID) : Prop :=
  b.Conflicts (accountFor r.debit r.code) ∨ b.Conflicts (accountFor r.credit r.code)
  deriving Decidable

def Request.opened (r : Request ID) (b : Books ID) : Books ID :=
  (b.opened (accountFor r.debit r.code)).opened (accountFor r.credit r.code)

@[simp] lemma Request.opened_posted (r : Request ID) (b : Books ID) :
    (r.opened b).posted = b.posted := by
  simp [opened]

lemma Request.conflicts_credit {r : Request ID} {b : Books ID}
    (h : ¬ b.Conflicts (accountFor r.debit r.code)) :
    (b.opened (accountFor r.debit r.code)).Conflicts (accountFor r.credit r.code) ↔
      b.Conflicts (accountFor r.credit r.code) :=
  conflicts_opened h (congrArg (accountFor · r.code))

/-! ## The chart of accounts -/

/-- Accounts that `EnsureAccount` asked for, each id once, with the platform's. -/
structure Chart (accounts : List Account) : Prop where
  known : ∀ a ∈ accounts, a = accountFor a.id a.code
  unique : (accounts.map Account.id).Nodup
  platform : (bootstrapped : Books ℕ).accounts ⊆ accounts

lemma Chart.bootstrapped : Chart (bootstrapped : Books ID).accounts where
  known := by
    show ∀ a ∈ (Ledger.bootstrapped : Books ℕ).accounts, a = accountFor a.id a.code
    decide
  unique := by
    show ((Ledger.bootstrapped : Books ℕ).accounts.map Account.id).Nodup
    decide
  platform := fun _ ha => ha

lemma Chart.opened {b : Books ID} (h : Chart b.accounts) (id code : ℕ) :
    Chart (b.opened (accountFor id code)).accounts := by
  refine ⟨fun a ha => ?_, ?_, fun a ha => b.subset_opened _ (h.platform ha)⟩
  · rcases mem_opened ha with ha | rfl
    · exact h.known a ha
    · rfl
  · rw [Books.opened]
    split_ifs with hid
    · exact h.unique
    · have hnew : ∀ c ∈ b.accounts, c.id ≠ id := fun c hc heq => hid ⟨c, hc, heq⟩
      simp only [List.map_append, List.map_cons, List.map_nil]
      refine List.nodup_append.mpr ⟨h.unique, List.nodup_singleton _, ?_⟩
      rintro i hi j hj rfl
      obtain ⟨c, hc, rfl⟩ := List.mem_map.mp hi
      exact hnew c hc (List.mem_singleton.mp hj)

/-- **A conflict** is a conflict of codes. -/
lemma Chart.conflicts_iff {b : Books ID} (h : Chart b.accounts) (id code : ℕ) :
    b.Conflicts (accountFor id code) ↔ ∃ a ∈ b.accounts, a.id = id ∧ a.code ≠ code := by
  constructor
  · rintro ⟨hnot, a, ha, hid⟩
    refine ⟨a, ha, hid, ?_⟩
    rintro rfl
    refine hnot ?_
    rw [← show a.id = id from hid, ← h.known a ha]
    exact ha
  · rintro ⟨a, ha, rfl, hcode⟩
    refine ⟨fun hmem => hcode ?_, a, ha, rfl⟩
    have heq : a = accountFor a.id code := List.inj_on_of_nodup_map h.unique ha hmem rfl
    exact congrArg Account.code heq

end Accounts

/-! ## What becomes of a call -/

section Perform

variable {ID : Type} [DecidableEq ID]

def Request.replies (r : Request ID) (b : Books ID) : Replies where
  debitAccount := .answered (b.accountAnswer (accountFor r.debit r.code))
  creditAccount :=
    .answered ((b.opened (accountFor r.debit r.code)).accountAnswer (accountFor r.credit r.code))
  transfer := .answered ((r.opened b).transferAnswer r.transfer)

/-- A `Transfer` call to a reachable cluster. -/
def perform (b : Books ID) (r : Request ID) : Option (Books ID × Except LedgerError ID) :=
  transfer b r.id r.debit r.credit r.amount r.code (r.replies b)

omit [DecidableEq ID] in
variable {b : Books ID}

lemma ensureAccount_reachable {id code : ℕ} (h : ¬ b.Conflicts (accountFor id code)) :
    ensureAccount b id code (.answered (b.accountAnswer (accountFor id code))) =
      some (b.opened (accountFor id code), .ok ()) := by
  simp only [ensureAccount, createAccount_accountAnswer, Option.map_some]
  rcases accountAnswer_of_not_conflicts h with hans | hans <;> rw [hans]

omit [DecidableEq ID] in
lemma ensureAccount_conflict {id code : ℕ} (h : b.Conflicts (accountFor id code)) :
    ∃ e, ensureAccount b id code (.answered (b.accountAnswer (accountFor id code))) =
      some (b, .error e) ∧ e.insufficientFunds = false := by
  have hopened : b.opened (accountFor id code) = b := by rw [Books.opened, if_pos h.2]
  have hcall := createAccount_accountAnswer b (accountFor id code)
  rw [accountAnswer_of_conflicts h, hopened] at hcall
  simp only [ensureAccount, accountAnswer_of_conflicts h, hcall, Option.map_some]
  exact ⟨_, rfl, rfl⟩

variable {r : Request ID}

lemma perform_conflicted (h : r.Conflicted b) :
    ∃ b' e, perform b r = some (b', .error e) ∧ e.insufficientFunds = false ∧
      (b' = b ∨ b' = b.opened (accountFor r.debit r.code)) := by
  by_cases hdebit : b.Conflicts (accountFor r.debit r.code)
  · obtain ⟨e, hcall, he⟩ := ensureAccount_conflict hdebit
    refine ⟨b, e.wrap "ensure debit account", ?_, he, .inl rfl⟩
    rw [perform, transfer, replies, hcall]
    rfl
  · have hcredit := (conflicts_credit hdebit).mpr (h.resolve_left hdebit)
    obtain ⟨e, hcall, he⟩ := ensureAccount_conflict hcredit
    refine ⟨_, e.wrap "ensure credit account", ?_, he, .inr rfl⟩
    simp [perform, transfer, replies, ensureAccount_reachable hdebit, hcall]

lemma perform_ready (h : ¬ r.Conflicted b) : perform b r = postTransfer (r.opened b) r.transfer
      (.answered ((r.opened b).transferAnswer r.transfer)) := by
  rw [Conflicted, not_or] at h
  have hcredit := mt (conflicts_credit h.1).mp h.2
  simp only [perform, transfer, replies, ensureAccount_reachable h.1, Option.bind_some,
    ensureAccount_reachable hcredit]
  rfl

/-- How the client reads the answer to a transfer. -/
def answerResult (t : Transfer ID) : TransferAnswer → Except LedgerError ID
  | .created | .existing => .ok t.id
  | .exceedsCredits =>
    .error ⟨"debit account " ++ t.debit.repr ++ ": insufficient funds", true⟩
  | .different why | .rejected why => .error ⟨"transfer failed: " ++ why, false⟩

lemma postTransfer_answered (b : Books ID) (t : Transfer ID) :
    postTransfer b t (.answered (b.transferAnswer t)) =
      some (if b.Accepts t then { b with posted := b.posted ++ [t] } else b,
        answerResult t (b.transferAnswer t)) := by
  simp only [postTransfer, createTransfer_transferAnswer, Option.map_some]
  cases b.transferAnswer t <;> rfl

/-- The result of a call and what it did to the posted transfers. -/
inductive Performed (b : Books ID) (r : Request ID) (after : List (Transfer ID)) :
    Except LedgerError ID → Prop where
  | conflict (e : LedgerError) : r.Conflicted b → e.insufficientFunds = false →
      after = b.posted → Performed b r after (.error e)
  | repeated : ¬ r.Conflicted b → r.transfer ∈ b.posted → after = b.posted →
      Performed b r after (.ok r.id)
  | refused (e : LedgerError) : ¬ r.Conflicted b → r.transfer ∉ b.posted →
      ¬ b.Fresh r.id ∨ r.debit = r.credit → e.insufficientFunds = false → after = b.posted →
      Performed b r after (.error e)
  | overdrawn (e : LedgerError) : ¬ r.Conflicted b → b.Fresh r.id → r.debit ≠ r.credit →
      capped r.debit = true ∧ b.balance r.debit < r.amount → e.insufficientFunds = true →
      after = b.posted → Performed b r after (.error e)
  | posted : ¬ r.Conflicted b → b.Fresh r.id → r.debit ≠ r.credit →
      ¬ (capped r.debit = true ∧ b.balance r.debit < r.amount) → after = b.posted ++ [r.transfer] →
      Performed b r after (.ok r.id)

lemma performed_ready (hb : Chart b.accounts) (h : ¬ r.Conflicted b) :
    ∃ after res, perform b r = some ({ r.opened b with posted := after }, res) ∧
      Performed b r after res := by
  have hpair := not_or.mp h
  have hchart : Chart (r.opened b).accounts := (hb.opened r.debit r.code).opened r.credit r.code
  have hcredit : accountFor r.credit r.code ∈ (r.opened b).accounts :=
    self_mem_opened (mt (conflicts_credit hpair.1).mp hpair.2)
  have hdebit : accountFor r.debit r.code ∈ (r.opened b).accounts :=
    subset_opened _ _ (self_mem_opened hpair.1)
  have hover : (r.opened b).Overdraws r.transfer ↔
      capped r.debit = true ∧ b.balance r.debit < r.amount := by
    rw [← balance_congr (r.opened_posted b)]
    constructor
    · rintro ⟨a, ha, hid, hcapped, hlt⟩
      refine ⟨?_, hlt⟩
      rw [hchart.known a ha, show a.id = r.debit from hid] at hcapped
      exact hcapped
    · rintro ⟨hcapped, hlt⟩
      exact ⟨_, hdebit, rfl, hcapped, hlt⟩
  have hsame : ({ r.opened b with posted := b.posted } : Books ID) = r.opened b := by
    rw [← r.opened_posted b]
  have hmem : r.transfer ∈ (r.opened b).posted ↔ r.transfer ∈ b.posted := by rw [r.opened_posted b]
  have hfresh : (r.opened b).Fresh r.transfer.id ↔ b.Fresh r.id := by
    simp only [Fresh, r.opened_posted b]
    rfl
  have hexists : (∃ a ∈ (r.opened b).accounts, a.id = r.transfer.debit) ∧
      ∃ a ∈ (r.opened b).accounts, a.id = r.transfer.credit := ⟨⟨_, hdebit, rfl⟩, ⟨_, hcredit, rfl⟩⟩
  rw [perform_ready h, postTransfer_answered]
  rcases transferAnswer_cases hexists.1 hexists.2 with ⟨hans, hposted⟩ |
    ⟨⟨why, hans⟩, hposted, hid⟩ | ⟨⟨why, hans⟩, hposted, hne⟩ | ⟨hans, hid, hne, hlt⟩ | ⟨hans, hacc⟩
  · rw [if_neg fun hacc => hacc.fresh _ hposted rfl, hans]
    exact ⟨b.posted, _, by rw [hsame]; rfl, .repeated h (hmem.mp hposted) rfl⟩
  · rw [if_neg fun hacc => hid hacc.fresh, hans]
    exact ⟨b.posted, _, by rw [hsame]; rfl,
      .refused ⟨_, false⟩ h (mt hmem.mpr hposted) (.inl (mt hfresh.mpr hid)) rfl rfl⟩
  · rw [if_neg fun hacc => hacc.distinct hne, hans]
    exact ⟨b.posted, _, by rw [hsame]; rfl,
      .refused ⟨_, false⟩ h (mt hmem.mpr hposted) (.inr hne) rfl rfl⟩
  · rw [if_neg fun hacc => hacc.covered hlt, hans]
    exact ⟨b.posted, _, by rw [hsame]; rfl,
      .overdrawn ⟨_, true⟩ h (hfresh.mp hid) hne (hover.mp hlt) rfl rfl⟩
  · rw [if_pos hacc, hans, r.opened_posted b]
    exact ⟨_, _, rfl,
      .posted h (hfresh.mp hacc.fresh) hacc.distinct (mt hover.mpr hacc.covered) rfl⟩

/-- **What becomes of a call**: accounts, id and balance decide, and the accounts stay in order. -/
theorem perform_spec (hb : Chart b.accounts) (r : Request ID) :
    ∃ b' res, perform b r = some (b', res) ∧ Chart b'.accounts ∧ Performed b r b'.posted res := by
  by_cases h : r.Conflicted b
  · obtain ⟨b', e, hcall, he, rfl | rfl⟩ := perform_conflicted h
    · exact ⟨_, _, hcall, hb, .conflict e h he rfl⟩
    · exact ⟨_, _, hcall, hb.opened _ _, .conflict e h he (opened_posted _ _)⟩
  · obtain ⟨after, res, hcall, hres⟩ := performed_ready hb h
    exact ⟨_, res, hcall, (hb.opened r.debit r.code).opened r.credit r.code, hres⟩

end Perform

end H2Fleet.Ledger
