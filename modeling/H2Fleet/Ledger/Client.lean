import H2Fleet.Core.DoubleEntry

/-!
# The ledger client of the commerce service

`ledger.go`: the accounts and codes of the platform, the transfer ids derived from idempotency keys,
and `EnsureAccount` and `Transfer` over the TigerBeetle client.  A client call either never reaches
the cluster (`unsent`), or the cluster decides and its answer arrives (`answered`) or not (`lost`).
-/

namespace H2Fleet.Ledger

open Option

def ledgerID : ℕ := 1

def codeFare : ℕ := 100
def codeEnergy : ℕ := 300
def codeCarbon : ℕ := 400
def codeBilling : ℕ := 500

def operatorRevenueAccount : ℕ := 2001
def riderFundingAccount : ℕ := 2002
def energyTradeAccount : ℕ := 3001
def carbonFundAccount : ℕ := 4001
def carbonIssuanceAccount : ℕ := 4002

lemma operatorRevenueAccount_ne : operatorRevenueAccount ≠ riderFundingAccount := by decide

def isRiderWallet (id : ℕ) : Bool := decide (1001 ≤ id ∧ id < 2000)

def isBillingAccount (id : ℕ) : Bool := decide (5001 ≤ id ∧ id < 6000)

/-- What comes back from a call of the TigerBeetle client. -/
inductive Reply (R : Type) where
  | answered (r : R)
  | unsent (text : String)
  | lost (r : R) (text : String)
  deriving DecidableEq

/-- A Go error: its text, and whether it wraps `ErrInsufficientFunds`. -/
structure LedgerError where
  text : String
  insufficientFunds : Bool
  deriving DecidableEq

def LedgerError.wrap (context : String) (e : LedgerError) : LedgerError :=
  { e with text := context ++ ": " ++ e.text }

/-- The replies to the three client calls that one `Transfer` makes. -/
structure Replies where
  debitAccount : Reply AccountAnswer
  creditAccount : Reply AccountAnswer
  transfer : Reply TransferAnswer

section Client

variable {ID : Type}

/-- `DeterministicTransferID`: sixteen bytes of the SHA-256 of the namespaced key. -/
def deterministicTransferID (sha16 : String → ID) (idempotencyKey : String) : ID :=
  sha16 ("h2fleet:tb-transfer:" ++ idempotencyKey)

lemma deterministicTransferID_inj {sha16 : String → ID} (hsha : Function.Injective sha16)
    {k k' : String} : deterministicTransferID sha16 k = deterministicTransferID sha16 k' ↔
    k = k' := by
  constructor
  · intro h
    exact String.append_right_inj _ |>.mp (hsha h)
  · rintro rfl
    rfl

def accountFor (id code : ℕ) : Account where
  id := id
  ledger := ledgerID
  code := code
  capped := isRiderWallet id || isBillingAccount id || decide (id = energyTradeAccount)

/-- The books as `New` leaves them: platform accounts and no transfers. -/
def bootstrapped : Books ID where
  accounts :=
    [accountFor operatorRevenueAccount codeFare, accountFor riderFundingAccount codeFare,
      accountFor energyTradeAccount codeEnergy, accountFor carbonFundAccount codeCarbon,
      accountFor carbonIssuanceAccount codeCarbon]
  posted := []

def transferFor (id : ID) (debit credit amount code : ℕ) : Transfer ID where
  id := id
  debit := debit
  credit := credit
  amount := amount
  ledger := ledgerID
  code := code

def ensureAccount (b : Books ID) (id code : ℕ) :
    Reply AccountAnswer → Option (Books ID × Except LedgerError Unit)
  | .unsent text => some (b, .error ⟨text, false⟩)
  | .lost ans text =>
    (b.createAccount (accountFor id code) ans).map fun b' => (b', .error ⟨text, false⟩)
  | .answered ans =>
    (b.createAccount (accountFor id code) ans).map fun b' =>
      match ans with
      | .rejected why => (b', .error ⟨"create account " ++ id.repr ++ ": " ++ why, false⟩)
      | _ => (b', .ok ())

variable [DecidableEq ID]

/-- The last part of `Transfer`: the `CreateTransfers` call and its result. -/
def postTransfer (b : Books ID) (t : Transfer ID) :
    Reply TransferAnswer → Option (Books ID × Except LedgerError ID)
  | .unsent text => some (b, .error ⟨text, false⟩)
  | .lost ans text => (b.createTransfer t ans).map fun b' => (b', .error ⟨text, false⟩)
  | .answered ans =>
    (b.createTransfer t ans).map fun b' =>
      match ans with
      | .created | .existing => (b', .ok t.id)
      | .exceedsCredits =>
        (b', .error ⟨"debit account " ++ t.debit.repr ++ ": insufficient funds", true⟩)
      | .different why | .rejected why => (b', .error ⟨"transfer failed: " ++ why, false⟩)

def transfer (b : Books ID) (id : ID) (debit credit amount code : ℕ) (r : Replies) :
    Option (Books ID × Except LedgerError ID) :=
  (ensureAccount b debit code r.debitAccount).bind fun
    | (b₁, .error e) => some (b₁, .error (e.wrap "ensure debit account"))
    | (b₁, .ok ()) =>
      (ensureAccount b₁ credit code r.creditAccount).bind fun
        | (b₂, .error e) => some (b₂, .error (e.wrap "ensure credit account"))
        | (b₂, .ok ()) => postTransfer b₂ (transferFor id debit credit amount code) r.transfer

/-! ## What a call does to the posted transfers -/

/-- The transfer was created and the answer did not arrive. -/
def Replies.PostingLost (r : Replies) : Prop :=
  match r.transfer with
  | .lost .created _ => True
  | _ => False

instance (r : Replies) : Decidable r.PostingLost := by
  unfold Replies.PostingLost; split <;> infer_instance

/-- What a `Transfer` call did to the posted transfers. -/
inductive Outcome (r : Replies) (t : Transfer ID) (before after : List (Transfer ID)) :
    Except LedgerError ID → Prop where
  | posted : (∀ u ∈ before, u.id ≠ t.id) → t.debit ≠ t.credit → after = before ++ [t] →
      Outcome r t before after (.ok t.id)
  | repeated : t ∈ before → after = before → Outcome r t before after (.ok t.id)
  | failed (e : LedgerError) : after = before → Outcome r t before after (.error e)
  | unheard (e : LedgerError) : r.PostingLost → (∀ u ∈ before, u.id ≠ t.id) →
      t.debit ≠ t.credit → after = before ++ [t] → Outcome r t before after (.error e)

variable {r : Replies} {t : Transfer ID} {res : Except LedgerError ID} {b b' : Books ID}
  {code debit credit amount : ℕ}

omit [DecidableEq ID] in
lemma Outcome.after_cases {before after : List (Transfer ID)} (h : Outcome r t before after res) :
    after = before ∨
    ((∀ u ∈ before, u.id ≠ t.id) ∧ t.debit ≠ t.credit ∧ after = before ++ [t]) := by
  cases h with
  | posted hfresh hne hafter => exact .inr ⟨hfresh, hne, hafter⟩
  | repeated _ hafter => exact .inl hafter
  | failed _ hafter => exact .inl hafter
  | unheard _ _ hfresh hne hafter => exact .inr ⟨hfresh, hne, hafter⟩

omit [DecidableEq ID] in
lemma Outcome.heard {before after : List (Transfer ID)} (h : Outcome r t before after res)
    (hheard : ¬ r.PostingLost) (hnew : t ∉ before) :
    (res.isOk = true ∧ after = before ++ [t]) ∨ (res.isOk = false ∧ after = before) := by
  cases h with
  | posted _ _ hafter => exact .inl ⟨rfl, hafter⟩
  | repeated hmem => exact absurd hmem hnew
  | failed _ hafter => exact .inr ⟨rfl, hafter⟩
  | unheard _ hlost => exact absurd hlost hheard

omit [DecidableEq ID] in
lemma Outcome.uniqueIds (h : Outcome r t b.posted b'.posted res) (hu : b.UniqueIds) :
    b'.UniqueIds := by
  rcases h.after_cases with heq | ⟨hfresh, -, heq⟩
  · rw [Books.UniqueIds, heq]
    exact hu
  · rw [Books.UniqueIds, heq]
    exact Books.uniqueIds_post hu hfresh

omit [DecidableEq ID] in
lemma ensureAccount_posted {id : ℕ} {r : Reply AccountAnswer} {res : Except LedgerError Unit}
    (h : ensureAccount b id code r = some (b', res)) : b'.posted = b.posted := by
  cases r with
  | unsent text =>
    simp only [ensureAccount, some.injEq, Prod.mk.injEq] at h
    rw [h.1]
  | lost ans text =>
    simp only [ensureAccount, map_eq_some_iff, Prod.mk.injEq] at h
    obtain ⟨c, hc, rfl, -⟩ := h
    exact Books.createAccount_posted hc
  | answered ans =>
    simp only [ensureAccount, map_eq_some_iff] at h
    obtain ⟨c, hc, hres⟩ := h
    have hcb : c = b' := by cases ans <;> simp only [Prod.mk.injEq] at hres <;> exact hres.1
    exact hcb ▸ Books.createAccount_posted hc

def AccountReady (r : Reply AccountAnswer) : Prop :=
  r = .answered .created ∨ r = .answered .existing
  deriving Decidable

omit [DecidableEq ID] in
lemma not_accountReady {c : Books ID} {id : ℕ} {r : Reply AccountAnswer} {e : LedgerError}
    (h : ensureAccount b id code r = some (c, .error e)) : ¬ AccountReady r := by
  rintro (rfl | rfl)
  · simp [ensureAccount] at h
  · simp [ensureAccount] at h

lemma transfer_cases {id : ID} (h : transfer b id debit credit amount code r = some (b', res)) :
    (∃ b₂, b₂.posted = b.posted ∧
      postTransfer b₂ (transferFor id debit credit amount code) r.transfer = some (b', res)) ∨
    (b'.posted = b.posted ∧ (∃ e, res = .error e) ∧
      (¬ AccountReady r.debitAccount ∨ ¬ AccountReady r.creditAccount)) := by
  rw [transfer, bind_eq_some_iff] at h
  obtain ⟨⟨b₁, res₁⟩, h₁, h⟩ := h
  cases res₁ with
  | error e =>
    simp only [some.injEq, Prod.mk.injEq] at h
    exact .inr ⟨h.1 ▸ ensureAccount_posted h₁, ⟨_, h.2.symm⟩, .inl (not_accountReady h₁)⟩
  | ok u =>
    simp only [bind_eq_some_iff] at h
    obtain ⟨⟨b₂, res₂⟩, h₂, h⟩ := h
    have hposted := (ensureAccount_posted h₂).trans (ensureAccount_posted h₁)
    cases res₂ with
    | error e =>
      simp only [some.injEq, Prod.mk.injEq] at h
      exact .inr ⟨h.1 ▸ hposted, ⟨_, h.2.symm⟩, .inr (not_accountReady h₂)⟩
    | ok u => exact .inl ⟨b₂, hposted, h⟩

/-- **What a `Transfer` call does.** -/
theorem transfer_spec {id : ID} (h : transfer b id debit credit amount code r = some (b', res)) :
    Outcome r (transferFor id debit credit amount code) b.posted b'.posted res := by
  obtain ⟨b₂, hb₂, h⟩ | ⟨hposted, ⟨e, rfl⟩, -⟩ := transfer_cases h
  · rw [← hb₂]
    cases hr : r.transfer with
    | unsent text =>
      simp only [hr, postTransfer, some.injEq, Prod.mk.injEq] at h
      exact h.2 ▸ .failed _ (h.1 ▸ rfl)
    | lost ans text =>
      simp only [hr, postTransfer, map_eq_some_iff, Prod.mk.injEq] at h
      obtain ⟨c, hc, rfl, rfl⟩ := h
      obtain ⟨rfl, hacc, rfl⟩ | ⟨-, -, rfl⟩ | ⟨-, -, -, rfl⟩ := Books.createTransfer_cases hc
      · exact .unheard _ (by simp [Replies.PostingLost, hr]) hacc.fresh hacc.distinct rfl
      · exact .failed _ rfl
      · exact .failed _ rfl
    | answered ans =>
      simp only [hr, postTransfer, map_eq_some_iff] at h
      obtain ⟨c, hc, h⟩ := h
      obtain ⟨rfl, hacc, rfl⟩ | ⟨rfl, hmem, rfl⟩ | ⟨hcr, hex, -, rfl⟩ :=
        Books.createTransfer_cases hc
      · simp only [Prod.mk.injEq] at h
        rw [← h.1, ← h.2]
        exact .posted hacc.fresh hacc.distinct rfl
      · simp only [Prod.mk.injEq] at h
        rw [← h.1, ← h.2]
        exact .repeated hmem rfl
      · cases ans with
        | created => exact absurd rfl hcr
        | existing => exact absurd rfl hex
        | exceedsCredits | different | rejected =>
          simp only [Prod.mk.injEq] at h
          rw [← h.1, ← h.2]
          exact .failed _ rfl
  · exact .failed _ hposted

/-! ## Calls without a fault -/

/-- The answer arrives: posted, posted before, posted with other parameters, or not covered. -/
def transferHeard : Reply TransferAnswer → Bool
  | .answered (.rejected _) => false
  | .answered _ => true
  | _ => false

/-- No client call meets a fault. -/
@[mk_iff]
structure Replies.Faultless (r : Replies) : Prop where
  debitAccount : AccountReady r.debitAccount
  creditAccount : AccountReady r.creditAccount
  transfer : transferHeard r.transfer = true

instance (r : Replies) : Decidable r.Faultless :=
  decidable_of_iff' _ r.faultless_iff

/-- **A call without a fault succeeds** if the id is not taken by another transfer and, where it is
new, the debited account holds the amount. -/
theorem transfer_ok {id : ID} (h : transfer b id debit credit amount code r = some (b', res))
    (hr : r.Faultless) (hfunded : b.Fresh id → (amount : ℤ) ≤ b.balance debit)
    (hid : ∀ u ∈ b.posted, u.id = id → u = transferFor id debit credit amount code) :
    res = .ok id := by
  obtain ⟨b₂, hb₂, h⟩ | ⟨-, -, hnot | hnot⟩ := transfer_cases h
  · cases hans : r.transfer with
    | unsent | lost => exact absurd hr.transfer (by simp [hans, transferHeard])
    | answered ans =>
      simp only [hans, postTransfer, map_eq_some_iff] at h
      obtain ⟨c, hc, h⟩ := h
      have hrej : ∀ why, ans ≠ .rejected why := by
        rintro why rfl
        exact absurd hr.transfer (by simp [hans, transferHeard])
      by_cases hcr : ans = .created
      · subst hcr
        exact ((Prod.mk.injEq _ _ _ _ ▸ h).2).symm
      by_cases hex : ans = .existing
      · subst hex
        exact ((Prod.mk.injEq _ _ _ _ ▸ h).2).symm
      obtain ⟨-, hnot, htaken⟩ | ⟨-, hfresh, a, -, -, -, hover⟩ :=
        Books.createTransfer_refused hc hcr hex hrej
      · refine absurd (fun u hu hui => hnot ?_) htaken
        rw [← hid u (hb₂ ▸ hu) hui]
        exact hu
      · rw [Books.balance_congr hb₂] at hover
        exact absurd (hfunded fun u hu => hfresh u (hb₂ ▸ hu)) (not_le.mpr hover)
  · exact absurd hr.debitAccount hnot
  · exact absurd hr.creditAccount hnot

end Client

end H2Fleet.Ledger
