import Mathlib.Tactic
import Mathlib.Algebra.BigOperators.Group.List.Basic

/-!
# A double-entry ledger with transfer ids

Accounts and posted transfers, with the documented contract of the two batch calls of a ledger that
posts a transfer id at most once.  Which answer a call gets is the environment's choice; the
contract says in which books an answer is possible and what it does to them.
-/

namespace H2Fleet

open List Option

/-- An account; `capped` says that its debits must not exceed its credits. -/
structure Account where
  id : ℕ
  ledger : ℕ
  code : ℕ
  capped : Bool
  deriving DecidableEq

structure Transfer (ID : Type) where
  id : ID
  debit : ℕ
  credit : ℕ
  amount : ℕ
  ledger : ℕ
  code : ℕ
  deriving DecidableEq

structure Books (ID : Type) where
  accounts : List Account
  posted : List (Transfer ID)
  deriving DecidableEq

open Books

/-- The answers to a request for an account. -/
inductive AccountAnswer where
  | created
  | existing
  | rejected (why : String)
  deriving DecidableEq

/-- `different` is an id posted with other parameters, `rejected` any other refusal. -/
inductive TransferAnswer where
  | created
  | existing
  | different (why : String)
  | exceedsCredits
  | rejected (why : String)
  deriving DecidableEq

section Books

variable {ID : Type} (b : Books ID)

def Transfer.effect (t : Transfer ID) (a : ℕ) : ℤ :=
  (if t.credit = a then (t.amount : ℤ) else 0) - (if t.debit = a then (t.amount : ℤ) else 0)

/-- The credits of an account less its debits. -/
def Books.balance (a : ℕ) : ℤ := (b.posted.map fun t => t.effect a).sum

def Books.Fresh (id : ID) : Prop := ∀ t ∈ b.posted, t.id ≠ id

def Books.Overdraws (t : Transfer ID) : Prop :=
  ∃ a ∈ b.accounts, a.id = t.debit ∧ a.capped = true ∧ b.balance t.debit < t.amount
  deriving Decidable

@[mk_iff]
structure Books.Accepts (t : Transfer ID) : Prop where
  fresh : b.Fresh t.id
  distinct : t.debit ≠ t.credit
  hasDebit : ∃ a ∈ b.accounts, a.id = t.debit
  hasCredit : ∃ a ∈ b.accounts, a.id = t.credit
  covered : ¬ b.Overdraws t

def Books.createAccount (a : Account) : AccountAnswer → Option (Books ID)
  | .created =>
    if ∀ c ∈ b.accounts, c.id ≠ a.id then some { b with accounts := b.accounts ++ [a] } else none
  | .existing => if a ∈ b.accounts then some b else none
  | .rejected _ => if a ∈ b.accounts then none else some b

def Books.UniqueIds : Prop := (b.posted.map Transfer.id).Nodup

/-! ## Balances -/

lemma Books.balance_post (t : Transfer ID) (a : ℕ) :
    ({ b with posted := b.posted ++ [t] } : Books ID).balance a = b.balance a + t.effect a := by
  simp [balance]

variable {b b' : Books ID}

lemma Books.balance_congr (h : b'.posted = b.posted) (a : ℕ) : b'.balance a = b.balance a := by
  rw [balance, h, balance]

variable {t : Transfer ID}

lemma Transfer.effect_debit {a : ℕ} (hd : t.debit = a) (hc : t.credit ≠ a) :
    t.effect a = -(t.amount : ℤ) := by
  simp [Transfer.effect, hd, hc]

lemma Transfer.effect_credit {a : ℕ} (hc : t.credit = a) (hd : t.debit ≠ a) :
    t.effect a = t.amount := by
  simp [Transfer.effect, hd, hc]

lemma Transfer.effect_other {a : ℕ} (hd : t.debit ≠ a) (hc : t.credit ≠ a) : t.effect a = 0 := by
  simp [Transfer.effect, hd, hc]

/-! ## Ids -/

variable {b : Books ID}

lemma Books.uniqueIds_post (h : b.UniqueIds) (hf : b.Fresh t.id) :
    ({ b with posted := b.posted ++ [t] } : Books ID).UniqueIds := by
  simp only [UniqueIds, map_append, map_cons, map_nil]
  refine nodup_append.mpr ⟨h, nodup_singleton _, ?_⟩
  rintro i hi j hj rfl
  obtain ⟨u, hu, hui⟩ := mem_map.mp hi
  rw [mem_singleton] at hj
  exact hf u hu (hui.trans hj)

lemma Books.fresh_congr (h : b'.posted = b.posted) (id : ID) : b'.Fresh id ↔ b.Fresh id := by
  rw [Fresh, h, Fresh]

lemma Books.fresh_post (h : b'.posted = b.posted ++ [t]) (id : ID) :
    b'.Fresh id ↔ b.Fresh id ∧ t.id ≠ id := by
  simp only [Fresh, h, forall_mem_append, forall_mem_singleton]

lemma Books.UniqueIds.eq (h : b.UniqueIds) {t u : Transfer ID} (ht : t ∈ b.posted)
    (hu : u ∈ b.posted) (hid : t.id = u.id) : t = u :=
  inj_on_of_nodup_map h ht hu hid

/-- Of the posted transfers with a condition that fixes the id there is one. -/
lemma Books.UniqueIds.filter_eq (h : b.UniqueIds) (ht : t ∈ b.posted) {p : Transfer ID → Bool}
    (hpt : p t = true) (hp : ∀ u ∈ b.posted, p u = true → u.id = t.id) :
    b.posted.filter p = [t] := by
  have hall : ∀ u ∈ b.posted.filter p, u = t := by
    intro u hu
    obtain ⟨hmem, hpu⟩ := mem_filter.mp hu
    exact h.eq hmem ht (hp u hmem hpu)
  have hnodup : (b.posted.filter p).Nodup := (Nodup.of_map _ h).filter _
  rw [eq_replicate_of_mem hall] at hnodup ⊢
  have hpos : 0 < (b.posted.filter p).length :=
    length_pos_of_mem (mem_filter.mpr ⟨ht, hpt⟩)
  have hle := nodup_replicate.mp hnodup
  rw [show (b.posted.filter p).length = 1 by omega]
  rfl

/-! ## What a call does -/

variable {a : Account}

namespace Books

lemma createAccount_posted {ans : AccountAnswer} (h : b.createAccount a ans = some b') :
    b'.posted = b.posted := by
  cases ans with
  | created =>
    by_cases hnew : ∀ c ∈ b.accounts, c.id ≠ a.id
    · rw [createAccount, if_pos hnew, some.injEq] at h
      rw [← h]
    · rw [createAccount, if_neg hnew] at h
      cases h
  | existing =>
    simp only [createAccount, ite_none_right_eq_some, some.injEq] at h
    rw [h.2]
  | rejected why =>
    simp only [createAccount, ite_none_left_eq_some, some.injEq] at h
    rw [h.2]

/-- The id belongs to an account with another code or other flags. -/
def Conflicts (b : Books ID) (a : Account) : Prop :=
  a ∉ b.accounts ∧ ∃ c ∈ b.accounts, c.id = a.id
  deriving Decidable

def accountAnswer (b : Books ID) (a : Account) : AccountAnswer :=
  if a ∈ b.accounts then .existing
  else if ∃ c ∈ b.accounts, c.id = a.id then .rejected "exists with different code or flags"
  else .created

def opened (b : Books ID) (a : Account) : Books ID :=
  if ∃ c ∈ b.accounts, c.id = a.id then b else { b with accounts := b.accounts ++ [a] }

lemma createAccount_accountAnswer (b : Books ID) (a : Account) :
    b.createAccount a (b.accountAnswer a) = some (b.opened a) := by
  by_cases hmem : a ∈ b.accounts
  · have hid : ∃ c ∈ b.accounts, c.id = a.id := ⟨a, hmem, rfl⟩
    simp only [accountAnswer, if_pos hmem, createAccount, opened, if_pos hid]
  · by_cases hid : ∃ c ∈ b.accounts, c.id = a.id
    · simp only [accountAnswer, if_neg hmem, if_pos hid, createAccount, opened]
    · have hnew : ∀ c ∈ b.accounts, c.id ≠ a.id := fun c hc heq => hid ⟨c, hc, heq⟩
      simp [accountAnswer, if_neg hmem, if_neg hid, createAccount, if_pos hnew, opened]

lemma accountAnswer_of_conflicts (h : b.Conflicts a) :
    b.accountAnswer a = .rejected "exists with different code or flags" := by
  rw [accountAnswer, if_neg h.1, if_pos h.2]

lemma accountAnswer_of_not_conflicts (h : ¬ b.Conflicts a) :
    b.accountAnswer a = .existing ∨ b.accountAnswer a = .created := by
  rw [accountAnswer]
  by_cases hmem : a ∈ b.accounts
  · exact .inl (if_pos hmem)
  · refine .inr ?_
    rw [if_neg hmem, if_neg fun hid => h ⟨hmem, hid⟩]

@[simp] lemma opened_posted (b : Books ID) (a : Account) : (b.opened a).posted = b.posted := by
  rw [opened]
  split_ifs <;> rfl

lemma mem_opened {a c : Account} (h : c ∈ (b.opened a).accounts) : c ∈ b.accounts ∨ c = a := by
  rw [opened] at h
  split_ifs at h
  · exact .inl h
  · simpa using h

lemma subset_opened (b : Books ID) (a : Account) : b.accounts ⊆ (b.opened a).accounts := by
  rw [opened]
  split_ifs
  · exact fun _ hc => hc
  · exact subset_append_left _ _

lemma self_mem_opened (h : ¬ b.Conflicts a) : a ∈ (b.opened a).accounts := by
  rw [opened]
  split_ifs with hid
  · by_contra hmem
    exact h ⟨hmem, hid⟩
  · simp

lemma conflicts_opened {a c : Account} (ha : ¬ b.Conflicts a) (hsame : c.id = a.id → c = a) :
    (b.opened a).Conflicts c ↔ b.Conflicts c := by
  by_cases hid : c.id = a.id
  · rw [hsame hid]
    exact ⟨fun h => absurd (self_mem_opened ha) h.1, fun h => absurd h ha⟩
  · have hmem : c ∈ (b.opened a).accounts ↔ c ∈ b.accounts := by
      refine ⟨fun h => ?_, fun h => b.subset_opened a h⟩
      rcases mem_opened h with h | rfl
      · exact h
      · exact absurd rfl hid
    have hids : (∃ d ∈ (b.opened a).accounts, d.id = c.id) ↔ ∃ d ∈ b.accounts, d.id = c.id := by
      constructor
      · rintro ⟨d, hd, hdc⟩
        rcases mem_opened hd with hd | rfl
        · exact ⟨d, hd, hdc⟩
        · exact absurd hdc.symm hid
      · rintro ⟨d, hd, hdc⟩
        exact ⟨d, b.subset_opened a hd, hdc⟩
    rw [Conflicts, Conflicts, hmem, hids]

end Books

variable [DecidableEq ID]

instance (b : Books ID) (id : ID) : Decidable (b.Fresh id) :=
  inferInstanceAs (Decidable (∀ _ ∈ _, _))

instance (b : Books ID) (t : Transfer ID) : Decidable (b.Accepts t) :=
  decidable_of_iff' _ (b.accepts_iff t)

def Books.createTransfer (b : Books ID) (t : Transfer ID) : TransferAnswer → Option (Books ID)
  | .created => if b.Accepts t then some { b with posted := b.posted ++ [t] } else none
  | .existing => if t ∈ b.posted then some b else none
  | .different _ => if t ∉ b.posted ∧ ¬ b.Fresh t.id then some b else none
  | .exceedsCredits => if b.Fresh t.id ∧ b.Overdraws t then some b else none
  | .rejected _ => if t ∉ b.posted then some b else none

/-- **What a call does**: a transfer created is new; other answers leave the books. -/
lemma Books.createTransfer_cases {ans : TransferAnswer} (h : b.createTransfer t ans = some b') :
    (ans = .created ∧ b.Accepts t ∧ b' = { b with posted := b.posted ++ [t] }) ∨
      (ans = .existing ∧ t ∈ b.posted ∧ b' = b) ∨
      (ans ≠ .created ∧ ans ≠ .existing ∧ t ∉ b.posted ∧ b' = b) := by
  cases ans with
  | created =>
    obtain ⟨hacc, ⟨⟩⟩ := ite_none_right_eq_some.mp h
    exact .inl ⟨rfl, hacc, rfl⟩
  | existing =>
    obtain ⟨hmem, ⟨⟩⟩ := ite_none_right_eq_some.mp h
    exact .inr (.inl ⟨rfl, hmem, rfl⟩)
  | different why =>
    obtain ⟨hold, ⟨⟩⟩ := ite_none_right_eq_some.mp h
    exact .inr (.inr ⟨nofun, nofun, hold.1, rfl⟩)
  | exceedsCredits =>
    obtain ⟨hnew, ⟨⟩⟩ := ite_none_right_eq_some.mp h
    exact .inr (.inr ⟨nofun, nofun, fun hm => hnew.1 t hm rfl, rfl⟩)
  | rejected why =>
    obtain ⟨hnot, ⟨⟩⟩ := ite_none_right_eq_some.mp h
    exact .inr (.inr ⟨nofun, nofun, hnot, rfl⟩)

lemma Books.createTransfer_refused {ans : TransferAnswer} (h : b.createTransfer t ans = some b')
    (hc : ans ≠ .created) (he : ans ≠ .existing) (hr : ∀ why, ans ≠ .rejected why) :
    (ans ≠ .exceedsCredits ∧ t ∉ b.posted ∧ ¬ b.Fresh t.id) ∨
      (ans = .exceedsCredits ∧ b.Fresh t.id ∧ b.Overdraws t) := by
  cases ans with
  | created => exact absurd rfl hc
  | existing => exact absurd rfl he
  | rejected why => exact absurd rfl (hr why)
  | different why =>
    simp only [createTransfer, ite_none_right_eq_some] at h
    exact .inl ⟨nofun, h.1⟩
  | exceedsCredits =>
    simp only [createTransfer, ite_none_right_eq_some] at h
    exact .inr ⟨rfl, h.1⟩

/-! ## The answer to a transfer -/

def Books.transferAnswer (b : Books ID) (t : Transfer ID) : TransferAnswer :=
  if t ∈ b.posted then .existing
  else if ¬ b.Fresh t.id then .different "exists with different parameters"
  else if t.debit = t.credit then .rejected "accounts must be different"
  else if ¬ ∃ a ∈ b.accounts, a.id = t.debit then .rejected "debit account not found"
  else if ¬ ∃ a ∈ b.accounts, a.id = t.credit then .rejected "credit account not found"
  else if b.Overdraws t then .exceedsCredits
  else .created

/-- **Which answer it is**, where both accounts exist. -/
lemma Books.transferAnswer_cases (hdebit : ∃ a ∈ b.accounts, a.id = t.debit)
    (hcredit : ∃ a ∈ b.accounts, a.id = t.credit) :
    (b.transferAnswer t = .existing ∧ t ∈ b.posted) ∨
      ((∃ why, b.transferAnswer t = .different why) ∧ t ∉ b.posted ∧ ¬ b.Fresh t.id) ∨
      ((∃ why, b.transferAnswer t = .rejected why) ∧ t ∉ b.posted ∧ t.debit = t.credit) ∨
      (b.transferAnswer t = .exceedsCredits ∧ b.Fresh t.id ∧ t.debit ≠ t.credit ∧ b.Overdraws t) ∨
      (b.transferAnswer t = .created ∧ b.Accepts t) := by
  rw [transferAnswer]
  by_cases hposted : t ∈ b.posted
  · exact .inl ⟨if_pos hposted, hposted⟩
  · by_cases hfresh : b.Fresh t.id
    · by_cases hsame : t.debit = t.credit
      · simp [hposted, hfresh, hsame]
      · by_cases hover : b.Overdraws t
        · simp [hposted, hfresh, hsame, hdebit, hcredit, hover]
        · have hacc : b.Accepts t := ⟨hfresh, hsame, hdebit, hcredit, hover⟩
          simp [hposted, hfresh, hsame, hdebit, hcredit, hover, hacc]
    · simp [hposted, hfresh]

lemma Books.transferAnswer_of_accepts (h : b.Accepts t) : b.transferAnswer t = .created := by
  have hposted : t ∉ b.posted := fun hmem => h.fresh t hmem rfl
  simp only [transferAnswer, if_neg hposted, if_neg (not_not.mpr h.fresh), if_neg h.distinct,
    if_neg (not_not.mpr h.hasDebit), if_neg (not_not.mpr h.hasCredit), if_neg h.covered]

/-- **The cluster answers**, and posts the transfers it accepts. -/
lemma Books.createTransfer_transferAnswer (b : Books ID) (t : Transfer ID) :
    b.createTransfer t (b.transferAnswer t) =
      some (if b.Accepts t then { b with posted := b.posted ++ [t] } else b) := by
  by_cases hacc : b.Accepts t
  · rw [transferAnswer_of_accepts hacc, createTransfer, if_pos hacc, if_pos hacc]
  · rw [if_neg hacc, transferAnswer]
    by_cases hposted : t ∈ b.posted
    · rw [if_pos hposted, createTransfer, if_pos hposted]
    · have hrejected : ∀ why, b.createTransfer t (.rejected why) = some b := fun _ => if_pos hposted
      by_cases hfresh : b.Fresh t.id
      · rw [if_neg hposted, if_neg (not_not.mpr hfresh)]
        by_cases hsame : t.debit = t.credit
        · rw [if_pos hsame, hrejected]
        · by_cases hdebit : ∃ a ∈ b.accounts, a.id = t.debit
          · by_cases hcredit : ∃ a ∈ b.accounts, a.id = t.credit
            · by_cases hover : b.Overdraws t
              · rw [if_neg hsame, if_neg (not_not.mpr hdebit), if_neg (not_not.mpr hcredit),
                  if_pos hover, createTransfer, if_pos ⟨hfresh, hover⟩]
              · exact absurd ⟨hfresh, hsame, hdebit, hcredit, hover⟩ hacc
            · rw [if_neg hsame, if_neg (not_not.mpr hdebit), if_pos hcredit, hrejected]
          · rw [if_neg hsame, if_pos hdebit, hrejected]
      · rw [if_neg hposted, if_pos hfresh, createTransfer, if_pos ⟨hposted, hfresh⟩]

end Books

/-! ## Solvency -/

section Solvency

variable {ID : Type} {b b' : Books ID} {t : Transfer ID} {capped : ℕ → Bool}

/-- Every account has the flag of its id, and no capped one is overdrawn. -/
structure Books.Solvent (capped : ℕ → Bool) (b : Books ID) : Prop where
  flags : ∀ a ∈ b.accounts, a.capped = capped a.id
  covered : ∀ a, capped a = true → 0 ≤ b.balance a

lemma Books.Solvent.createAccount (h : b.Solvent capped) {a : Account} (ha : a.capped = capped a.id)
    {ans : AccountAnswer} (hb : b.createAccount a ans = some b') : b'.Solvent capped := by
  cases ans with
  | created =>
    obtain ⟨-, ⟨⟩⟩ := ite_none_right_eq_some.mp hb
    exact ⟨forall_mem_append.mpr ⟨h.flags, forall_mem_singleton.mpr ha⟩, h.covered⟩
  | existing =>
    obtain ⟨-, ⟨⟩⟩ := ite_none_right_eq_some.mp hb
    exact h
  | rejected why =>
    obtain ⟨-, ⟨⟩⟩ := ite_none_left_eq_some.mp hb
    exact h

lemma Books.Solvent.post (h : b.Solvent capped) (ht : b.Accepts t) :
    Solvent capped { b with posted := b.posted ++ [t] } := by
  refine ⟨h.flags, fun a ha => ?_⟩
  rw [balance_post]
  have hold := h.covered a ha
  by_cases hd : t.debit = a
  · -- the cap of the debited account leaves room for the amount
    obtain ⟨c, hc, hcd⟩ := ht.hasDebit
    have hroom : ¬ b.balance t.debit < t.amount := fun hlt =>
      ht.covered ⟨c, hc, hcd, by rw [h.flags c hc, hcd, hd, ha], hlt⟩
    rw [t.effect_debit hd fun hca => ht.distinct (hd.trans hca.symm)]
    rw [hd] at hroom
    omega
  · by_cases hc : t.credit = a
    · rw [t.effect_credit hc hd]
      omega
    · rw [t.effect_other hd hc]
      omega

lemma Books.Solvent.createTransfer [DecidableEq ID] (h : b.Solvent capped) {ans : TransferAnswer}
    (hb : b.createTransfer t ans = some b') : b'.Solvent capped := by
  obtain ⟨-, hacc, rfl⟩ | ⟨-, -, rfl⟩ | ⟨-, -, -, rfl⟩ := createTransfer_cases hb
  · exact h.post hacc
  · exact h
  · exact h

end Solvency

end H2Fleet
