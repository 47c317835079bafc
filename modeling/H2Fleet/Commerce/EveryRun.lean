import H2Fleet.Ledger.Cluster
import H2Fleet.Commerce.Wallet

/-!
# What every run keeps

Rows and wallets in any interleaving of any calls, whatever the ledger and the switch answer and
wherever calls crash.  The handlers look at no balance: they rely on the cap that `EnsureAccount`
puts on an account by its number.
-/

namespace H2Fleet.Commerce

open List Option State Ledger

variable {ID : Type} {b b' : Books ID}

/-! ## Ledger calls -/

lemma solvent_ensureAccount {id code : ℕ} {r : Reply AccountAnswer} {res : Except LedgerError Unit}
    (h : b.Solvent capped) (hb : ensureAccount b id code r = some (b', res)) :
    b'.Solvent capped := by
  cases r with
  | unsent text =>
    cases hb
    exact h
  | lost ans text =>
    obtain ⟨c, hc, ⟨⟩⟩ := map_eq_some_iff.mp hb
    exact h.createAccount rfl hc
  | answered ans =>
    obtain ⟨c, hc, hres⟩ := map_eq_some_iff.mp hb
    have hcb : c = b' := by cases ans <;> exact congrArg Prod.fst hres
    exact hcb ▸ h.createAccount rfl hc

variable [DecidableEq ID]

lemma solvent_postTransfer {t : Transfer ID} {r : Reply TransferAnswer}
    {res : Except LedgerError ID} (h : b.Solvent capped)
    (hb : postTransfer b t r = some (b', res)) : b'.Solvent capped := by
  cases r with
  | unsent text =>
    cases hb
    exact h
  | lost ans text =>
    obtain ⟨c, hc, ⟨⟩⟩ := map_eq_some_iff.mp hb
    exact h.createTransfer hc
  | answered ans =>
    obtain ⟨c, hc, hres⟩ := map_eq_some_iff.mp hb
    have hcb : c = b' := by cases ans <;> exact congrArg Prod.fst hres
    exact hcb ▸ h.createTransfer hc

lemma solvent_transfer {id : ID} {debit credit amount code : ℕ} {r : Replies}
    {res : Except LedgerError ID} (h : b.Solvent capped)
    (hb : transfer b id debit credit amount code r = some (b', res)) : b'.Solvent capped := by
  obtain ⟨⟨b₁, res₁⟩, h₁, hb⟩ := bind_eq_some_iff.mp hb
  have hs₁ := solvent_ensureAccount h h₁
  cases res₁ with
  | error e =>
    cases hb
    exact hs₁
  | ok u =>
    obtain ⟨⟨b₂, res₂⟩, h₂, hb⟩ := bind_eq_some_iff.mp hb
    have hs₂ := solvent_ensureAccount hs₁ h₂
    cases res₂ with
    | error e =>
      cases hb
      exact hs₂
    | ok u => exact solvent_postTransfer hs₂ hb

/-! ## Runs -/

variable {cfg : Config ID} {s s' : State ID}

lemma solvent_step {e : Event} (h : s.books.Solvent capped) (hstep : step cfg s e = some s') :
    s'.books.Solvent capped := by
  cases e with
  | post i r =>
    obtain ⟨c, d, b, res, -, -, htransfer, rfl⟩ := post_cases hstep
    exact solvent_transfer h htransfer
  | postRefund j r =>
    obtain ⟨c, -, hstep⟩ := bind_eq_some_iff.mp hstep
    split at hstep
    · obtain ⟨⟨b, res⟩, htransfer, rfl⟩ := map_eq_some_iff.mp hstep
      exact solvent_transfer h htransfer
    · cases hstep
  | topUp subject key amount r =>
    simp only [step, topUp] at hstep
    split at hstep
    · cases hstep
      exact h
    · obtain ⟨⟨b, res⟩, htransfer, rfl⟩ := map_eq_some_iff.mp hstep
      have hb := solvent_transfer h htransfer
      cases res with
      | error e => exact hb
      | ok id =>
        simp only [topUpResult, recordTopUp]
        split_ifs <;> exact hb
  | beginPayment key subject privileged body now =>
    obtain rfl | ⟨c, -, -, -, -, rfl⟩ := beginPayment_cases hstep <;> exact h
  | lock i =>
    obtain ⟨c, -, -, -, rfl⟩ := lock_cases hstep
    exact h
  | resolve i =>
    obtain ⟨c, -, -, rfl⟩ := resolve_cases hstep
    exact h
  | price i =>
    obtain ⟨c, q, charge, -, -, -, rfl⟩ := price_cases hstep
    exact h
  | insert i =>
    obtain ⟨c, q, -, -, ⟨r, rfl⟩ | ⟨-, -, ⟨-, rfl⟩ | ⟨-, rfl⟩⟩⟩ := insert_cases hstep <;> exact h
  | switch i answer =>
    obtain ⟨c, d, -, -, -, rfl⟩ := switch_cases hstep
    exact h
  | commit i =>
    obtain ⟨c, d, -, -, -, rfl⟩ := commit_cases hstep
    exact h
  | abort i =>
    obtain ⟨c, -, -, rfl⟩ := abort_cases hstep
    exact h
  | beginRefund id requested =>
    obtain rfl | ⟨p, amount, -, -, -, -, -, rfl⟩ := beginRefund_cases hstep <;> exact h
  | updateRefund j =>
    obtain ⟨c, tb, -, -, ⟨p, r, -, -, rfl⟩ | ⟨-, r, rfl⟩⟩ := updateRefund_cases hstep <;> exact h
  | crashRefund j =>
    obtain ⟨c, -, ⟨-, rfl⟩ | ⟨-, rfl⟩⟩ := crashRefund_cases hstep <;> exact h
  | setEntitlements es =>
    cases hstep
    exact h

/-- **No wallet is ever overdrawn**, as long as `EnsureAccount` caps its number. -/
theorem wallets_never_overdrawn {es : List Event} (hrun : run (step cfg) init es = some s)
    {rider : String} {a : ℕ} (ha : s.account? rider = some a) (hrange : isRiderWallet a = true) :
    0 ≤ s.wallet rider := by
  have hstep : ∀ (s : State ID) e s', s.books.Solvent capped → step cfg s e = some s' →
      s'.books.Solvent capped := fun _ _ _ => solvent_step
  have hinit : (init : State ID).books.Solvent capped :=
    ⟨by simp [init, bootstrapped, accountFor, capped], fun _ _ => le_rfl⟩
  have hsolvent := run_invariant_always hstep hinit hrun
  rw [wallet, ha]
  exact hsolvent.covered a (by simp [capped, hrange])

theorem wallets_never_overdrawn_covered : ∃ s, run (step defaultConfig) init coveredRun = some s ∧
    s.account? "rider-1" = some 1001 ∧ 0 ≤ s.wallet "rider-1" := by
  obtain ⟨s, hrun, ha⟩ : ∃ s, run (step defaultConfig) init coveredRun = some s ∧
      s.account? "rider-1" = some 1001 := by
    decide +kernel
  exact ⟨s, hrun, ha, wallets_never_overdrawn hrun ha rfl⟩

/-- **The payment rows**: ids and keys are unique, each row is that of a call that has returned, and
of the riders with one lock a single call is past it. -/
theorem payment_rows_sound (hinj : Function.Injective cfg.newID) {es : List Event}
    (hrun : run (step cfg) init es = some s) :
    (s.rows.map Payment.id).Nodup ∧ (s.rows.map Payment.idempotencyKey).Nodup ∧
      (∀ p ∈ s.rows, p.Ok ∧ ∃ (i : ℕ) (c : PayCall ID) (r : _), s.payments[i]? = some c ∧
        c.pc = .done r ∧ p.id = cfg.newID i) ∧
      ∀ (i j : ℕ) (c d : PayCall ID), s.payments[i]? = some c → s.payments[j]? = some d → i ≠ j →
        c.pc.holdsLock = true → d.pc.holdsLock = true →
        cfg.hashtext c.rider ≠ cfg.hashtext d.rider := by
  have h : Consistent cfg s := run_invariant_always (fun _ _ _ h hs => h.step hinj hs) .init hrun
  exact ⟨h.ids, h.keys, fun p hp => ⟨h.rows p hp, h.origin p hp⟩, h.locks⟩

theorem payment_rows_sound_covered : ∃ s, run (step defaultConfig) init coveredRun = some s ∧
    s.rows.length = 2 ∧ ∀ p ∈ s.rows, p.Ok := by
  obtain ⟨s, hrun, hrows⟩ : ∃ s, run (step defaultConfig) init coveredRun = some s ∧
      s.rows.length = 2 := by
    decide +kernel
  have h := payment_rows_sound defaultConfig_newID_injective hrun
  exact ⟨s, hrun, hrows, fun p hp => (h.2.2.1 p hp).1⟩

end H2Fleet.Commerce
