import H2Fleet.Commerce.World

/-!
# What the steps do

One inversion lemma for each step of `H2Fleet.Commerce.World`: which call it is a step of, where
that call stands, and the state that follows.  The proofs about whole runs use these and never
unfold the step function.
-/

namespace H2Fleet.Commerce

open List Option State

variable {ID : Type} {cfg : Config ID} {s s' : State ID}

/-! ## Transfer ids -/

lemma refundKey_inj {p q : String} {m n : ℤ} (hm : 0 ≤ m) (hn : 0 ≤ n)
    (h : refundKey p m = refundKey q n) : p = q ∧ m = n := by
  obtain ⟨hp, ht⟩ := numbered_inj h
  exact ⟨(String.append_right_inj _).mp hp, by omega⟩

lemma tid_refundKey_inj (hsha : Function.Injective cfg.sha16) {p q : String} {m n : ℤ} (hm : 0 ≤ m)
    (hn : 0 ≤ n) (h : cfg.tid (refundKey p m) = cfg.tid (refundKey q n)) : p = q ∧ m = n :=
  refundKey_inj hm hn ((Ledger.deterministicTransferID_inj hsha).mp h)

lemma tid_topup_inj (hsha : Function.Injective cfg.sha16) {k k' : String}
    (h : cfg.tid ("topup:" ++ k) = cfg.tid ("topup:" ++ k')) : k = k' :=
  (String.append_right_inj _).mp ((Ledger.deterministicTransferID_inj hsha).mp h)

/-! ## Wallet accounts -/

lemma afterLedger_eq (s : State ID) (rider : String) (b : Books ID) :
    s.afterLedger rider b =
      { s with accounts := (s.riderAccount rider).1.accounts, books := b } := by
  rw [afterLedger, riderAccount]
  cases s.account? rider <;> rfl

lemma account?_congr (h : s'.accounts = s.accounts) (rider : String) :
    s'.account? rider = s.account? rider := by
  rw [account?, h, account?]

variable {rider : String}

variable {a j : ℕ} {key subject : String}

lemma account?_mem (h : s.account? rider = some a) : (rider, a) ∈ s.accounts := by
  obtain ⟨⟨q, b⟩, hfind, rfl⟩ := map_eq_some_iff.mp h
  have hq : q = rider := by simpa using find?_some hfind
  exact hq ▸ mem_of_find?_eq_some hfind

lemma account?_riderAccount (rider other : String) :
    (s.riderAccount rider).1.account? other =
      if other = rider then some (s.riderAccount rider).2 else s.account? other := by
  cases h : s.account? rider with
  | some a =>
    simp only [riderAccount, h]
    by_cases ho : other = rider
    · rw [if_pos ho, ho, h]
    · rw [if_neg ho]
  | none =>
    simp only [riderAccount, h]
    by_cases ho : other = rider
    · subst ho
      rw [if_pos rfl]
      have hnone : s.accounts.find? (fun a => a.1 = other) = none := by
        simpa [account?] using h
      simp [account?, find?_append, hnone]
    · have hne : rider ≠ other := fun hr => ho hr.symm
      simp [account?, find?_append, ho, hne]

lemma account?_riderAccount_self (rider : String) :
    (s.riderAccount rider).1.account? rider = some (s.riderAccount rider).2 := by
  rw [account?_riderAccount, if_pos rfl]

lemma riderAccount_of_some (h : s.account? rider = some a) : (s.riderAccount rider).2 = a := by
  simp only [riderAccount, h]

lemma account?_riderAccount_of_some {other : String} (h : s.account? other = some a)
    (rider : String) : (s.riderAccount rider).1.account? other = some a := by
  rw [account?_riderAccount]
  split_ifs with ho
  · subst ho
    rw [riderAccount_of_some h]
  · exact h

lemma riderAccount_of_none (h : s.account? rider = none) :
    (s.riderAccount rider).2 = s.nextAccount := by
  simp only [riderAccount, h]

/-! ## CreatePayment -/

lemma checkPayment_amount {body : Option PaymentBody} {b : PaymentBody}
    (h : checkPayment cfg key subject body = .ok b) : 0 < b.amountMinor ∧
    InInt64 b.amountMinor := by
  cases body with
  | none =>
    simp only [checkPayment] at h
    split_ifs at h
  | some body =>
    simp only [checkPayment] at h
    -- with the default currency or the one of the request
    split_ifs at h with _ hrange hpos
    all_goals
      cases h
      exact ⟨not_le.mp hpos, hrange⟩

lemma beginPayment_cases {privileged : Bool} {body : Option PaymentBody} {now : ℤ}
    (h : some (s.beginPayment cfg key subject privileged body now) = some s') :
    s' = s ∨ ∃ c : PayCall ID, c.pc = .begun ∧ c.rider = subject ∧ c.key = key ∧ c.faulty = false ∧
      s' = { s with payments := s.payments ++ [c] } := by
  cases h
  rw [beginPayment]
  cases checkPayment cfg key subject body with
  | error r => exact .inl rfl
  | ok b => exact .inr ⟨_, rfl, rfl, rfl, rfl, rfl⟩

variable {i : ℕ}

lemma lock_cases (h : s.lock cfg i = some s') :
    ∃ c, s.payments[i]? = some c ∧ c.pc = .begun ∧
      (∀ d ∈ s.payments, d.pc.holdsLock = true → cfg.hashtext d.rider ≠ cfg.hashtext c.rider) ∧
      s' = s.setPayment i { c with pc := .locked } := by
  obtain ⟨c, hc, h⟩ := bind_eq_some_iff.mp h
  split at h
  · rename_i hpc
    rw [ite_none_right_eq_some, some.injEq] at h
    exact ⟨c, hc, hpc, h.1, h.2.symm⟩
  · cases h

lemma resolve_cases (h : s.resolve i = some s') :
    ∃ c, s.payments[i]? = some c ∧ c.pc = .locked ∧
      s' = s.setPayment i
        { c with pc := .resolved (resolveEntitlement s.entitlements c.rider c.now c.amount) } := by
  obtain ⟨c, hc, h⟩ := bind_eq_some_iff.mp h
  split at h
  · rename_i hpc
    rw [some.injEq] at h
    exact ⟨c, hc, hpc, h.symm⟩
  · cases h

lemma price_cases (h : s.price cfg i = some s') :
    ∃ c q charge, s.payments[i]? = some c ∧ c.pc = .resolved q ∧
      ((0 < cfg.cap ∧ InInt64 (s.spent cfg c) ∧ 0 < q.charge ∧
          charge = applyCap cfg.cap (s.spent cfg c) q.charge) ∨
        (charge = q.charge ∧ (0 < cfg.cap → q.charge ≤ 0))) ∧
      s' = s.setPayment i { c with pc := .priced { q with charge := charge } } := by
  obtain ⟨c, hc, h⟩ := bind_eq_some_iff.mp h
  split at h
  · rename_i q hpc
    by_cases hcap : 0 < cfg.cap ∧ 0 < q.charge
    · rw [if_pos hcap, ite_none_right_eq_some, some.injEq] at h
      exact ⟨c, q, _, hc, hpc, .inl ⟨hcap.1, h.1, hcap.2, rfl⟩, h.2.symm⟩
    · rw [if_neg hcap, some.injEq] at h
      exact ⟨c, q, q.charge, hc, hpc, .inr ⟨rfl, fun hpos => not_lt.mp fun hq => hcap ⟨hpos, hq⟩⟩,
        h.symm⟩
  · cases h

lemma insert_cases (h : s.insert cfg i = some s') :
    ∃ c q, s.payments[i]? = some c ∧ c.pc = .priced q ∧
      ((∃ r, s' = s.setPayment i { c with pc := .done r }) ∨
        ((∀ d ∈ s.payments, d.pc.draft.isSome = true → d.key ≠ c.key) ∧
          (∀ p ∈ s.rows, p.idempotencyKey ≠ some c.key) ∧
          ((0 < q.charge ∧ s' = s.setPayment i
              { c with
                pc := .inserted ⟨newRow cfg i c q.charge, accrual cfg i c q, false, none⟩ }) ∨
            (q.charge ≤ 0 ∧ s' = s.setPayment i
              { c with
                pc := .posted ⟨{ newRow cfg i c q.charge with status := .settled },
                  accrual cfg i c q, false, none⟩ })))) := by
  obtain ⟨c, hc, h⟩ := bind_eq_some_iff.mp h
  split at h
  · rename_i q hpc
    rw [ite_none_right_eq_some] at h
    obtain ⟨hblocked, h⟩ := h
    refine ⟨c, q, hc, hpc, ?_⟩
    split at h
    · rw [some.injEq] at h
      exact .inl ⟨_, h.symm⟩
    · rename_i hfind
      have hrows : ∀ p ∈ s.rows, p.idempotencyKey ≠ some c.key := by
        intro p hp hkey
        simpa [hkey] using find?_eq_none.mp hfind p hp
      refine .inr ⟨hblocked, hrows, ?_⟩
      by_cases hcharge : 0 < q.charge
      · rw [if_pos hcharge, some.injEq] at h
        exact .inl ⟨hcharge, h.symm⟩
      · rw [if_neg hcharge, some.injEq] at h
        exact .inr ⟨not_lt.mp hcharge, h.symm⟩
  · cases h

lemma switch_cases {answer : Except SwitchError String} (h : s.switch i answer = some s') :
    ∃ c d, s.payments[i]? = some c ∧ c.pc = .posted d ∧ d.row.status = .settled ∧
      s' = s.setPayment i
        { c with faulty := c.faulty || !answer.isOk, pc := .switched (d.switchResult answer) } := by
  obtain ⟨c, hc, h⟩ := bind_eq_some_iff.mp h
  split at h
  · rename_i d hpc
    rw [ite_none_right_eq_some, some.injEq] at h
    exact ⟨c, d, hc, hpc, h.1.2, h.2.symm⟩
  · cases h

lemma commit_cases (h : s.commit i = some s') :
    ∃ c d, s.payments[i]? = some c ∧ c.pc.draft = some d ∧ (c.pc = .posted d ∨ c.pc = .switched d) ∧
      s' = s.finish i c d := by
  obtain ⟨c, hc, h⟩ := bind_eq_some_iff.mp h
  split at h
  · rename_i d hpc
    rw [ite_none_left_eq_some, some.injEq] at h
    exact ⟨c, d, hc, by rw [hpc]; rfl, .inl hpc, h.2.symm⟩
  · rename_i d hpc
    rw [some.injEq] at h
    exact ⟨c, d, hc, by rw [hpc]; rfl, .inr hpc, h.symm⟩
  · cases h

lemma abort_cases (h : s.abort i = some s') :
    ∃ c, s.payments[i]? = some c ∧ (∀ r, c.pc ≠ .done r) ∧
      s' = s.setPayment i { c with pc := .aborted } := by
  obtain ⟨c, hc, h⟩ := bind_eq_some_iff.mp h
  split at h
  · cases h
  · cases h
  · rename_i hdone haborted
    rw [some.injEq] at h
    exact ⟨c, hc, hdone, h.symm⟩

/-! ## RefundPayment -/

lemma beginRefund_cases {id : String} {requested : Option ℤ}
    (h : some (s.beginRefund id requested) = some s') :
    s' = s ∨ ∃ p amount, p ∈ s.rows ∧ p.id = id ∧
      (p.status = .settled ∨ p.status = .partiallyRefunded) ∧ 0 ≤ amount ∧
      amount ≤ max (p.effectiveCharged - p.refundedMinor) 0 ∧
      s' = { s with
        refunds := s.refunds ++ [⟨p, amount, if 0 < amount then .loaded else .posted none⟩] } := by
  cases h
  rw [beginRefund]
  cases h : refundAmount (s.rows.find? fun p => p.id = id) requested with
  | error r => exact .inl rfl
  | ok r =>
    obtain ⟨p, amount⟩ := r
    obtain ⟨hfind, hstatus, hpos, hle⟩ := refundAmount_ok h
    have hid : p.id = id := by simpa using find?_some hfind
    exact .inr ⟨p, amount, mem_of_find?_eq_some hfind, hid, hstatus, hpos, hle, rfl⟩

lemma updateRefund_cases (h : s.updateRefund j = some s') :
    ∃ c tb, s.refunds[j]? = some c ∧ c.pc = .posted tb ∧
      ((∃ p r, p ∈ s.rows ∧ c.Matches p ∧
          s' = { s with rows := s.rows.map fun p => if c.Matches p then c.apply p else p }.setRefund
            j { c with pc := .done r }) ∨
        ((∀ p ∈ s.rows, ¬ c.Matches p) ∧ ∃ r, s' = s.setRefund j { c with pc := .done r })) := by
  obtain ⟨c, hc, h⟩ := bind_eq_some_iff.mp h
  split at h
  · rename_i tb hpc
    refine ⟨c, tb, hc, hpc, ?_⟩
    split at h
    · rename_i p hfind
      rw [some.injEq] at h
      have hmatch : c.Matches p := by simpa using find?_some hfind
      exact .inl ⟨p, _, mem_of_find?_eq_some hfind, hmatch, h.symm⟩
    · rename_i hfind
      rw [some.injEq] at h
      refine .inr ⟨fun p hp hm => ?_, _, h.symm⟩
      simpa [hm] using find?_eq_none.mp hfind p hp
  · cases h

lemma crashRefund_cases (h : s.crashRefund j = some s') :
    ∃ c, s.refunds[j]? = some c ∧
      ((c.pc = .loaded ∧ s' = s.setRefund j { c with pc := .crashed false }) ∨
        ((∃ tb, c.pc = .posted tb) ∧ s' = s.setRefund j { c with pc := .crashed true })) := by
  obtain ⟨c, hc, h⟩ := bind_eq_some_iff.mp h
  refine ⟨c, hc, ?_⟩
  split at h
  · rename_i hpc
    rw [some.injEq] at h
    exact .inl ⟨hpc, h.symm⟩
  · rename_i tb hpc
    rw [some.injEq] at h
    exact .inr ⟨⟨tb, hpc⟩, h.symm⟩
  · cases h

/-! ## The ledger -/

variable [DecidableEq ID] {r : Ledger.Replies}

lemma post_cases (h : s.post cfg i r = some s') :
    ∃ c d b res, s.payments[i]? = some c ∧ c.pc = .inserted d ∧
      Ledger.transfer s.books (cfg.tid c.key) (s.riderAccount c.rider).2
        Ledger.operatorRevenueAccount d.row.effectiveCharged.toNat Ledger.codeFare r = some
        (b, res) ∧
      s' = { s with accounts := (s.riderAccount c.rider).1.accounts, books := b }.setPayment i
        { c with
          faulty := c.faulty || !decide
            (s.Sound cfg c.key (s.riderAccount c.rider).2 d.row.effectiveCharged r)
          pc := .posted (d.ledgerResult res) } := by
  obtain ⟨c, hc, h⟩ := bind_eq_some_iff.mp h
  split at h
  · rename_i d hpc
    obtain ⟨⟨b, res⟩, htransfer, h⟩ := map_eq_some_iff.mp h
    exact ⟨c, d, b, res, hc, hpc, htransfer, afterLedger_eq s c.rider b ▸ h.symm⟩
  · cases h

lemma postRefund_cases (h : s.postRefund cfg j r = some s') :
    ∃ c b res, s.refunds[j]? = some c ∧ c.pc = .loaded ∧
      Ledger.Outcome r (reversal cfg c (s.riderAccount c.row.riderSub).2) s.books.posted b.posted
        res ∧
      s' = { s with accounts := (s.riderAccount c.row.riderSub).1.accounts, books := b }.setRefund j
        { c with pc := .ledgerResult res } := by
  obtain ⟨c, hc, h⟩ := bind_eq_some_iff.mp h
  split at h
  · rename_i hpc
    obtain ⟨⟨b, res⟩, htransfer, h⟩ := map_eq_some_iff.mp h
    exact ⟨c, b, res, hc, hpc, Ledger.transfer_spec htransfer,
      afterLedger_eq s c.row.riderSub b ▸ h.symm⟩
  · cases h

lemma topUp_cases {amount : ℤ} (h : s.topUp cfg subject key amount r = some s') :
    s' = s ∨ ∃ n b res, 0 < n ∧
      Ledger.Outcome r (topUpTransfer cfg key (s.riderAccount subject).2 n) s.books.posted b.posted
        res ∧
      s' = { s with
        accounts := (s.riderAccount subject).1.accounts
        books := b
        topUps := (s.topUpResult ⟨subject, key, n⟩ res).topUps } := by
  rw [topUp] at h
  split at h
  · rw [some.injEq] at h
    exact .inl h.symm
  · rename_i n hcheck
    obtain ⟨⟨b, res⟩, htransfer, h⟩ := map_eq_some_iff.mp h
    refine .inr ⟨n, b, res, ?_, Ledger.transfer_spec htransfer, ?_⟩
    · simp only [checkTopUp] at hcheck
      split_ifs at hcheck
      rename_i hamount
      rw [Except.ok.injEq] at hcheck
      omega
    · rw [← h, afterLedger_eq]
      cases res with
      | error e => rfl
      | ok id =>
        simp only [topUpResult, recordTopUp]
        split_ifs <;> rfl

/-! ## Steps beside payments -/

/-- The steps of refunds, top-ups and grants. -/
def Event.beside : Event → Bool
  | .beginRefund _ _ | .postRefund _ _ | .updateRefund _ | .crashRefund _ | .topUp _ _ _ _
  | .setEntitlements _ => true
  | _ => false

/-- They leave payment calls and billing charges alone, and the rows unless a refund is written. -/
lemma beside_frame {e : Event} (hstep : step cfg s e = some s') (he : e.beside = true) :
    s'.payments = s.payments ∧ s'.charges = s.charges ∧
      ((∀ j, e ≠ .updateRefund j) → s'.rows = s.rows) := by
  cases e with
  | beginRefund id requested =>
    obtain rfl | ⟨p, amount, -, -, -, -, -, rfl⟩ := beginRefund_cases hstep
    · exact ⟨rfl, rfl, fun _ => rfl⟩
    · exact ⟨rfl, rfl, fun _ => rfl⟩
  | postRefund j r =>
    obtain ⟨c, b, res, -, -, -, rfl⟩ := postRefund_cases hstep
    exact ⟨rfl, rfl, fun _ => rfl⟩
  | updateRefund j =>
    obtain ⟨c, tb, -, -, ⟨p, r, -, -, rfl⟩ | ⟨-, r, rfl⟩⟩ := updateRefund_cases hstep
    · exact ⟨rfl, rfl, fun hne => absurd rfl (hne j)⟩
    · exact ⟨rfl, rfl, fun _ => rfl⟩
  | crashRefund j =>
    obtain ⟨c, -, ⟨-, rfl⟩ | ⟨-, rfl⟩⟩ := crashRefund_cases hstep
    · exact ⟨rfl, rfl, fun _ => rfl⟩
    · exact ⟨rfl, rfl, fun _ => rfl⟩
  | topUp subject key amount r =>
    obtain rfl | ⟨n, b, res, -, -, rfl⟩ := topUp_cases hstep
    · exact ⟨rfl, rfl, fun _ => rfl⟩
    · exact ⟨rfl, rfl, fun _ => rfl⟩
  | setEntitlements es =>
    cases hstep
    exact ⟨rfl, rfl, fun _ => rfl⟩
  | beginPayment | lock | resolve | price | insert | post | switch | commit | abort => cases he

end H2Fleet.Commerce
