import H2Fleet.Commerce.Charges

/-!
# Retries after a crash

A crash rolls the row of a payment back and leaves the transfer the ledger has accepted.  A retry
with the same key works out the fare anew and posts it under the same transfer id.  If the fare is
the same, the ledger recognises the transfer; if it is not, the retry fails or, if nothing is to be
paid any more, settles for nothing while the wallet stays debited: `free_retry_keeps_debit`.

* `SameFare` — a call that inserts its row is about to charge what the ledger has under its key, if
  anything; payment keys are not of the form of refund and top-up keys.
-/

namespace H2Fleet.Commerce

open List Function

variable {ID : Type}

/-- The key is in the way of no top-up and no refund. -/
def Unreserved (key : String) : Prop :=
  ¬ "topup:".toList <+: key.toList ∧ ¬ "refund:".toList <+: key.toList
  deriving Decidable

/-- What the ledger has accepted under the key is the given fare of the rider. -/
def State.PaysOnly (cfg : Config ID) (s : State ID) (key rider : String) (charge : ℤ) : Prop :=
  ∀ t ∈ s.books.posted, t.id = cfg.tid key →
    0 < charge ∧ ∃ a ∈ s.account? rider, t = fareTransfer cfg key a charge

/-- The fare a call is about to put into its row. -/
def PayPc.quoted : PayPc ID → Option ℤ
  | .priced q => some q.charge
  | _ => none

section Definitions

variable [DecidableEq ID] (cfg : Config ID) (s : State ID)

instance (key rider : String) (charge : ℤ) : Decidable (s.PaysOnly cfg key rider charge) :=
  inferInstanceAs (Decidable (∀ _ ∈ _, _))

def SameFare : Event → Prop
  | .beginPayment key _ _ _ _ => Unreserved key
  | .insert i => ∀ c ∈ s.payments[i]?, ∀ charge ∈ c.pc.quoted, s.PaysOnly cfg c.key c.rider charge
  | _ => True

instance (e : Event) : Decidable (SameFare cfg s e) := by
  unfold SameFare; split <;> infer_instance

def RetryCareful (e : Event) : Prop := FareCareful s e ∧ SameFare cfg s e

instance (e : Event) : Decidable (RetryCareful cfg s e) := inferInstanceAs (Decidable (_ ∧ _))

end Definitions

structure RetryInv (cfg : Config ID) (s : State ID) : Prop where
  orderly : Orderly cfg s
  unique : s.books.UniqueIds
  keys : ∀ c ∈ s.payments, Unreserved c.key
  same : ∀ (i : ℕ) (c : PayCall ID) d, s.payments[i]? = some c → c.pc.draft = some d →
    s.PaysOnly cfg c.key c.rider d.row.effectiveCharged
  paid : ∀ (i : ℕ) (c : PayCall ID) d, s.payments[i]? = some c →
    c.pc = .posted d ∨ c.pc = .switched d → c.faulty = false → d.row.status = .settled ∧
      (0 < d.row.effectiveCharged → ∃ a ∈ s.account? c.rider,
        fareTransfer cfg c.key a d.row.effectiveCharged ∈ s.books.posted)

variable {cfg : Config ID} {s s' : State ID}

lemma RetryInv.init : RetryInv cfg (State.init : State ID) where
  orderly := .init
  unique := nodup_nil
  keys _ hc := nomatch hc
  same _ _ _ hc := nomatch hc
  paid _ _ _ hc := nomatch hc

/-! ## The invariant -/

variable {r : Ledger.Replies} {res : Except Ledger.LedgerError ID}

lemma State.PaysOnly.after {key rider : String} {charge : ℤ} (h : s.PaysOnly cfg key rider charge)
    {t : Transfer ID} (hout : Ledger.Outcome r t s.books.posted s'.books.posted res)
    (hacc : ∀ a, s.account? rider = some a → s'.account? rider = some a)
    (ht : t.id = cfg.tid key → 0 < charge ∧ ∃ a ∈ s'.account? rider,
    t = fareTransfer cfg key a charge) : s'.PaysOnly cfg key rider charge := by
  have hold : ∀ u ∈ s.books.posted, u.id = cfg.tid key →
      0 < charge ∧ ∃ a ∈ s'.account? rider, u = fareTransfer cfg key a charge := by
    intro u hu hid
    obtain ⟨hpos, a, ha, heq⟩ := h u hu hid
    exact ⟨hpos, a, hacc a ha, heq⟩
  intro u hu
  rcases hout.after_cases with heq | ⟨-, -, heq⟩
  · exact hold u (heq ▸ hu)
  · exact forall_mem_concat hold ht u (heq ▸ hu)

lemma posted_of_mem {t u : Transfer ID} {before after : List (Transfer ID)}
    (hout : Ledger.Outcome r t before after res) (hu : u ∈ before) : u ∈ after := by
  rcases hout.after_cases with heq | ⟨-, -, heq⟩
  · exact heq ▸ hu
  · exact heq ▸ mem_append_left _ hu

variable (h : RetryInv cfg s)
include h

lemma RetryInv.congr (hord : Orderly cfg s') (hpay : s'.payments = s.payments)
    (hbooks : s'.books = s.books) (hacc : s'.accounts = s.accounts) : RetryInv cfg s' where
  orderly := hord
  unique := hbooks ▸ h.unique
  keys := hpay ▸ h.keys
  same i c d hc hd := by
    rw [State.PaysOnly, hbooks, account?_congr hacc]
    exact h.same i c d (hpay ▸ hc) hd
  paid i c d hc hpc := by
    rw [hbooks, account?_congr hacc]
    exact h.paid i c d (hpay ▸ hc) hpc

/-- **A top-up or a refund** posts under none of the keys of the payments. -/
lemma RetryInv.ledger (hord : Orderly cfg s') (hpay : s'.payments = s.payments) {t : Transfer ID}
    (hout : Ledger.Outcome r t s.books.posted s'.books.posted res)
    (hacc : ∀ rider a, s.account? rider = some a → s'.account? rider = some a)
    (hkey : ∀ key, Unreserved key → t.id ≠ cfg.tid key) : RetryInv cfg s' where
  orderly := hord
  unique := hout.uniqueIds h.unique
  keys := hpay ▸ h.keys
  same i c d hc hd := by
    rw [hpay] at hc
    refine (h.same i c d hc hd).after hout (hacc c.rider) fun hid => ?_
    exact absurd hid (hkey c.key (h.keys c (mem_of_getElem? hc)))
  paid i c d hc hpc hfault := by
    rw [hpay] at hc
    obtain ⟨hstatus, hposted⟩ := h.paid i c d hc hpc hfault
    refine ⟨hstatus, fun hpos => ?_⟩
    obtain ⟨a, ha, hmem⟩ := hposted hpos
    exact ⟨a, hacc c.rider a ha, posted_of_mem hout hmem⟩

variable {i : ℕ}

lemma RetryInv.setPayment {c c' : PayCall ID} (hc : s.payments[i]? = some c)
    (hord : Orderly cfg s') (hpay : s'.payments = s.payments.set i c')
    (hbooks : s'.books = s.books) (hacc : s'.accounts = s.accounts) (hkey : c'.key = c.key)
    (hsame : ∀ d, c'.pc.draft = some d → s.PaysOnly cfg c'.key c'.rider d.row.effectiveCharged)
    (hpaid : ∀ d, c'.pc = .posted d ∨ c'.pc = .switched d → c'.faulty = false →
      d.row.status = .settled ∧ (0 < d.row.effectiveCharged → ∃ a ∈ s.account? c'.rider,
        fareTransfer cfg c'.key a d.row.effectiveCharged ∈ s.books.posted)) : RetryInv cfg s' where
  orderly := hord
  unique := hbooks ▸ h.unique
  keys := by
    rw [hpay]
    exact forall_mem_set h.keys (hkey ▸ h.keys c (mem_of_getElem? hc))
  same j a d ha hd := by
    rw [State.PaysOnly, hbooks, account?_congr hacc]
    rcases getElem?_set_cases (hpay ▸ ha) with ⟨-, rfl⟩ | ⟨-, ha⟩
    · exact hsame d hd
    · exact h.same j a d ha hd
  paid j a d ha hpc := by
    rw [hbooks, account?_congr hacc]
    rcases getElem?_set_cases (hpay ▸ ha) with ⟨-, rfl⟩ | ⟨-, ha⟩
    · exact hpaid d hpc
    · exact h.paid j a d ha hpc

lemma RetryInv.advance {c : PayCall ID} {pc : PayPc ID} (hc : s.payments[i]? = some c)
    (hdraft : pc.draft = none) (hord : Orderly cfg s')
    (hpay : s'.payments = s.payments.set i { c with pc := pc }) (hbooks : s'.books = s.books)
    (hacc : s'.accounts = s.accounts) : RetryInv cfg s' := by
  refine h.setPayment hc hord hpay hbooks hacc rfl (fun d hd => ?_) fun d hd => ?_
  · rw [hdraft] at hd
    cases hd
  · rcases hd with hd | hd <;> rw [show pc = _ from hd] at hdraft <;> cases hdraft

lemma RetryInv.insert [DecidableEq ID] (hord : Orderly cfg s') (hok : SameFare cfg s (.insert i))
    (hstep : s.insert cfg i = some s') : RetryInv cfg s' := by
  obtain ⟨c, q, hc, hpc, hcases⟩ := insert_cases hstep
  have hsame : s.PaysOnly cfg c.key c.rider q.charge := hok c hc q.charge (by rw [hpc]; rfl)
  rcases hcases with ⟨r, rfl⟩ | ⟨-, -, ⟨-, rfl⟩ | ⟨hfree, rfl⟩⟩
  · exact h.advance hc rfl hord rfl rfl rfl
  · refine h.setPayment hc hord rfl rfl rfl rfl (fun d hd => ?_) fun d hd => ?_
    · cases hd
      exact hsame
    · rcases hd with hd | hd <;> cases hd
  · refine h.setPayment hc hord rfl rfl rfl rfl (fun d hd => ?_) fun d hd _ => ?_
    · cases hd
      exact hsame
    · rcases hd with hd | hd
      · cases hd
        exact ⟨rfl, fun hpos => absurd hfree (not_le.mpr hpos)⟩
      · cases hd

lemma RetryInv.switch (hord : Orderly cfg s') {answer : Except SwitchError String}
    (hstep : s.switch i answer = some s') : RetryInv cfg s' := by
  obtain ⟨c, d, hc, hpc, -, rfl⟩ := switch_cases hstep
  refine h.setPayment hc hord rfl rfl rfl rfl (fun d' hd' => ?_) fun d' hd' hfault => ?_
  · cases hd'
    rw [d.switchResult_charged]
    exact h.same i c d hc (by rw [hpc]; rfl)
  · rcases hd' with hd' | hd'
    · cases hd'
    · cases hd'
      have hboth : c.faulty = false ∧ (!answer.isOk) = false := Bool.or_eq_false_iff.mp hfault
      rw [d.switchResult_charged]
      obtain ⟨hstatus, hposted⟩ := h.paid i c d hc (.inl hpc) hboth.1
      cases answer with
      | ok id => exact ⟨hstatus, hposted⟩
      | error e => cases hboth.2

variable [DecidableEq ID]

/-- **The ledger leg.**  Without a fault the fare is accepted, now or before. -/
lemma RetryInv.post (hsha : Injective cfg.sha16) (hord : Orderly cfg s')
    (hstep : s.post cfg i r = some s') : RetryInv cfg s' := by
  obtain ⟨c, d, b, res, hc, hpc, htransfer, rfl⟩ := post_cases hstep
  have hd : c.pc.draft = some d := by rw [hpc]; rfl
  have hpos : 0 < d.row.effectiveCharged :=
    ((h.orderly.consistent.drafts i c d hc hd).inserted hpc).2
  have hout := Ledger.transfer_spec htransfer
  have hself := account?_riderAccount_self (s := s) c.rider
  have hacc : ∀ rider a, s.account? rider = some a →
      (s.riderAccount c.rider).1.account? rider = some a := fun rider a ha =>
    account?_riderAccount_of_some ha c.rider
  refine ⟨hord, hout.uniqueIds h.unique, ?_, fun j a e ha he => ?_, fun j a e ha he hfault => ?_⟩
  · exact forall_mem_set h.keys (h.keys c (mem_of_getElem? hc))
  · rcases getElem?_set_cases ha with ⟨-, rfl⟩ | ⟨hji, ha⟩
    · cases he
      rw [d.ledgerResult_charged]
      exact (h.same i c d hc hd).after hout (hacc c.rider) fun _ => ⟨hpos, _, hself, rfl⟩
    · refine (h.same j a e ha he).after hout (hacc a.rider) fun hid => ?_
      have hne :=
        h.orderly.consistent.draftKeys j i a c ha hc hji (by rw [he]; rfl) (by rw [hd]; rfl)
      exact absurd ((Ledger.deterministicTransferID_inj hsha).mp hid).symm hne
  · rcases getElem?_set_cases ha with ⟨-, rfl⟩ | ⟨hji, ha⟩
    · obtain rfl : d.ledgerResult res = e := by
        rcases he with he | he
        · exact PayPc.posted.inj he
        · cases he
      obtain ⟨-, hsound⟩ := Bool.or_eq_false_iff.mp hfault
      have hsound : s.Sound cfg c.key (s.riderAccount c.rider).2 d.row.effectiveCharged r := by
        simpa using hsound
      -- what the ledger has under the key is this very transfer
      have hres : res = .ok (cfg.tid c.key) := by
        refine Ledger.transfer_ok htransfer hsound.1 hsound.2 fun u hu hid => ?_
        obtain ⟨-, a, ha, heq⟩ := h.same i c d hc hd u hu hid
        rw [heq, riderAccount_of_some ha]
        rfl
      rw [d.ledgerResult_charged]
      refine ⟨by rw [hres]; rfl, fun _ => ⟨_, hself, ?_⟩⟩
      rw [hres] at hout
      cases hout with
      | posted _ _ hafter => exact hafter ▸ mem_append_right _ (mem_singleton_self _)
      | repeated hmem hafter => exact hafter ▸ hmem
    · obtain ⟨hstatus, hposted⟩ := h.paid j a e ha he hfault
      refine ⟨hstatus, fun hpos' => ?_⟩
      obtain ⟨n, hn, hmem⟩ := hposted hpos'
      exact ⟨n, hacc a.rider n hn, posted_of_mem hout hmem⟩

lemma RetryInv.step (hsha : Injective cfg.sha16) (hinj : Injective cfg.newID) {e : Event}
    (hok : RetryCareful cfg s e) (hstep : step cfg s e = some s') : RetryInv cfg s' := by
  have hord := h.orderly.step hinj hok.1 hstep
  cases e with
  | beginPayment key subject privileged body now =>
    obtain rfl | ⟨c, hpc, -, hkey, -, rfl⟩ := beginPayment_cases hstep
    · exact h
    · refine ⟨hord, h.unique, forall_mem_concat h.keys (hkey ▸ hok.2), fun i a d ha hd => ?_,
        fun i a d ha hd => ?_⟩
      · rcases getElem?_append_cases ha with ⟨-, rfl⟩ | ha
        · rw [hpc] at hd
          cases hd
        · exact h.same i a d ha hd
      · rcases getElem?_append_cases ha with ⟨-, rfl⟩ | ha
        · rw [hpc] at hd
          rcases hd with hd | hd <;> cases hd
        · exact h.paid i a d ha hd
  | lock i =>
    obtain ⟨c, hc, -, -, rfl⟩ := lock_cases hstep
    exact h.advance hc rfl hord rfl rfl rfl
  | resolve i =>
    obtain ⟨c, hc, -, rfl⟩ := resolve_cases hstep
    exact h.advance hc rfl hord rfl rfl rfl
  | price i =>
    obtain ⟨c, q, charge, hc, -, -, rfl⟩ := price_cases hstep
    exact h.advance hc rfl hord rfl rfl rfl
  | insert i => exact h.insert hord hok.2 hstep
  | post i r => exact h.post hsha hord hstep
  | switch i answer => exact h.switch hord hstep
  | commit i =>
    obtain ⟨c, d, hc, -, -, rfl⟩ := commit_cases hstep
    have hdone : (PayPc.done (paymentResponse d)).draft = none := rfl
    exact h.advance hc hdone hord rfl rfl rfl
  | abort i =>
    obtain ⟨c, hc, -, rfl⟩ := abort_cases hstep
    exact h.advance hc rfl hord rfl rfl rfl
  | beginRefund id requested =>
    obtain rfl | ⟨p, amount, -, -, -, -, -, rfl⟩ := beginRefund_cases hstep
    · exact h
    · exact h.congr hord rfl rfl rfl
  | postRefund j r =>
    obtain ⟨c, b, res, -, -, hout, rfl⟩ := postRefund_cases hstep
    refine h.ledger hord rfl hout (fun rider a ha => account?_riderAccount_of_some ha
      c.row.riderSub) fun key hkey heq => hkey.2 ?_
    rw [← (Ledger.deterministicTransferID_inj hsha).mp heq, refundKey, numbered]
    simp only [String.toList_append, append_assoc]
    exact prefix_append _ _
  | updateRefund j =>
    obtain ⟨c, tb, -, -, ⟨p, r, -, -, rfl⟩ | ⟨-, r, rfl⟩⟩ := updateRefund_cases hstep
    · exact h.congr hord rfl rfl rfl
    · exact h.congr hord rfl rfl rfl
  | crashRefund j =>
    obtain ⟨c, -, ⟨-, rfl⟩ | ⟨-, rfl⟩⟩ := crashRefund_cases hstep
    · exact h.congr hord rfl rfl rfl
    · exact h.congr hord rfl rfl rfl
  | topUp subject key amount r =>
    obtain rfl | ⟨n, b, res, -, hout, rfl⟩ := topUp_cases hstep
    · exact h
    · exact h.ledger hord rfl hout (fun rider a ha => account?_riderAccount_of_some ha subject)
        fun key' hkey' heq => hkey'.1
          ⟨key.toList, by rw [← (Ledger.deterministicTransferID_inj hsha).mp heq,
          String.toList_append]⟩
  | setEntitlements es =>
    cases hstep
    exact h.congr hord rfl rfl rfl

lemma RetryInv.debits {c : PayCall ID} {d : Draft ID} (hc : s.payments[i]? = some c)
    (hd : c.pc.draft = some d)
    (hposted : 0 < d.row.effectiveCharged → ∃ a ∈ s.account? c.rider,
      fareTransfer cfg c.key a d.row.effectiveCharged ∈ s.books.posted)
    (hnonneg : 0 ≤ d.row.effectiveCharged) :
    (s.debits cfg c.rider c.key).map (fun t => (t.amount : ℤ)) =
      if d.row.effectiveCharged = 0 then [] else [d.row.effectiveCharged] := by
  have hsame := h.same i c d hc hd
  split_ifs with hzero
  · have hnone : s.debits cfg c.rider c.key = [] := by
      refine filter_eq_nil_iff.mpr fun t ht htid => ?_
      exact absurd (hsame t ht (of_decide_eq_true htid).1).1 (hzero ▸ lt_irrefl _)
    rw [hnone]
    rfl
  · obtain ⟨a, ha, hmem⟩ := hposted (lt_of_le_of_ne hnonneg (Ne.symm hzero))
    have hone : s.debits cfg c.rider c.key = [fareTransfer cfg c.key a d.row.effectiveCharged] := by
      refine h.unique.filter_eq hmem (decide_eq_true ⟨rfl, ha⟩) fun u _ hu => ?_
      exact (of_decide_eq_true hu).1
    rw [hone, map_singleton]
    exact congrArg (fun n => [n]) (Int.toNat_of_nonneg hnonneg)

omit h

/-- **A payment that commits after no fault is settled, and its wallet is debited once under its
key, by its charge**, however many attempts crashed before it. -/
theorem retry_debits_once (hsha : Injective cfg.sha16)
    (hinj : Injective cfg.newID) {es : List Event} {s s' : State ID}
    (hok : Meets (step cfg) (RetryCareful cfg) State.init es)
    (hrun : run (step cfg) State.init es = some s) {i : ℕ} {c : PayCall ID}
    (hc : s.payments[i]? = some c) (hfault : c.faulty = false)
    (hcommit : step cfg s (.commit i) = some s') :
    ∃ row, s'.rows = s.rows ++ [row] ∧ row.idempotencyKey = some c.key ∧ row.status = .settled ∧
      (s'.debits cfg c.rider c.key).map (fun t => (t.amount : ℤ)) =
        if row.effectiveCharged = 0 then [] else [row.effectiveCharged] := by
  have h : RetryInv cfg s :=
    run_invariant (fun _ _ _ h hc hs => h.step hsha hinj hc hs) .init hok hrun
  obtain ⟨c', d, hc', hd, hpc, rfl⟩ := commit_cases hcommit
  cases hc.symm.trans hc'
  obtain ⟨hstatus, hposted⟩ := h.paid i c d hc hpc hfault
  have hnonneg : 0 ≤ d.row.effectiveCharged := by
    refine h.orderly.fares.fare hc ?_
    rcases hpc with hpc | hpc <;> rw [hpc] <;> rfl
  exact ⟨d.row, rfl, (h.orderly.consistent.drafts i c d hc hd).key, hstatus,
    h.debits hc hd hposted hnonneg⟩

/-! ## A crash after the ledger leg -/

def crashedRun : List Event :=
  [topUpFirst 2000] ++ payment 0 "tap-1" 50 1700000000000000 false (answered .created) ++ [.abort 0]

/-- The retry finds the same fare, and the ledger knows it. -/
def retriedRun : List Event :=
  crashedRun ++ payment 1 "tap-1" 50 1700000060000000 false (answered .existing)

theorem retry_debits_once_crashed : ∃ s s',
    run (step defaultConfig) State.init retriedRun = some s ∧
      step defaultConfig s (.commit 1) = some s' ∧ s'.wallet "rider-1" = 1950 ∧
      ∃ row, s'.rows = s.rows ++ [row] ∧ row.idempotencyKey = some "tap-1" ∧ row.status = .settled ∧
        (s'.debits defaultConfig "rider-1" "tap-1").map (fun t => (t.amount : ℤ)) =
          if row.effectiveCharged = 0 then [] else [row.effectiveCharged] := by
  obtain ⟨s, hrun, ⟨c, hc, hfault, hkey, hrider⟩, s', hcommit, hwallet⟩ :
      ∃ s, run (step defaultConfig) State.init retriedRun = some s ∧
        (∃ c ∈ s.payments[1]?, c.faulty = false ∧ c.key = "tap-1" ∧ c.rider = "rider-1") ∧
        ∃ s', step defaultConfig s (.commit 1) = some s' ∧ s'.wallet "rider-1" = 1950 := by
    decide +kernel
  have h := retry_debits_once defaultConfig_sha16_injective defaultConfig_newID_injective
    (by decide +kernel) hrun hc hfault hcommit
  rw [hkey, hrider] at h
  exact ⟨s, s', hrun, hcommit, hwallet, h⟩

/-- A pass that covers the rider from the time between crash and retry. -/
def newPass : Entitlement :=
  ⟨"ent-1", "rider-1", .pass, none, "MONTHLY", none, 1700000030000000, 1702592030000000, true⟩

def freeRetryRun : List Event :=
  crashedRun ++ [.setEntitlements [newPass],
      .beginPayment "tap-1" "rider-1" false (some ⟨50, "", "", false⟩) 1700000060000000, .lock 1,
      .resolve 1, .price 1, .insert 1]

/-- **A retry that costs nothing keeps the debit of the attempt that crashed.** -/
theorem free_retry_keeps_debit : ∃ s s', run (step defaultConfig) State.init freeRetryRun = some s ∧
      (∃ c ∈ s.payments[1]?, c.key = "tap-1" ∧ c.faulty = false) ∧
      step defaultConfig s (.commit 1) = some s' ∧
      s'.rows.map (fun p => (p.status, p.effectiveCharged)) = [(.settled, 0)] ∧
      (s'.debits defaultConfig "rider-1" "tap-1").map Transfer.amount = [50] := by
  simp only [exists_and_left]
  decide +kernel

end H2Fleet.Commerce
