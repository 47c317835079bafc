import H2Fleet.Commerce.Accounts
import H2Fleet.Commerce.Charges

/-!
# Wallets and payment rows

The ledger balance of a wallet against the top-ups and the payment rows of its rider.  The fare is
debited before the switch is asked; a failure of the switch marks the row, and nothing takes the
debit back.
-/

namespace H2Fleet.Commerce

open List Function State

variable {ID : Type} (s : State ID)

/-! ## Runs -/

def PayPc.active : PayPc ID → Bool
  | .done _ | .aborted => false
  | _ => true

def RefundPc.active : RefundPc ID → Bool
  | .loaded | .posted _ => true
  | _ => false

def State.Idle (rider : String) : Prop :=
  (∀ c ∈ s.payments, c.rider = rider → c.pc.active = false) ∧
    ∀ c ∈ s.refunds, c.row.riderSub = rider → c.pc.active = false
  deriving Decidable

def Sequential : Event → Prop
  | .beginPayment _ subject _ _ _ => s.Idle subject
  | .beginRefund id _ => ∀ p ∈ s.rows, p.id = id → s.Idle p.riderSub
  | .topUp subject _ _ _ => s.Idle subject
  | .abort _ | .crashRefund _ => False
  | _ => True

instance (e : Event) : Decidable (Sequential s e) := by
  rcases e <;> dsimp only [Sequential] <;> infer_instance

/-- What ledger and switch must not do, and what account a wallet must not have. -/
def Reliable : Event → Prop
  | .post i r => ¬ r.PostingLost ∧ ∀ c ∈ s.payments[i]?, s.Allocates c.rider
  | .switch i answer => answer.isOk = true ∨
      ∀ c ∈ s.payments[i]?, ∀ d ∈ c.pc.draft, d.row.effectiveCharged ≤ 0
  | .postRefund j r => ¬ r.PostingLost ∧ ∀ c ∈ s.refunds[j]?, s.Allocates c.row.riderSub
  | .topUp subject _ _ r => ¬ r.PostingLost ∧ s.Allocates subject
  | _ => True

instance (e : Event) : Decidable (Reliable s e) := by
  rcases e <;> dsimp only [Reliable] <;> infer_instance

def WalletCareful (e : Event) : Prop := FareCareful s e ∧ Reliable s e
  deriving Decidable

/-! ## Sums -/

def State.funded (rider : String) : ℤ :=
  (s.topUps.map fun u => if u.rider = rider then (u.amount : ℤ) else 0).sum

def Payment.paidBy (rider : String) (p : Payment ID) : ℤ := if p.riderSub = rider then p.net else 0

/-- What the rows of a rider say was charged and not refunded. -/
def State.paid (rider : String) : ℤ := (s.rows.map fun p => p.paidBy rider).sum

/-- What a call has taken from the wallet and not put into a row. -/
def PayCall.held (rider : String) (c : PayCall ID) : ℤ :=
  match c.pc.draft with
  | some d => d.row.paidBy rider
  | none => 0

def RefundCall.returned (rider : String) (c : RefundCall ID) : ℤ :=
  match c.pc with
  | .posted _ => if c.row.riderSub = rider then c.amount else 0
  | _ => 0

def State.held (rider : String) : ℤ := (s.payments.map fun c => c.held rider).sum

def State.returned (rider : String) : ℤ :=
  (s.refunds.map fun c => c.returned rider).sum

def State.expected (rider : String) : ℤ :=
  s.funded rider - s.paid rider - s.held rider + s.returned rider

/-! ## Transfers -/

/-- The row stands for a debit under the key. -/
def Payment.Charges (p : Payment ID) (key : String) : Prop :=
  p.idempotencyKey = some key ∧ p.status.charged = true ∧ 0 < p.effectiveCharged

/-- A row stands for a debit under the key, committed or not. -/
def State.ChargedKey (key : String) : Prop :=
  (∃ p ∈ s.rows, p.Charges key) ∨ ∃ c ∈ s.payments, ∃ d ∈ c.pc.draft, d.row.Charges key

/-- The refunds of a payment have come to the total. -/
def State.ReturnedTo (id : String) (total : ℤ) : Prop :=
  (∃ p ∈ s.rows, p.id = id ∧ total ≤ p.refundedMinor) ∨
    ∃ c ∈ s.refunds, (∃ tb, c.pc = .posted tb) ∧ c.row.id = id ∧ c.newTotal = total

inductive Kind (cfg : Config ID) (s : State ID) (t : Transfer ID) : Prop where
  | fare (key : String) : t.credit = Ledger.operatorRevenueAccount → t.id = cfg.tid key →
      s.ChargedKey key → Kind cfg s t
  | reversal (id : String) (total : ℤ) : t.debit = Ledger.operatorRevenueAccount → 0 ≤ total →
      t.id = cfg.tid (refundKey id total) → s.ReturnedTo id total → Kind cfg s t
  | topUp (u : TopUp) : t.debit = Ledger.riderFundingAccount → u ∈ s.topUps →
      t.id = cfg.tid ("topup:" ++ u.key) → Kind cfg s t

/-- Refunds in flight are of different riders, their rows as loaded. -/
structure RefundsAlone : Prop where
  frozen : ∀ c ∈ s.refunds, c.pc.active = true → c.row ∈ s.rows
  riders : ∀ (i j : ℕ) (c d : RefundCall ID), s.refunds[i]? = some c → s.refunds[j]? = some d →
    i ≠ j → c.pc.active = true → d.pc.active = true → c.row.riderSub ≠ d.row.riderSub

structure WalletInv (cfg : Config ID) (s : State ID) : Prop where
  orderly : Orderly cfg s
  accounts : AccountsOk s
  alone : RefundsAlone s
  kinds : ∀ t ∈ s.books.posted, Kind cfg s t
  history : ∀ u ∈ s.topUps, ¬ s.books.Fresh (cfg.tid ("topup:" ++ u.key))
  balanced : ∀ rider, s.wallet rider = s.expected rider

variable {cfg : Config ID} {s s' : State ID}

lemma RefundsAlone.init : RefundsAlone (init : State ID) where
  frozen _ hc := nomatch hc
  riders _ _ _ _ hc := nomatch hc

lemma WalletInv.init : WalletInv cfg (init : State ID) where
  orderly := .init
  accounts := .init
  alone := .init
  kinds _ ht := nomatch ht
  history _ hu := nomatch hu
  balanced _ := rfl

lemma Kind.mono {t : Transfer ID} (h : Kind cfg s t) (hfare : ∀ k, s.ChargedKey k → s'.ChargedKey k)
    (hrev : ∀ id n, s.ReturnedTo id n → s'.ReturnedTo id n) (htop : ∀ u ∈ s.topUps, u ∈ s'.topUps) :
    Kind cfg s' t := by
  cases h with
  | fare key hc hid hk => exact .fare key hc hid (hfare key hk)
  | reversal id total hd hn hid hr => exact .reversal id total hd hn hid (hrev id total hr)
  | topUp u hd hu hid => exact .topUp u hd (htop u hu) hid

/-! ## Payments -/

variable {d : Draft ID}

lemma held_of_draft {c : PayCall ID} (h : c.pc.draft = some d) (rider : String) :
    c.held rider = d.row.paidBy rider := by
  rw [PayCall.held, h]

lemma held_of_no_draft {c : PayCall ID} (h : c.pc.draft = none) (rider : String) :
    c.held rider = 0 := by
  rw [PayCall.held, h]

variable {p : Payment ID}

lemma paidBy_eq_zero (h : p.net = 0) (rider : String) : p.paidBy rider = 0 := by
  rw [Payment.paidBy, h, ite_self]

lemma net_of_uncharged (h : p.status.charged = false) : p.net = 0 := by
  rw [Payment.net, h]
  rfl

variable {i : ℕ}

lemma ChargedKey.setPayment {c c' : PayCall ID} (hrows : ∀ p ∈ s.rows, p ∈ s'.rows)
    (hpay : s'.payments = s.payments.set i c') (hc : s.payments[i]? = some c)
    (hkeep : ∀ d key, c.pc.draft = some d → d.row.Charges key → s'.ChargedKey key) (key : String)
    (h : s.ChargedKey key) : s'.ChargedKey key := by
  rcases h with ⟨p, hp, hch⟩ | ⟨a, ha, d, hd, hch⟩
  · exact .inl ⟨p, hrows p hp, hch⟩
  · obtain ⟨j, hj⟩ := mem_iff_getElem?.mp ha
    by_cases hji : j = i
    · subst hji
      cases hj.symm.trans hc
      exact hkeep d key hd hch
    · refine .inr ⟨a, ?_, d, hd, hch⟩
      rw [hpay]
      exact mem_of_getElem? (getElem?_set_other hji hj)

variable (h : WalletInv cfg s)
include h

/-- **A step without the ledger.** -/
lemma WalletInv.quiet (hord : Orderly cfg s') (halone : RefundsAlone s')
    (hbooks : s'.books = s.books) (hacc : s'.accounts = s.accounts) (htops : s'.topUps = s.topUps)
    (hfare : ∀ k, s.ChargedKey k → s'.ChargedKey k)
    (hrev : ∀ id n, s.ReturnedTo id n → s'.ReturnedTo id n)
    (hbal : ∀ rider, s'.expected rider = s.expected rider) : WalletInv cfg s' where
  orderly := hord
  accounts := h.accounts.congr hbooks hacc
  alone := halone
  kinds t ht := (h.kinds t (hbooks ▸ ht)).mono hfare hrev (htops ▸ fun _ hu => hu)
  history := by
    rw [hbooks, htops]
    exact h.history
  balanced rider := by rw [wallet_congr hbooks hacc, h.balanced, hbal]

/-- **A step of one payment call**, which holds what it held. -/
lemma WalletInv.setPayment {c c' : PayCall ID} (hc : s.payments[i]? = some c)
    (hord : Orderly cfg (s.setPayment i c')) (hheld : ∀ rider, c'.held rider = c.held rider)
    (hkeep : ∀ d key, c.pc.draft = some d → d.row.Charges key →
      ∃ d' ∈ c'.pc.draft, d'.row.Charges key) : WalletInv cfg (s.setPayment i c') := by
  refine h.quiet hord { h.alone with } rfl rfl rfl (ChargedKey.setPayment (fun _ hp => hp) rfl hc
    fun d key hd hch => .inr ⟨c', mem_set_self hc, hkeep d key hd hch⟩) (fun _ _ hr =>
    hr) fun rider => ?_
  rw [State.expected, State.held, State.setPayment, sum_set _ hc, hheld, sub_add_cancel]
  rfl

lemma WalletInv.addPayment {c : PayCall ID} (hpc : c.pc = .begun)
    (hord : Orderly cfg { s with payments := s.payments ++ [c] }) :
    WalletInv cfg { s with payments := s.payments ++ [c] } := by
  refine h.quiet hord { h.alone with } rfl rfl rfl
    (fun _ => Or.imp_right fun ⟨a, ha, hk⟩ => ⟨a, mem_append_left _ ha, hk⟩) (fun _ _ hr =>
    hr) fun rider => ?_
  rw [expected, held, map_append, sum_append, map_singleton, sum_singleton,
    held_of_no_draft (by rw [hpc]; rfl), add_zero]
  rfl

lemma WalletInv.advance {c : PayCall ID} {pc : PayPc ID} (hc : s.payments[i]? = some c)
    (hord : Orderly cfg (s.setPayment i { c with pc := pc })) (hbefore : c.pc.draft = none)
    (hafter : pc.draft = none) :
    WalletInv cfg (s.setPayment i { c with pc := pc }) := by
  refine h.setPayment hc hord (fun rider => ?_) fun d key hd => ?_
  · rw [held_of_no_draft hbefore, held_of_no_draft hafter]
  · rw [hbefore] at hd
    cases hd

lemma WalletInv.insert (hord : Orderly cfg s') (hstep : s.insert cfg i = some s') :
    WalletInv cfg s' := by
  obtain ⟨c, q, hc, hpc, hcases⟩ := insert_cases hstep
  have hnone : c.pc.draft = none := by rw [hpc]; rfl
  have hq : 0 ≤ q.charge := h.orderly.fares.fare hc (by rw [hpc]; rfl)
  rcases hcases with ⟨r, rfl⟩ | ⟨-, -, ⟨-, rfl⟩ | ⟨hfree, rfl⟩⟩
  · exact h.advance hc hord hnone rfl
  · refine h.setPayment hc hord (fun rider => ?_) fun d key hd => ?_
    · rw [held_of_no_draft hnone]
      exact paidBy_eq_zero rfl rider
    · rw [hnone] at hd
      cases hd
  · refine h.setPayment hc hord (fun rider => ?_) fun d key hd => ?_
    · rw [held_of_no_draft hnone]
      refine paidBy_eq_zero ?_ rider
      show q.charge - 0 = 0
      omega
    · rw [hnone] at hd
      cases hd

/-- **The switch** leaves the row alone, or spoils one that cost nothing. -/
lemma WalletInv.switch (hord : Orderly cfg s') {answer : Except SwitchError String}
    (hok : Reliable s (.switch i answer)) (hstep : s.switch i answer = some s') :
    WalletInv cfg s' := by
  obtain ⟨c, d, hc, hpc, hstatus, rfl⟩ := switch_cases hstep
  have hd : c.pc.draft = some d := by rw [hpc]; rfl
  cases answer with
  | ok id =>
    refine h.setPayment hc hord (fun rider => (held_of_draft hd rider).symm) fun d' key hd' hch =>
      ?_
    cases hd.symm.trans hd'
    exact ⟨_, rfl, hch⟩
  | error e =>
    have hfree : d.row.effectiveCharged ≤ 0 := by
      rcases hok with hok | hok
      · cases hok
      · exact hok c hc d hd
    refine h.setPayment hc hord (fun rider => ?_) fun d' key hd' hch => ?_
    · have hzero : d.row.effectiveCharged = 0 :=
        le_antisymm hfree (h.orderly.fares.fare hc (by rw [hpc]; rfl))
      have hnet : d.row.net = 0 := by
        rw [Payment.net, hzero, (h.orderly.consistent.drafts i c d hc hd).refundedMinor, sub_zero,
          ite_self]
      rw [held_of_draft hd, paidBy_eq_zero hnet]
      exact paidBy_eq_zero (net_of_uncharged (paymentStatus_not_charged e)) rider
    · cases hd.symm.trans hd'
      exact absurd hch.2.2 (not_lt.mpr hfree)

omit h

/-- **A commit** puts into the rows what the call held. -/
lemma WalletInv.commit (h : WalletInv cfg s) (hord : Orderly cfg s')
    (hstep : s.commit i = some s') : WalletInv cfg s' := by
  obtain ⟨c, d, hc, hd, -, rfl⟩ := commit_cases hstep
  refine h.quiet hord
    ⟨fun c hc hact => mem_append_left _ (h.alone.frozen c hc hact), h.alone.riders⟩ rfl rfl rfl
    (ChargedKey.setPayment (fun _ hp => mem_append_left _ hp) rfl hc fun d' key hd' hch => ?_)
    (fun _ _ => Or.imp_left fun ⟨p, hp, hid⟩ => ⟨p, mem_append_left _ hp, hid⟩) fun rider => ?_
  · cases hd.symm.trans hd'
    exact .inl ⟨d.row, mem_concat_self, hch⟩
  · have hheld : (s.finish i c d).held rider = s.held rider - d.row.paidBy rider := by
      rw [State.held, State.finish, State.setPayment, sum_set _ hc, held_of_draft hd, held]
      exact add_zero _
    have hpaid : (s.finish i c d).paid rider = s.paid rider + d.row.paidBy rider := by
      simp [State.paid, State.finish, State.setPayment]
    rw [expected, hheld, hpaid, expected]
    show s.funded rider - _ - _ + s.returned rider = _
    ring

/-! ## Refunds -/

variable {j : ℕ}

lemma RefundsAlone.setRefund (h : RefundsAlone s) {c : RefundCall ID} {pc : RefundPc ID}
    (hc : s.refunds[j]? = some c) (href : s'.refunds = s.refunds.set j { c with pc := pc })
    (hact : pc.active = true → c.pc.active = true ∧ c.row ∈ s'.rows)
    (hrows : ∀ (k : ℕ) (a : RefundCall ID), s.refunds[k]? = some a → k ≠ j → a.pc.active = true →
      a.row ∈ s'.rows) : RefundsAlone s' := by
  refine ⟨fun a ha hact' => ?_, ?_⟩
  · obtain ⟨k, hk⟩ := mem_iff_getElem?.mp ha
    rw [href] at hk
    rcases getElem?_set_cases hk with ⟨-, rfl⟩ | ⟨hkj, hk⟩
    · exact (hact hact').2
    · exact hrows k a hk hkj hact'
  · rw [href]
    exact forall_pair_set (fun _ _ hne hx hy => (hne hy hx).symm) h.riders
      fun k a hkj ha hacta hactc => h.riders k j a c ha hc hkj hacta (hact hactc).1

lemma RefundsAlone.addRefund (h : RefundsAlone s) {c : RefundCall ID} (hc : c.row ∈ s.rows)
    (hidle : s.Idle c.row.riderSub) : RefundsAlone { s with refunds := s.refunds ++ [c] } := by
  have hother : ∀ (k : ℕ) (a : RefundCall ID), s.refunds[k]? = some a → a.pc.active = true →
      a.row.riderSub ≠ c.row.riderSub := by
    intro k a ha hact hsub
    rw [hidle.2 a (mem_of_getElem? ha) hsub] at hact
    cases hact
  exact ⟨forall_mem_concat h.frozen fun _ => hc,
    forall_pair_concat (fun _ _ hne hx hy => (hne hy hx).symm) h.riders
      fun k a ha hact _ => hother k a ha hact⟩

lemma ReturnedTo.setRefund {c c' : RefundCall ID}
    (hrows : ∀ p ∈ s.rows, ∃ q ∈ s'.rows, q.id = p.id ∧ p.refundedMinor ≤ q.refundedMinor)
    (href : s'.refunds = s.refunds.set j c') (hc : s.refunds[j]? = some c)
    (hkeep : ∀ tb, c.pc = .posted tb → s'.ReturnedTo c.row.id c.newTotal) (id : String) (n : ℤ)
    (h : s.ReturnedTo id n) : s'.ReturnedTo id n := by
  rcases h with ⟨p, hp, rfl, hle⟩ | ⟨a, ha, ⟨tb, htb⟩, rfl, rfl⟩
  · obtain ⟨q, hq, hid, hmono⟩ := hrows p hp
    exact .inl ⟨q, hq, hid, hle.trans hmono⟩
  · obtain ⟨k, hk⟩ := mem_iff_getElem?.mp ha
    by_cases hkj : k = j
    · subst hkj
      cases hk.symm.trans hc
      exact hkeep tb htb
    · refine .inr ⟨a, ?_, ⟨tb, htb⟩, rfl, rfl⟩
      rw [href]
      exact mem_of_getElem? (getElem?_set_other hkj hk)

/-- **A new refund call** has returned nothing yet. -/
lemma WalletInv.addRefund (h : WalletInv cfg s) {c : RefundCall ID} (hc : c.row ∈ s.rows)
    (hidle : s.Idle c.row.riderSub) (hord : Orderly cfg { s with refunds := s.refunds ++ [c] })
    (hnone : ∀ rider, c.returned rider = 0) :
    WalletInv cfg { s with refunds := s.refunds ++ [c] } := by
  refine h.quiet hord (h.alone.addRefund hc hidle) rfl rfl rfl (fun _ hk => hk)
    (fun _ _ => Or.imp_right fun ⟨a, ha, hr⟩ => ⟨a, mem_append_left _ ha, hr⟩) fun rider => ?_
  rw [expected, returned, map_append, sum_append, map_singleton, sum_singleton,
    hnone, add_zero]
  rfl

lemma returned_posted {c : RefundCall ID} {tb : Option ID} (h : c.pc = .posted tb)
    (rider : String) : c.returned rider = if c.row.riderSub = rider then c.amount else 0 := by
  rw [RefundCall.returned, h]

lemma RefundCall.apply_paidBy (c : RefundCall ID)
    (hstatus : c.row.status = .settled ∨ c.row.status = .partiallyRefunded) (rider : String) :
    (c.apply c.row).paidBy rider =
      c.row.paidBy rider - if c.row.riderSub = rider then c.amount else 0 := by
  have hnet : (c.apply c.row).net = c.row.net - c.amount := by
    rw [Payment.net, Payment.net, if_pos (c.apply_charged c.row),
      if_pos (charged_of_refundable hstatus)]
    show c.row.effectiveCharged - (c.row.refundedMinor + c.amount) = _
    ring
  have hsub : (c.apply c.row).riderSub = c.row.riderSub := rfl
  rw [Payment.paidBy, Payment.paidBy, hsub, hnet]
  split_ifs
  · rfl
  · rfl

lemma Consistent.matches_iff (h : Consistent cfg s) {c : RefundCall ID} (hrow : c.row ∈ s.rows)
    (hstatus : c.row.status = .settled ∨ c.row.status = .partiallyRefunded) (hp : p ∈ s.rows) :
    c.Matches p ↔ p = c.row := by
  constructor
  · exact fun hm => h.eq_of_id hp hrow hm.1
  · rintro rfl
    exact ⟨rfl, hstatus, rfl⟩

section Update

variable [DecidableEq ID] {c : RefundCall ID}

lemma paid_update (h : Consistent cfg s) (hrow : c.row ∈ s.rows)
    (hstatus : c.row.status = .settled ∨ c.row.status = .partiallyRefunded)
    (hrows : s'.rows = s.rows.map fun p => if c.Matches p then c.apply p else p) (rider : String) :
    s'.paid rider = s.paid rider - if c.row.riderSub = rider then c.amount else 0 := by
  have hmap : s'.rows.map (fun p => p.paidBy rider) =
      s.rows.map fun p => if p = c.row then (c.apply p).paidBy rider else p.paidBy rider := by
    rw [hrows, map_map]
    refine map_congr_left fun p hp => ?_
    simp only [comp_apply, h.matches_iff hrow hstatus hp]
    split_ifs
    · rfl
    · rfl
  have hnodup : s.rows.Nodup := Nodup.of_map _ h.ids
  rw [paid, hmap, sum_map_ite_eq, count_eq_one_of_mem hnodup hrow, one_smul,
    c.apply_paidBy hstatus, paid]
  ring

/-- **The UPDATE** puts into the row what the call returned. -/
lemma WalletInv.updateRefund (h : WalletInv cfg s) (hord : Orderly cfg s')
    (hstep : s.updateRefund j = some s') : WalletInv cfg s' := by
  obtain ⟨c, tb, hc, hpc, hcases⟩ := updateRefund_cases hstep
  have hmem : c ∈ s.refunds := mem_of_getElem? hc
  have hact : c.pc.active = true := by rw [hpc]; rfl
  have hrow : c.row ∈ s.rows := h.alone.frozen c hmem hact
  have hok := h.orderly.consistent.refunds c hmem
  have hmatch := fun p hp => h.orderly.consistent.matches_iff (p := p) hrow hok.status hp
  rcases hcases with ⟨p, r, -, -, rfl⟩ | ⟨hnone, -⟩
  · set s' := ({ s with rows := s.rows.map fun p => if c.Matches p then c.apply p else p } :
      State ID).setRefund j { c with pc := .done r } with hs'
    have hrows : s'.rows = s.rows.map fun p => if c.Matches p then c.apply p else p := rfl
    have hmono : ∀ p ∈ s.rows, ∃ q ∈ s'.rows, q.id = p.id ∧ p.refundedMinor ≤ q.refundedMinor ∧
        ∀ key, p.Charges key → q.Charges key := by
      intro p hp
      refine ⟨_, mem_map_of_mem hp, ?_⟩
      by_cases hm : c.Matches p
      · rw [if_pos hm]
        refine ⟨rfl, ?_, fun key hk => ⟨hk.1, c.apply_charged p, hk.2.2⟩⟩
        rw [hm.2.2]
        exact le_add_of_nonneg_right hok.nonneg
      · rw [if_neg hm]
        exact ⟨rfl, le_rfl, fun _ hk => hk⟩
    refine h.quiet hord ?_ rfl rfl rfl (fun key => ?_)
      (ReturnedTo.setRefund (fun p hp => ?_) rfl hc fun tb _ => ?_) fun rider => ?_
    · -- the other refunds in flight are of other riders, so of other rows
      refine h.alone.setRefund hc rfl nofun fun k a ha hkj hacta => ?_
      have harow := h.alone.frozen a (mem_of_getElem? ha) hacta
      have hne : ¬ c.Matches a.row := by
        rw [hmatch a.row harow]
        intro heq
        exact h.alone.riders k j a c ha hc hkj hacta hact (congrArg Payment.riderSub heq)
      rw [hrows]
      exact mem_map.mpr ⟨a.row, harow, if_neg hne⟩
    · refine Or.imp_left fun ⟨p, hp, hk⟩ => ?_
      obtain ⟨q, hq, -, -, hch⟩ := hmono p hp
      exact ⟨q, hq, hch key hk⟩
    · obtain ⟨q, hq, hid, hle, -⟩ := hmono p hp
      exact ⟨q, hq, hid, hle⟩
    · refine .inl ⟨c.apply c.row, ?_, rfl, le_rfl⟩
      rw [hrows]
      exact mem_map.mpr ⟨c.row, hrow, if_pos ((hmatch c.row hrow).mpr rfl)⟩
    · have hpaid := paid_update h.orderly.consistent hrow hok.status hrows rider
      have hret : s'.returned rider =
          s.returned rider - if c.row.riderSub = rider then c.amount else 0 := by
        rw [returned, hs', setRefund, sum_set _ hc, returned_posted hpc, returned]
        exact add_zero _
      rw [expected, hpaid, hret, expected]
      show s.funded rider - _ - s.held rider + _ = _
      ring
  · exact absurd ((hmatch c.row hrow).mpr rfl) (hnone c.row hrow)

end Update

/-! ## The ledger -/

variable {rider : String}

/-- **A ledger call for a rider** posts its transfer exactly if it succeeds. -/
lemma WalletInv.ledger (h : WalletInv cfg s) (hord : Orderly cfg s') (halone : RefundsAlone s')
    (halloc : s.Allocates rider) {b : Books ID} (hbooks : s'.books = b)
    (hacc : s'.accounts = (s.riderAccount rider).1.accounts) {t : Transfer ID} {success : Bool}
    (hcall : (success = true ∧ b.posted = s.books.posted ++ [t]) ∨
      (success = false ∧ b.posted = s.books.posted)) (ht : BetweenWallet t (s.riderAccount rider).2)
    (hkind : success = true → Kind cfg s' t) (hfare : ∀ k, s.ChargedKey k → s'.ChargedKey k)
    (hrev : ∀ id n, s.ReturnedTo id n → s'.ReturnedTo id n) (htop : ∀ u ∈ s.topUps, u ∈ s'.topUps)
    (hnew : ∀ u ∈ s'.topUps, u ∈ s.topUps ∨ ¬ s'.books.Fresh (cfg.tid ("topup:" ++ u.key)))
    (hbal : ∀ r, s'.expected r = s.expected r +
      if success = true ∧ rider = r then t.effect (s.riderAccount rider).2 else 0) :
    WalletInv cfg s' := by
  have hold : ∀ u ∈ s.books.posted, u ∈ b.posted := by
    intro u hu
    rcases hcall with ⟨-, heq⟩ | ⟨-, heq⟩
    · rw [heq]
      exact mem_append_left _ hu
    · rwa [heq]
  have hcases : ∀ u ∈ b.posted, u ∈ s.books.posted ∨
      (BetweenWallet u (s.riderAccount rider).2 ∧ Kind cfg s' u) := by
    rcases hcall with ⟨hs, heq⟩ | ⟨-, heq⟩
    · rw [heq]
      exact forall_mem_concat (fun _ hu => .inl hu) (.inr ⟨ht, hkind hs⟩)
    · exact fun _ hu => .inl (heq ▸ hu)
  have hafter : AccountsOk (s.afterLedger rider b) :=
    h.accounts.afterLedger halloc fun u hu => (hcases u hu).imp_right And.left
  refine ⟨hord, hafter.congr hbooks hacc, halone, fun u hu => ?_, fun u hu => ?_, fun r => ?_⟩
  · rw [hbooks] at hu
    rcases hcases u hu with hu | ⟨-, hkind⟩
    · exact (h.kinds u hu).mono hfare hrev htop
    · exact hkind
  · rcases hnew u hu with hu | hu
    · intro hfresh
      rw [hbooks] at hfresh
      exact h.history u hu fun t ht => hfresh t (hold t ht)
    · exact hu
  · have hwallet := wallet_congr (s := s.afterLedger rider b) hbooks hacc r
    rw [hwallet, h.accounts.wallet_call halloc hcall ht, h.balanced, hbal]

lemma Consistent.not_chargedKey (h : Consistent cfg s) {c : PayCall ID}
    (hc : s.payments[i]? = some c) (hd : c.pc.draft = some d)
    (hstatus : d.row.status = .initiated) : ¬ s.ChargedKey c.key := by
  have hsome : c.pc.draft.isSome = true := by rw [hd]; rfl
  rintro (⟨p, hp, hkey, -⟩ | ⟨a, ha, e, he, hkey, hcharged, -⟩)
  · exact h.rowKeys i c hc hsome p hp hkey
  · obtain ⟨k, hk⟩ := mem_iff_getElem?.mp ha
    by_cases hki : k = i
    · subst hki
      cases hk.symm.trans hc
      cases hd.symm.trans he
      rw [hstatus] at hcharged
      cases hcharged
    · rw [(h.drafts k a e hk he).key, Option.some.injEq] at hkey
      exact h.draftKeys k i a c hk hc hki (by rw [show a.pc.draft = some e from he]; rfl) hsome hkey

lemma WalletInv.reversal_unposted (hsha : Injective cfg.sha16) (h : WalletInv cfg s)
    {c : RefundCall ID} (hc : s.refunds[j]? = some c) (hpc : c.pc = .loaded)
    (halloc : s.Allocates c.row.riderSub) :
    reversal cfg c (s.riderAccount c.row.riderSub).2 ∉ s.books.posted := by
  have hmem : c ∈ s.refunds := mem_of_getElem? hc
  have hact : c.pc.active = true := by rw [hpc]; rfl
  have hrow := h.alone.frozen c hmem hact
  intro hposted
  cases h.kinds _ hposted with
  | fare key hcredit => exact halloc (.inl hcredit)
  | topUp u hdebit => exact absurd hdebit Ledger.operatorRevenueAccount_ne
  | reversal id total _ hnonneg hid hret =>
    obtain ⟨rfl, rfl⟩ :=
      tid_refundKey_inj hsha (h.orderly.consistent.newTotal_nonneg hmem) hnonneg hid
    rcases hret with ⟨p, hp, hpid, hle⟩ | ⟨a, ha, ⟨tb, htb⟩, haid, -⟩
    · rw [h.orderly.consistent.eq_of_id hp hrow hpid, RefundCall.newTotal] at hle
      have hpos := (h.orderly.consistent.refunds c hmem).loaded hpc
      omega
    · obtain ⟨k, hk⟩ := mem_iff_getElem?.mp ha
      have hacta : a.pc.active = true := by rw [htb]; rfl
      have hkj : k ≠ j := by
        rintro rfl
        rw [Option.some.inj (hk.symm.trans hc), hpc] at htb
        cases htb
      have heq := h.orderly.consistent.eq_of_id (h.alone.frozen a ha hacta) hrow haid
      exact h.alone.riders k j a c hk hc hkj hacta hact (congrArg Payment.riderSub heq)

lemma effect_fare (halloc : s.Allocates rider) {charge : ℤ} (hpos : 0 ≤ charge) (key : String) :
    (fareTransfer cfg key (s.riderAccount rider).2 charge).effect
    (s.riderAccount rider).2 = -charge :=
  (Transfer.effect_debit rfl fun hcredit => halloc (.inl hcredit.symm)).trans
    (congrArg Neg.neg (Int.toNat_of_nonneg hpos))

lemma effect_reversal {c : RefundCall ID} (halloc : s.Allocates c.row.riderSub)
    (hpos : 0 ≤ c.amount) : (reversal cfg c (s.riderAccount c.row.riderSub).2).effect
      (s.riderAccount c.row.riderSub).2 = c.amount :=
  (Transfer.effect_credit rfl fun hdebit => halloc (.inl hdebit.symm)).trans
    (Int.toNat_of_nonneg hpos)

lemma effect_topUp (halloc : s.Allocates rider) (key : String) (amount : ℕ) :
    (topUpTransfer cfg key (s.riderAccount rider).2 amount).effect
    (s.riderAccount rider).2 = amount :=
  Transfer.effect_credit rfl fun hdebit => halloc (.inr hdebit.symm)

lemma held_ledgerResult {c : PayCall ID} {res : Except Ledger.LedgerError ID}
    (hpc : c.pc = .posted (d.ledgerResult res)) (hzero : d.row.refundedMinor = 0) (rider : String) :
    c.held rider = if res.isOk = true ∧
    d.row.riderSub = rider then d.row.effectiveCharged else 0 := by
  rw [held_of_draft (d := d.ledgerResult res) (by rw [hpc]; rfl)]
  cases res with
  | error e => exact paidBy_eq_zero rfl rider
  | ok id =>
    have hnet : (d.ledgerResult (.ok id)).row.net = d.row.effectiveCharged :=
      (congrArg (d.row.effectiveCharged - ·) hzero).trans (sub_zero _)
    have hsub : (d.ledgerResult (.ok id)).row.riderSub = d.row.riderSub := rfl
    rw [Payment.paidBy, hnet, hsub]
    simp [Except.isOk, Except.toBool]

lemma recordTopUp_topUps (s : State ID) (u : TopUp) :
    ((∃ v ∈ s.topUps, v.key = u.key) ∧ (s.recordTopUp u).topUps = s.topUps) ∨
      ((∀ v ∈ s.topUps, v.key ≠ u.key) ∧ (s.recordTopUp u).topUps = s.topUps ++ [u]) := by
  rw [recordTopUp]
  split_ifs with hex
  · exact .inl ⟨hex, rfl⟩
  · simp only [not_exists, not_and] at hex
    exact .inr ⟨hex, rfl⟩

lemma WalletInv.held_idle (h : WalletInv cfg s) (hidle : s.Idle rider) : s.held rider = 0 := by
  refine sum_eq_zero fun x hx => ?_
  obtain ⟨c, hc, rfl⟩ := mem_map.mp hx
  cases hd : c.pc.draft with
  | none => exact held_of_no_draft hd rider
  | some d =>
    obtain ⟨i, hi⟩ := mem_iff_getElem?.mp hc
    rw [held_of_draft hd, Payment.paidBy, (h.orderly.consistent.drafts i c d hi hd).riderSub]
    refine if_neg fun hrider => ?_
    have hover := hidle.1 c hc hrider
    cases hpc : c.pc <;> simp_all [PayPc.draft, PayPc.active]

lemma returned_idle (hidle : s.Idle rider) : s.returned rider = 0 := by
  refine sum_eq_zero fun x hx => ?_
  obtain ⟨c, hc, rfl⟩ := mem_map.mp hx
  cases hpc : c.pc with
  | posted tb =>
    rw [returned_posted hpc]
    refine if_neg fun hrider => ?_
    have hover := hidle.2 c hc hrider
    rw [hpc] at hover
    cases hover
  | _ => rw [RefundCall.returned, hpc]

variable [DecidableEq ID] {r : Ledger.Replies} (hsha : Injective cfg.sha16)
include hsha

/-- **The ledger leg** takes from the wallet what the call then holds. -/
lemma WalletInv.post (h : WalletInv cfg s)
    (hord : Orderly cfg s') (hok : Reliable s (.post i r)) (hstep : s.post cfg i r = some s') :
    WalletInv cfg s' := by
  obtain ⟨c, d, b, res, hc, hpc, htransfer, rfl⟩ := post_cases hstep
  have halloc : s.Allocates c.rider := hok.2 c hc
  have hd : c.pc.draft = some d := by rw [hpc]; rfl
  have hof := h.orderly.consistent.drafts i c d hc hd
  obtain ⟨hstatus, hpos⟩ := hof.inserted hpc
  have hcall : (res.isOk = true ∧ b.posted = s.books.posted ++
        [fareTransfer cfg c.key (s.riderAccount c.rider).2 d.row.effectiveCharged]) ∨
      (res.isOk = false ∧ b.posted = s.books.posted) :=
    (Ledger.transfer_spec htransfer).heard hok.1 fun hmem => by
      cases h.kinds _ hmem with
      | fare key _ hid hkey =>
        obtain rfl : c.key = key := (Ledger.deterministicTransferID_inj hsha).mp hid
        exact h.orderly.consistent.not_chargedKey hc hd hstatus hkey
      | reversal id total hdebit => exact halloc (.inl hdebit)
      | topUp u hdebit => exact halloc (.inr hdebit)
  refine h.ledger hord { h.alone with } halloc rfl rfl hcall (.inl ⟨rfl, .inl rfl⟩)
    (fun hsuccess => ?_) ?_ (fun _ _ hr => hr) (fun _ hu => hu) (fun _ hu => .inl hu) fun rider =>
    ?_
  · refine .fare c.key rfl rfl (.inr ⟨_, mem_set_self hc, d.ledgerResult res, rfl, ?_⟩)
    cases res with
    | ok id => exact ⟨hof.key, rfl, hpos⟩
    | error e => cases hsuccess
  · refine ChargedKey.setPayment (fun _ hp => hp) rfl hc fun e key he hch => ?_
    cases hd.symm.trans he
    rw [Payment.Charges, hstatus] at hch
    exact Bool.noConfusion hch.2.1
  · have hbefore : d.row.net = 0 := net_of_uncharged (by rw [hstatus]; rfl)
    rw [State.expected, State.held, State.setPayment, sum_set _ hc, held_of_draft hd,
      paidBy_eq_zero hbefore,
      sub_zero, held_ledgerResult rfl hof.refundedMinor, hof.riderSub, effect_fare halloc hpos.le]
    show s.funded rider - s.paid rider - (s.held rider + _) + s.returned rider = _
    rw [expected]
    split_ifs <;> ring

/-- **The reversal of a refund** returns to the wallet what the call then has returned. -/
lemma WalletInv.postRefund (h : WalletInv cfg s)
    (hord : Orderly cfg s') (hok : Reliable s (.postRefund j r))
    (hstep : s.postRefund cfg j r = some s') : WalletInv cfg s' := by
  obtain ⟨c, b, res, hc, hpc, hout, rfl⟩ := postRefund_cases hstep
  have hmem : c ∈ s.refunds := mem_of_getElem? hc
  have halloc : s.Allocates c.row.riderSub := hok.2 c hc
  have hact : c.pc.active = true := by rw [hpc]; rfl
  have hcall := hout.heard hok.1 (h.reversal_unposted hsha hc hpc halloc)
  refine h.ledger hord ?_ halloc rfl rfl hcall (.inr ⟨rfl, .inl rfl⟩) (fun hsuccess => ?_)
    (fun _ hk => hk) ?_ (fun _ hu => hu) (fun _ hu => .inl hu) fun rider => ?_
  · exact h.alone.setRefund hc rfl (fun _ => ⟨hact, h.alone.frozen c hmem hact⟩)
      fun k a ha _ => h.alone.frozen a (mem_of_getElem? ha)
  · refine .reversal c.row.id c.newTotal rfl (h.orderly.consistent.newTotal_nonneg hmem) rfl
      (.inr ⟨_, mem_set_self hc, ?_, rfl, rfl⟩)
    cases res with
    | ok id => exact ⟨some id, rfl⟩
    | error e => cases hsuccess
  · refine ReturnedTo.setRefund (fun p hp => ⟨p, hp, rfl, le_rfl⟩) rfl hc fun tb htb => ?_
    rw [hpc] at htb
    cases htb
  · have hbefore : c.returned rider = 0 := by rw [RefundCall.returned, hpc]
    have hafter : ({ c with pc := .ledgerResult res } : RefundCall ID).returned rider =
        if res.isOk = true ∧ c.row.riderSub = rider then c.amount else 0 := by
      cases res <;> simp [RefundCall.returned, RefundPc.ledgerResult, Except.isOk, Except.toBool]
    rw [expected, returned, setRefund, sum_set _ hc, hbefore, hafter, sub_zero,
      effect_reversal halloc (h.orderly.consistent.refunds c hmem).nonneg]
    show s.funded rider - s.paid rider - s.held rider + (s.returned rider + _) = _
    rw [expected]
    ring

/-- **A top-up** is posted when it is counted. -/
lemma WalletInv.topUp (h : WalletInv cfg s)
    (hord : Orderly cfg s') {subject key : String} {amount : ℤ}
    (hok : Reliable s (.topUp subject key amount r))
    (hstep : s.topUp cfg subject key amount r = some s') : WalletInv cfg s' := by
  obtain rfl | ⟨n, b, res, -, hout, rfl⟩ := topUp_cases hstep
  · exact h
  have halloc : s.Allocates subject := hok.2
  have htops : (s.topUpResult ⟨subject, key, n⟩ res).topUps = s.topUps ∧ b.posted = s.books.posted ∨
      (s.topUpResult ⟨subject, key, n⟩ res).topUps = s.topUps ++ [⟨subject, key, n⟩] ∧
        b.posted = s.books.posted ++ [topUpTransfer cfg key (s.riderAccount subject).2 n] := by
    have hrecord := recordTopUp_topUps s ⟨subject, key, n⟩
    cases hout with
    | posted hfresh _ hafter =>
      rcases hrecord with ⟨⟨v, hv, hkey⟩, -⟩ | ⟨-, hrecord⟩
      · obtain rfl : v.key = key := hkey
        exact absurd hfresh (h.history v hv)
      · exact .inr ⟨hrecord, hafter⟩
    | repeated hmem hafter =>
      rcases hrecord with ⟨-, hrecord⟩ | ⟨hnone, -⟩
      · exact .inl ⟨hrecord, hafter⟩
      · cases h.kinds _ hmem with
        | fare key hcredit => exact absurd (.inl hcredit) halloc
        | reversal id total hdebit => exact absurd hdebit Ledger.operatorRevenueAccount_ne.symm
        | topUp u _ hu hid => exact absurd (tid_topup_inj hsha hid).symm (hnone u hu)
    | failed e hafter => exact .inl ⟨rfl, hafter⟩
    | unheard e hlost => exact absurd hlost hok.1
  have hbetween : BetweenWallet (topUpTransfer cfg key (s.riderAccount subject).2 n)
      (s.riderAccount subject).2 := .inr ⟨rfl, .inr rfl⟩
  rcases htops with ⟨htops, hposted⟩ | ⟨htops, hposted⟩ <;> rw [htops] at hord ⊢
  · refine h.ledger hord { h.alone with } halloc rfl rfl (.inr ⟨rfl, hposted⟩) hbetween nofun
      (fun _ hk => hk) (fun _ _ hr => hr) (fun _ hu => hu) (fun _ hu => .inl hu) fun rider => ?_
    rw [if_neg fun hboth => by cases hboth.1]
    exact (add_zero (s.expected rider)).symm
  · refine h.ledger hord { h.alone with } halloc rfl rfl (.inl ⟨rfl, hposted⟩) hbetween
      (fun _ => .topUp ⟨subject, key, n⟩ rfl mem_concat_self rfl) (fun _ hk => hk)
      (fun _ _ hr => hr) (fun _ hu => mem_append_left _ hu) ?_ fun rider => ?_
    · refine forall_mem_concat (fun _ hu => .inl hu) (.inr fun hfresh => ?_)
      refine hfresh (topUpTransfer cfg key (s.riderAccount subject).2 n) ?_ rfl
      exact hposted ▸ mem_concat_self
    · rw [expected, funded, map_append, sum_append, effect_topUp halloc]
      show s.funded rider + _ - s.paid rider - s.held rider + s.returned rider = _
      rw [expected]
      simp
      ring

/-! ## Runs of sequential calls -/

lemma WalletInv.step (hinj : Injective cfg.newID)
    (h : WalletInv cfg s) {e : Event} (hseq : Sequential s e) (hok : WalletCareful s e)
    (hstep : step cfg s e = some s') : WalletInv cfg s' := by
  have hord := h.orderly.step hinj hok.1 hstep
  cases e with
  | beginPayment key subject privileged body now =>
    obtain rfl | ⟨c, hpc, -, -, -, rfl⟩ := beginPayment_cases hstep
    · exact h
    · exact h.addPayment hpc hord
  | lock i =>
    obtain ⟨c, hc, hpc, -, rfl⟩ := lock_cases hstep
    exact h.advance hc hord (by rw [hpc]; rfl) rfl
  | resolve i =>
    obtain ⟨c, hc, hpc, rfl⟩ := resolve_cases hstep
    exact h.advance hc hord (by rw [hpc]; rfl) rfl
  | price i =>
    obtain ⟨c, q, charge, hc, hpc, -, rfl⟩ := price_cases hstep
    exact h.advance hc hord (by rw [hpc]; rfl) rfl
  | insert i => exact h.insert hord hstep
  | post i r => exact h.post hsha hord hok.2 hstep
  | switch i answer => exact h.switch hord hok.2 hstep
  | commit i => exact h.commit hord hstep
  | abort i => exact hseq.elim
  | beginRefund id requested =>
    obtain rfl | ⟨p, amount, hp, hid, -, hnonneg, -, rfl⟩ := beginRefund_cases hstep
    · exact h
    · refine h.addRefund hp (hseq p hp hid) hord fun rider => ?_
      rw [RefundCall.returned]
      by_cases hpos : 0 < amount
      · rw [if_pos hpos]
      · rw [if_neg hpos, le_antisymm (not_lt.mp hpos) hnonneg]
        exact ite_self 0
  | postRefund j r => exact h.postRefund hsha hord hok.2 hstep
  | updateRefund j => exact h.updateRefund hord hstep
  | crashRefund j => exact hseq.elim
  | topUp subject key amount r => exact h.topUp hsha hord hok.2 hstep
  | setEntitlements es =>
    cases hstep
    exact h.quiet hord { h.alone with } rfl rfl rfl (fun _ hk => hk) (fun _ _ hr => hr)
      fun _ => rfl

lemma WalletInv.debits_eq_nil (h : WalletInv cfg s)
    (hp : p ∈ s.rows) (hstatus : p.status.charged = false) {key : String}
    (hkey : p.idempotencyKey = some key) (rider : String) : s.debits cfg rider key = [] := by
  refine filter_eq_nil_iff.mpr fun t ht htid => ?_
  obtain ⟨hid, hacc⟩ := of_decide_eq_true htid
  have hwallet := h.accounts.wallets rider t.debit hacc
  cases h.kinds t ht with
  | reversal id total hdebit => exact hwallet (.inl hdebit)
  | topUp u hdebit => exact hwallet (.inr hdebit)
  | fare k _ hid' hcharged =>
    obtain rfl : key = k := (Ledger.deterministicTransferID_inj hsha).mp (hid.symm.trans hid')
    rcases hcharged with ⟨q, hq, hqkey, hqcharged, -⟩ | ⟨c, hc, d, hd, hdkey, -⟩
    · obtain rfl := inj_on_of_nodup_map h.orderly.consistent.keys hp hq (hkey.trans hqkey.symm)
      rw [hstatus] at hqcharged
      cases hqcharged
    · obtain ⟨i, hi⟩ := mem_iff_getElem?.mp hc
      have hsome : c.pc.draft.isSome = true := by rw [show c.pc.draft = some d from hd]; rfl
      refine h.orderly.consistent.rowKeys i c hi hsome p hp ?_
      rw [hkey, ← hdkey, (h.orderly.consistent.drafts i c d hi hd).key]

omit hsha

/-- **The wallet of a rider is what was topped up less what the rows say was paid**, whenever no
call of the rider is in flight, and a payment that did not settle has debited nothing. -/
theorem wallet_matches_rows (hsha : Injective cfg.sha16)
    (hinj : Injective cfg.newID) {es : List Event} {s : State ID}
    (hok : Meets (step cfg) (fun s e => Sequential s e ∧ WalletCareful s e) init es)
    (hrun : run (step cfg) init es = some s) {rider : String} (hidle : s.Idle rider) :
    s.wallet rider = s.funded rider - s.paid rider ∧
      ∀ p ∈ s.rows, p.riderSub = rider → p.status.charged = false →
        ∀ key, p.idempotencyKey = some key → s.debits cfg rider key = [] := by
  have h : WalletInv cfg s :=
    run_invariant (fun _ _ _ h hc hs => h.step hsha hinj hc.1 hc.2 hs) .init hok hrun
  refine ⟨?_, fun p hp _ hstatus key hkey => h.debits_eq_nil hsha hp hstatus hkey rider⟩
  rw [h.balanced, expected, h.held_idle hidle, returned_idle hidle, sub_zero, add_zero]

/-! ## Two payments of one rider -/

/-- A payment with a partial refund, and one the wallet does not cover. -/
def coveredRun : List Event :=
  [topUpFirst 100] ++ payment 0 "tap-1" 50 1700000000000000 false (answered .created) ++
    [.commit 0, .beginRefund firstPayment (some 30), .postRefund 0 (answered .created),
      .updateRefund 0] ++
    payment 1 "tap-2" 200 1700000060000000 false (answered .exceedsCredits) ++ [.commit 1]

theorem wallet_matches_rows_covered : ∃ s, run (step defaultConfig) init coveredRun = some s ∧
      s.rows.map Payment.status = [.partiallyRefunded, .failed] ∧ s.wallet "rider-1" = 80 ∧
      s.wallet "rider-1" = s.funded "rider-1" - s.paid "rider-1" ∧
      s.debits defaultConfig "rider-1" "tap-2" = [] := by
  obtain ⟨s, hrun, hidle, hstatus, hwallet, p, hp, hsub, hcharged, hkey⟩ :
      ∃ s, run (step defaultConfig) init coveredRun = some s ∧ s.Idle "rider-1" ∧
        s.rows.map Payment.status = [.partiallyRefunded, .failed] ∧ s.wallet "rider-1" = 80 ∧
        ∃ p ∈ s.rows, p.riderSub = "rider-1" ∧ p.status.charged = false ∧
          p.idempotencyKey = some "tap-2" := by
    decide +kernel
  obtain ⟨hbalance, hdebits⟩ := wallet_matches_rows defaultConfig_sha16_injective
    defaultConfig_newID_injective (by decide +kernel) hrun hidle
  exact ⟨s, hrun, hstatus, hwallet, hbalance, hdebits p hp hsub hcharged "tap-2" hkey⟩

def timeoutRun : List Event :=
  [topUpFirst 2000] ++ payment 0 "tap-1" 50 1700000000000000 true (answered .created) ++
    [.switch 0 (.error (.classified ⟨"POST /transfers", .timeout, 0, "context deadline exceeded"⟩)),
      .commit 0]

/-- **A switch that times out leaves the wallet debited**, and the row says nothing was paid. -/
theorem switch_timeout_keeps_debit :
    ∃ s, run (step defaultConfig) init timeoutRun = some s ∧ s.Idle "rider-1" ∧
      s.rows.map Payment.status = [.mojaloopTimeout] ∧ s.funded "rider-1" = 2000 ∧
      s.paid "rider-1" = 0 ∧ s.wallet "rider-1" = 1950 ∧
      (s.debits defaultConfig "rider-1" "tap-1").map Transfer.amount = [50] := by
  decide +kernel

end H2Fleet.Commerce
