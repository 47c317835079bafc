import H2Fleet.Core.History
import H2Fleet.Commerce.Consistency

/-!
# What a corporate payer is billed

A ride under an entitlement with a payer accrues a billing charge for the difference between the
requested fare and what the rider is charged: the fare after the entitlement, lowered by the daily
cap.  The row of a payment does not say which entitlement was chosen, nor what had been spent on the
day; both are found in the run (`Took`), at the steps that resolved and priced the call.

* `PayerOk` — the invariant: a draft carries the accrual of its fare, and the billing charges of a
  committed payment are that accrual.
-/

namespace H2Fleet.Commerce

open List Option Function State

variable {ID : Type}

def State.chargesOf (s : State ID) (id : String) : List BillingCharge :=
  s.charges.filter fun b => b.paymentID = id

/-- What is billed for a payment in total. -/
def State.billed (s : State ID) (id : String) : ℤ :=
  ((s.chargesOf id).map BillingCharge.amountMinor).sum

def Config.capped (cfg : Config ID) (spent charge : ℤ) : ℤ :=
  if 0 < cfg.cap ∧ 0 < charge then applyCap cfg.cap spent charge else charge

/-! ## Accruals -/

variable {i n : ℕ} {c : PayCall ID} {q : Quote}

lemma accrual_paymentID {cfg : Config ID} {b : BillingCharge} (h : b ∈ accrual cfg i c q) :
    b.paymentID = cfg.newID i ∧ q.payerAccount = some b.billingAccountID := by
  obtain ⟨payer, hpayer, h⟩ := bind_eq_some_iff.mp h
  obtain ⟨-, ⟨⟩⟩ := ite_none_right_eq_some.mp h
  exact ⟨rfl, hpayer⟩

/-- **The accrual in total.**  A difference that is no `int64` wraps to a negative one. -/
lemma accrual_total {cfg : Config ID} {payer : String} (hpayer : q.payerAccount = some payer)
    (hamount : InInt64 c.amount) (hcharge : -2 ^ 63 ≤ q.charge ∧ q.charge ≤ c.amount) :
    ((accrual cfg i c q).toList.map BillingCharge.amountMinor).sum =
      if InInt64 (c.amount - q.charge) then c.amount - q.charge else 0 := by
  obtain ⟨-, hhigh⟩ := hamount
  simp only [accrual, hpayer, bind_some]
  by_cases hrange : InInt64 (c.amount - q.charge)
  · rw [toInt64_eq hrange, if_pos hrange]
    by_cases hpos : 0 < c.amount - q.charge
    · rw [if_pos hpos]
      exact sum_singleton
    · have hzero : c.amount - q.charge = 0 := by omega
      rw [if_neg hpos, hzero]
      rfl
  · have hneg : ¬ 0 < toInt64 (c.amount - q.charge) := by
      rw [InInt64] at hrange
      rw [toInt64]
      omega
    rw [if_neg hneg, if_neg hrange]
    rfl

section Stages

variable {cfg : Config ID} {s s' : State ID}

/-! ## Stages -/

def PayPc.stage : PayPc ID → ℕ
  | .begun => 0
  | .locked => 1
  | .resolved _ => 2
  | .priced _ => 3
  | .inserted _ => 4
  | .posted _ => 5
  | .switched _ => 6
  | .done _ | .aborted => 7

lemma PayPc.stage_le (pc : PayPc ID) : pc.stage ≤ 7 := by
  cases pc <;> simp [PayPc.stage]

def State.Reached (s : State ID) (i n : ℕ) : Prop :=
  ∃ c, s.payments[i]? = some c ∧ n ≤ c.pc.stage

lemma State.Reached.setPayment {j : ℕ} {c' : PayCall ID} (h : s.Reached i n)
    (hc : s.payments[j]? = some c) (hpay : s'.payments = s.payments.set j c')
    (hstage : c.pc.stage ≤ c'.pc.stage) : s'.Reached i n := by
  obtain ⟨d, hd, hn⟩ := h
  rw [Reached, hpay]
  by_cases hij : i = j
  · subst hij
    cases hc.symm.trans hd
    exact ⟨c', getElem?_set_self (List.getElem?_eq_some_iff.mp hc).1, hn.trans hstage⟩
  · exact ⟨d, getElem?_set_other hij hd, hn⟩

lemma State.Reached.congr (h : s.Reached i n) (hpay : s'.payments = s.payments) :
    s'.Reached i n := by
  rw [Reached, hpay]
  exact h

end Stages

/-! ## The history of a payment -/

variable [DecidableEq ID] (cfg : Config ID) (es : List Event)

def Resolved (i : ℕ) (rider : String) (now amount : ℤ)
    (q : Quote) : Prop :=
  Took (step cfg) .init es fun t e =>
    e = .resolve i ∧ resolveEntitlement t.entitlements rider now amount = q

/-- Call `i` was priced when the rider had spent so much on the day. -/
def Priced (i : ℕ) (rider : String) (now spent : ℤ) : Prop :=
  Took (step cfg) .init es fun t e =>
    e = .price i ∧ spentToday t.rows rider (cfg.day now) = spent

/-- The quote has the fare of call `i`, after the entitlement and the cap. -/
def Quoted (i : ℕ) (rider : String) (now amount : ℤ)
    (q : Quote) : Prop :=
  ∃ q₀ spent, Resolved cfg es i rider now amount q₀ ∧ Priced cfg es i rider now spent ∧
    { q₀ with charge := cfg.capped spent q₀.charge } = q

structure RowOf (i : ℕ) (q : Quote) (p : Payment ID) : Prop where
  id : p.id = cfg.newID i
  quoted : Quoted cfg es i p.riderSub p.createdAt p.amountMinor q
  positive : 0 < p.amountMinor
  range : InInt64 p.amountMinor
  charged : p.chargedMinor = some q.charge

def FareKnown (i : ℕ) (c : PayCall ID) : Prop :=
  match c.pc with
  | .resolved q => Resolved cfg es i c.rider c.now c.amount q
  | .priced q => Quoted cfg es i c.rider c.now c.amount q
  | .inserted d | .posted d | .switched d =>
    ∃ q, RowOf cfg es i q d.row ∧ d.row.amountMinor = c.amount ∧ d.accrual = accrual cfg i c q
  | _ => True

structure PayerOk (s : State ID) : Prop where
  amounts : ∀ c ∈ s.payments, 0 < c.amount ∧ InInt64 c.amount
  fares : ∀ (i : ℕ) (c : PayCall ID), s.payments[i]? = some c → FareKnown cfg es i c
  rows : ∀ p ∈ s.rows, ∃ (i : ℕ) (q : Quote) (c : PayCall ID), RowOf cfg es i q p ∧
    p.amountMinor = c.amount ∧ s.chargesOf p.id = (accrual cfg i c q).toList
  charges : ∀ b ∈ s.charges, ∃ p ∈ s.rows, p.id = b.paymentID

section Steps

variable {cfg : Config ID} {es : List Event} {s s' : State ID} {i : ℕ} {c c' : PayCall ID}
  {q : Quote} {p p' : Payment ID}

lemma PayerOk.init : PayerOk cfg [] (init : State ID) where
  amounts _ hc := nomatch hc
  fares i c hc := by simp [State.init] at hc
  rows _ hp := nomatch hp
  charges _ hb := nomatch hb

variable {rider : String} {now amount : ℤ}

lemma Quoted.concat (h : Quoted cfg es i rider now amount q) (e : Event) :
    Quoted cfg (es ++ [e]) i rider now amount q := by
  obtain ⟨q₀, spent, hresolved, hpriced, hq⟩ := h
  exact ⟨q₀, spent, hresolved.concat e, hpriced.concat e, hq⟩

lemma RowOf.concat (h : RowOf cfg es i q p) (e : Event) : RowOf cfg (es ++ [e]) i q p :=
  { h with quoted := h.quoted.concat e }

/-- Ledger, switch and refunds leave the rest of a row alone. -/
lemma RowOf.congr (h : RowOf cfg es i q p)
    (hrow : (p'.id, p'.riderSub, p'.createdAt, p'.amountMinor, p'.chargedMinor) =
      (p.id, p.riderSub, p.createdAt, p.amountMinor, p.chargedMinor)) : RowOf cfg es i q p' := by
  simp only [Prod.mk.injEq] at hrow
  obtain ⟨hid, hrider, hcreated, hamount, hcharged⟩ := hrow
  constructor
  · rw [hid, h.id]
  · rw [hrider, hcreated, hamount]
    exact h.quoted
  · rw [hamount]
    exact h.positive
  · rw [hamount]
    exact h.range
  · rw [hcharged, h.charged]

lemma FareKnown.concat (h : FareKnown cfg es i c) (e : Event) : FareKnown cfg (es ++ [e]) i c := by
  rw [FareKnown] at h ⊢
  cases hpc : c.pc with
  | resolved q =>
    rw [hpc] at h
    exact Took.concat h e
  | priced q =>
    rw [hpc] at h
    exact Quoted.concat h e
  | inserted d | posted d | switched d =>
    rw [hpc] at h
    obtain ⟨q, hrow, hrest⟩ := h
    exact ⟨q, hrow.concat e, hrest⟩
  | begun | locked | done | aborted => trivial

variable (h : PayerOk cfg es s)
include h

lemma PayerOk.congr (e : Event) (hpay : s'.payments = s.payments) (hrows : s'.rows = s.rows)
    (hcharges : s'.charges = s.charges) : PayerOk cfg (es ++ [e]) s' where
  amounts c hc := h.amounts c (hpay ▸ hc)
  fares i c hc := (h.fares i c (hpay ▸ hc)).concat e
  rows p hp := by
    obtain ⟨i, q, c, hrow, hamount, hbilled⟩ := h.rows p (hrows ▸ hp)
    refine ⟨i, q, c, hrow.concat e, hamount, ?_⟩
    rw [chargesOf, hcharges]
    exact hbilled
  charges b hb := by
    rw [hrows]
    exact h.charges b (hcharges ▸ hb)

variable {e : Event}

namespace PayerOk

lemma setPayment (hc : s.payments[i]? = some c) (hpay : s'.payments = s.payments.set i c')
    (hrows : s'.rows = s.rows) (hcharges : s'.charges = s.charges)
    (hamount : c'.amount = c.amount) (hfare : FareKnown cfg (es ++ [e]) i c') :
    PayerOk cfg (es ++ [e]) s' := by
  have hrest : PayerOk cfg (es ++ [e]) { s' with payments := s.payments } :=
    h.congr e rfl hrows hcharges
  refine ⟨?_, ?_, hrest.rows, hrest.charges⟩
  · rw [hpay]
    exact forall_mem_set h.amounts (hamount ▸ h.amounts c (mem_of_getElem? hc))
  · rw [hpay]
    exact forall_slot_set (fun j d hd => (h.fares j d hd).concat e) hfare

/-! ## Steps of a call -/

lemma beginPayment (e : Event) (key subject : String) (privileged : Bool)
    (body : Option PaymentBody) (now : ℤ) :
    PayerOk cfg (es ++ [e]) (s.beginPayment cfg key subject privileged body now) := by
  rw [State.beginPayment]
  cases hcheck : checkPayment cfg key subject body with
  | error r => exact h.congr e rfl rfl rfl
  | ok b =>
    have hrest : PayerOk cfg (es ++ [e]) s := h.congr e rfl rfl rfl
    exact ⟨forall_mem_concat h.amounts (checkPayment_amount hcheck),
      forall_slot_concat hrest.fares trivial, hrest.rows, hrest.charges⟩

lemma resolve (hrun : run (step cfg) .init es = some s) (hstep : s.resolve i = some s') :
    PayerOk cfg (es ++ [.resolve i]) s' := by
  obtain ⟨c, hc, -, rfl⟩ := resolve_cases hstep
  exact h.setPayment hc rfl rfl rfl rfl (Took.last hrun ⟨rfl, rfl⟩)

lemma price (hrun : run (step cfg) .init es = some s) (hstep : s.price cfg i = some s') :
    PayerOk cfg (es ++ [.price i]) s' := by
  obtain ⟨c, q, charge, hc, hpc, hcharge, rfl⟩ := price_cases hstep
  have hresolved := h.fares i c hc
  rw [FareKnown, hpc] at hresolved
  refine h.setPayment hc rfl rfl rfl rfl ?_
  refine ⟨q, s.spent cfg c, Took.concat hresolved _, Took.last hrun ⟨rfl, rfl⟩, ?_⟩
  rw [Config.capped]
  rcases hcharge with ⟨hcap, -, hpos, rfl⟩ | ⟨rfl, hfree⟩
  · rw [if_pos ⟨hcap, hpos⟩]
  · rw [if_neg fun hboth => absurd hboth.2 (not_lt.mpr (hfree hboth.1))]

lemma insert (hstep : s.insert cfg i = some s') : PayerOk cfg (es ++ [.insert i]) s' := by
  obtain ⟨c, q, hc, hpc, hcases⟩ := insert_cases hstep
  have hquoted := h.fares i c hc
  rw [FareKnown, hpc] at hquoted
  obtain ⟨hpos, hrange⟩ := h.amounts c (mem_of_getElem? hc)
  have hrow : RowOf cfg (es ++ [.insert i]) i q (newRow cfg i c q.charge) :=
    ⟨rfl, Quoted.concat hquoted _, hpos, hrange, rfl⟩
  rcases hcases with ⟨r, rfl⟩ | ⟨-, -, ⟨-, rfl⟩ | ⟨-, rfl⟩⟩
  · exact h.setPayment hc rfl rfl rfl rfl trivial
  · exact h.setPayment hc rfl rfl rfl rfl ⟨q, hrow, rfl, rfl⟩
  · exact h.setPayment hc rfl rfl rfl rfl ⟨q, hrow.congr rfl, rfl, rfl⟩

lemma draft (hc : s.payments[i]? = some c) {d : Draft ID} (hd : c.pc.draft = some d) :
    ∃ q, RowOf cfg es i q d.row ∧ d.row.amountMinor = c.amount ∧ d.accrual = accrual cfg i c q := by
  have hfare := h.fares i c hc
  rw [FareKnown] at hfare
  cases hpc : c.pc with
  | inserted d' | posted d' | switched d' =>
    rw [hpc] at hd hfare
    cases hd
    exact hfare
  | begun | locked | resolved | priced | done | aborted =>
    rw [hpc] at hd
    cases hd

lemma switch {answer : Except SwitchError String} (hstep : s.switch i answer = some s') :
    PayerOk cfg (es ++ [.switch i answer]) s' := by
  obtain ⟨c, d, hc, hpc, -, rfl⟩ := switch_cases hstep
  obtain ⟨q, hrow, hamount, haccrual⟩ := h.draft hc (by rw [hpc]; rfl)
  refine h.setPayment hc rfl rfl rfl rfl ⟨q, ?_, ?_, ?_⟩
  · cases answer <;> exact (hrow.concat _).congr rfl
  · cases answer <;> exact hamount
  · cases answer <;> exact haccrual

lemma post {r : Ledger.Replies} (hstep : s.post cfg i r = some s') :
    PayerOk cfg (es ++ [.post i r]) s' := by
  obtain ⟨c, d, b, res, hc, hpc, -, rfl⟩ := post_cases hstep
  obtain ⟨q, hrow, hamount, haccrual⟩ := h.draft hc (by rw [hpc]; rfl)
  refine h.setPayment hc rfl rfl rfl rfl ⟨q, ?_, ?_, ?_⟩
  · cases res <;> exact (hrow.concat _).congr rfl
  · cases res <;> exact hamount
  · cases res <;> exact haccrual

/-- **The commit.**  Nothing was billed for the new row, nor is for another one. -/
lemma commit (hinj : Injective cfg.newID) (hcons : Consistent cfg s)
    (hstep : s.commit i = some s') : PayerOk cfg (es ++ [.commit i]) s' := by
  obtain ⟨c, d, hc, hd, -, rfl⟩ := commit_cases hstep
  obtain ⟨q, hrow, hamount, haccrual⟩ := h.draft hc hd
  have hnew : ∀ p ∈ s.rows, p.id ≠ cfg.newID i := by
    intro p hp hid
    obtain ⟨j, c', r, hc', hdone, hj⟩ := hcons.origin p hp
    obtain rfl := hinj (hj.symm.trans hid)
    cases hc.symm.trans hc'
    rw [hdone] at hd
    cases hd
  have hown : ∀ b ∈ d.accrual.toList, b.paymentID = cfg.newID i := by
    intro b hb
    rw [haccrual, mem_toList] at hb
    exact (accrual_paymentID hb).1
  have hset : PayerOk cfg (es ++ [.commit i])
      (s.setPayment i { c with pc := .done (paymentResponse d) }) :=
    h.setPayment hc rfl rfl rfl rfl trivial
  refine ⟨hset.amounts, hset.fares, fun p hp => ?_, fun b hb => ?_⟩
  · rcases mem_append.mp hp with hp | hp
    · obtain ⟨j, q', c', hrow', hamount', hbilled⟩ := hset.rows p hp
      refine ⟨j, q', c', hrow', hamount', ?_⟩
      have hother : d.accrual.toList.filter (fun b => b.paymentID = p.id) = [] := by
        refine filter_eq_nil_iff.mpr fun b hb => ?_
        rw [hown b hb, decide_eq_true_eq]
        exact fun hid => hnew p hp hid.symm
      show (s.charges ++ d.accrual.toList).filter _ = _
      rw [filter_append, hother, append_nil]
      exact hbilled
    · obtain rfl := mem_singleton.mp hp
      refine ⟨i, q, c, hrow.concat _, hamount, ?_⟩
      have hold : s.charges.filter (fun b => b.paymentID = d.row.id) = [] := by
        refine filter_eq_nil_iff.mpr fun b hb => ?_
        obtain ⟨p, hp, hid⟩ := h.charges b hb
        rw [hrow.id, decide_eq_true_eq, ← hid]
        exact hnew p hp
      have hall : d.accrual.toList.filter (fun b => b.paymentID = d.row.id) = d.accrual.toList := by
        refine filter_eq_self.mpr fun b hb => ?_
        rw [decide_eq_true_eq, hrow.id]
        exact hown b hb
      show (s.charges ++ d.accrual.toList).filter _ = _
      rw [filter_append, hold, hall, haccrual, nil_append]
  · rcases mem_append.mp hb with hb | hb
    · obtain ⟨p, hp, hid⟩ := h.charges b hb
      exact ⟨p, mem_append_left _ hp, hid⟩
    · refine ⟨d.row, mem_append_right _ (mem_singleton_self _), ?_⟩
      rw [hown b hb, hrow.id]

lemma updateRefund {j : ℕ} (hstep : s.updateRefund j = some s') :
    PayerOk cfg (es ++ [.updateRefund j]) s' := by
  obtain ⟨c, tb, -, -, ⟨p, r, -, -, rfl⟩ | ⟨-, r, rfl⟩⟩ := updateRefund_cases hstep
  · have hrest : PayerOk cfg (es ++ [.updateRefund j]) s := h.congr _ rfl rfl rfl
    have hsame : ∀ p : Payment ID, (if c.Matches p then c.apply p else p).id = p.id := by
      intro p
      split_ifs <;> rfl
    refine ⟨hrest.amounts, hrest.fares, fun p hp => ?_, fun b hb => ?_⟩
    · obtain ⟨p, hp', rfl⟩ := mem_map.mp hp
      obtain ⟨i, q, d, hrow, hamount, hbilled⟩ := hrest.rows p hp'
      rw [hsame]
      refine ⟨i, q, d, hrow.congr ?_, ?_, hbilled⟩
      · split_ifs <;> rfl
      · split_ifs <;> exact hamount
    · obtain ⟨p, hp, hid⟩ := h.charges b hb
      exact ⟨_, mem_map_of_mem hp, (hsame p).trans hid⟩
  · exact h.congr _ rfl rfl rfl

lemma step (hinj : Injective cfg.newID) (hcons : Consistent cfg s)
    (hrun : run (step cfg) .init es = some s) (hstep : step cfg s e = some s') :
    PayerOk cfg (es ++ [e]) s' := by
  cases e with
  | beginPayment key subject privileged body now =>
    cases hstep
    exact h.beginPayment _ key subject privileged body now
  | lock i =>
    obtain ⟨c, hc, -, -, rfl⟩ := lock_cases hstep
    exact h.setPayment hc rfl rfl rfl rfl trivial
  | resolve i => exact h.resolve hrun hstep
  | price i => exact h.price hrun hstep
  | insert i => exact h.insert hstep
  | post i r => exact h.post hstep
  | switch i answer => exact h.switch hstep
  | commit i => exact h.commit hinj hcons hstep
  | abort i =>
    obtain ⟨c, hc, -, rfl⟩ := abort_cases hstep
    exact h.setPayment hc rfl rfl rfl rfl trivial
  | updateRefund j => exact h.updateRefund hstep
  | beginRefund | postRefund | crashRefund | topUp | setEntitlements =>
    obtain ⟨hpay, hcharges, hrows⟩ := beside_frame hstep rfl
    exact h.congr _ hpay (hrows fun j hj => (nomatch hj)) hcharges

end PayerOk

omit h

/-! ## A call is resolved and priced once -/

lemma State.Reached.step (h : s.Reached i n) (hstep : step cfg s e = some s') : s'.Reached i n := by
  cases e with
  | beginPayment key subject privileged body now =>
    obtain rfl | ⟨c, -, -, -, -, rfl⟩ := beginPayment_cases hstep
    · exact h
    · obtain ⟨d, hd, hn⟩ := h
      exact ⟨d, getElem?_append_old hd, hn⟩
  | lock j =>
    obtain ⟨c, hc, hpc, -, rfl⟩ := lock_cases hstep
    exact h.setPayment hc rfl (by simp [hpc, PayPc.stage])
  | resolve j =>
    obtain ⟨c, hc, hpc, rfl⟩ := resolve_cases hstep
    exact h.setPayment hc rfl (by simp [hpc, PayPc.stage])
  | price j =>
    obtain ⟨c, q, charge, hc, hpc, -, rfl⟩ := price_cases hstep
    exact h.setPayment hc rfl (by simp [hpc, PayPc.stage])
  | insert j =>
    obtain ⟨c, q, hc, hpc, ⟨r, rfl⟩ | ⟨-, -, ⟨-, rfl⟩ | ⟨-, rfl⟩⟩⟩ := insert_cases hstep
    · exact h.setPayment hc rfl c.pc.stage_le
    · exact h.setPayment hc rfl (by simp [hpc, PayPc.stage])
    · exact h.setPayment hc rfl (by simp [hpc, PayPc.stage])
  | post j r =>
    obtain ⟨c, d, b, res, hc, hpc, -, rfl⟩ := post_cases hstep
    exact h.setPayment hc rfl (by simp [hpc, PayPc.stage])
  | switch j answer =>
    obtain ⟨c, d, hc, hpc, -, rfl⟩ := switch_cases hstep
    exact h.setPayment hc rfl (by simp [hpc, PayPc.stage])
  | commit j =>
    obtain ⟨c, d, hc, -, -, rfl⟩ := commit_cases hstep
    exact h.setPayment hc rfl c.pc.stage_le
  | abort j =>
    obtain ⟨c, hc, -, rfl⟩ := abort_cases hstep
    exact h.setPayment hc rfl c.pc.stage_le
  | beginRefund | postRefund | updateRefund | crashRefund | topUp | setEntitlements =>
    exact h.congr (beside_frame hstep rfl).1

/-- A step that takes call `i` to a stage it cannot be taken from is taken once. -/
lemma Took.call_unique (i n : ℕ) (hdone : ∀ t t' : State ID, step cfg t e = some t' →
    t'.Reached i n) (honce : ∀ t t' : State ID, t.Reached i n → step cfg t e ≠ some t') {α : Type}
    {f : State ID → α} {x y : α} (hrun : run (step cfg) .init es = some s)
    (hx : Took (step cfg) .init es fun t d => d = e ∧ f t = x)
    (hy : Took (step cfg) .init es fun t d => d = e ∧ f t = y) : x = y := by
  obtain ⟨t, d, ⟨-, htx⟩, -, hty⟩ :=
    Took.unique (R := fun _ d => d = e)
      (fun t d t' hd ht => hdone t t' (hd ▸ ht)) (fun t d t' h ht => h.step ht)
      (fun t d t' h hd => hd ▸ honce t t' h) hrun hx (fun t d h => h.1) hy (fun t d h => h.1)
  exact htx.symm.trans hty

lemma Resolved.unique {q' : Quote} (hrun : run (step cfg) .init es = some s)
    (h : Resolved cfg es i rider now amount q) (h' : Resolved cfg es i rider now amount q') :
    q = q' := by
  refine Took.call_unique i 2 (fun t t' ht => ?_) (fun t t' hreached ht => ?_) hrun h h'
  · obtain ⟨c, hc, -, rfl⟩ := resolve_cases ht
    exact ⟨_, getElem?_set_self (List.getElem?_eq_some_iff.mp hc).1, le_rfl⟩
  · obtain ⟨c, hc, hpc, -⟩ := resolve_cases ht
    obtain ⟨d, hd, hn⟩ := hreached
    cases hc.symm.trans hd
    simp [hpc, PayPc.stage] at hn

lemma resolved_charge (h : Resolved cfg es i rider now amount q) (hpos : 0 < amount) :
    -2 ^ 63 ≤ q.charge ∧ q.charge ≤ amount := by
  obtain ⟨_, _, _, t, -, -, -, rfl⟩ := h
  exact resolveEntitlement_charge hpos t.entitlements rider now

lemma Priced.unique {now spent spent' : ℤ} (hrun : run (step cfg) .init es = some s)
    (h : Priced cfg es i rider now spent) (h' : Priced cfg es i rider now spent') :
    spent = spent' := by
  refine Took.call_unique i 3 (fun t t' ht => ?_) (fun t t' hreached ht => ?_) hrun h h'
  · obtain ⟨c, q, charge, hc, -, -, rfl⟩ := price_cases ht
    exact ⟨_, getElem?_set_self (List.getElem?_eq_some_iff.mp hc).1, le_rfl⟩
  · obtain ⟨c, q, charge, hc, hpc, -⟩ := price_cases ht
    obtain ⟨d, hd, hn⟩ := hreached
    cases hc.symm.trans hd
    simp [hpc, PayPc.stage] at hn

end Steps

/-! ## Runs -/

section Runs

def ResolvedTo (p : Payment ID) (q : Quote) : Prop :=
  ∃ i, p.id = cfg.newID i ∧ Resolved cfg es i p.riderSub p.createdAt p.amountMinor q

/-- The rider had spent so much on the day when the call was priced. -/
def SpentBefore (p : Payment ID) (spent : ℤ) : Prop :=
  ∃ i, p.id = cfg.newID i ∧ Priced cfg es i p.riderSub p.createdAt spent

variable {cfg : Config ID} {es : List Event} {s : State ID}

/-- **The payer is billed for the difference.**  The call of each payment was resolved and priced
once.  Without a payer nothing is billed; with one, a settled payment is billed to the payer alone,
with the difference between the amount and the fare. -/
theorem payer_billed_for_difference (hinj : Injective cfg.newID)
    (hrun : run (step cfg) .init es = some s) :
    (∀ b ∈ s.charges, ∃ p ∈ s.rows, p.id = b.paymentID) ∧
    ∀ p ∈ s.rows, (∃ q, ResolvedTo cfg es p q) ∧ (∃ spent, SpentBefore cfg es p spent) ∧
      ∀ q spent, ResolvedTo cfg es p q → SpentBefore cfg es p spent →
        p.chargedMinor = some (cfg.capped spent q.charge) ∧
        (q.payerAccount = none → s.chargesOf p.id = []) ∧
        ∀ payer, q.payerAccount = some payer → p.status.charged = true →
          (∀ b ∈ s.chargesOf p.id, b.billingAccountID = payer) ∧
          s.billed p.id =
            if InInt64 (p.amountMinor - cfg.capped spent q.charge) then
              p.amountMinor - cfg.capped spent q.charge else 0 := by
  obtain ⟨-, h⟩ : Consistent cfg s ∧ PayerOk cfg es s := run_history ⟨.init, .init⟩
    (fun es t e t' hrun (h : Consistent cfg t ∧ PayerOk cfg es t) ht =>
      ⟨h.1.step hinj ht, h.2.step hinj h.1 hrun ht⟩) hrun
  refine ⟨h.charges, fun p hp => ?_⟩
  obtain ⟨i, q, c, hrow, hamount, hbilled⟩ := h.rows p hp
  obtain ⟨q₀, spent₀, hresolved, hpriced, rfl⟩ := hrow.quoted
  refine ⟨⟨q₀, i, hrow.id, hresolved⟩, ⟨spent₀, i, hrow.id, hpriced⟩, ?_⟩
  rintro q spent ⟨j, hj, hq⟩ ⟨k, hk, hspent⟩
  obtain rfl := hinj (hrow.id.symm.trans hj)
  obtain rfl := hinj (hrow.id.symm.trans hk)
  obtain rfl := hresolved.unique hrun hq
  obtain rfl := hpriced.unique hrun hspent
  have hfare := resolved_charge hq hrow.positive
  rw [billed, hbilled]
  refine ⟨hrow.charged, fun hnone => ?_, fun payer hpayer _ => ⟨fun b hb => ?_, ?_⟩⟩
  · simp [accrual, hnone]
  · have hb' := (accrual_paymentID (mem_toList.mp hb)).2
    exact some.inj (hb'.symm.trans hpayer)
  · rw [hamount] at hfare ⊢
    refine accrual_total hpayer (hamount ▸ hrow.range) ?_
    simp only [Config.capped]
    split_ifs with hcap
    · have hnonneg : 0 ≤ applyCap cfg.cap spent₀ q₀.charge := applyCap_nonneg hcap.2.le
      exact ⟨by omega, (applyCap_le_charge hcap.2.le).trans hfare.2⟩
    · exact hfare

end Runs

/-! ## Two rides at half the fare -/

/-- An employer pays half of the fare. -/
def halfFare : Entitlement :=
  ⟨"ent-1", "rider-1", .discount, some ⟨50, by decide⟩, "HALF", some "acme", 1699000000000000,
    1702592030000000, true⟩

/-- A ride of 14.00, and one of 6.00 of which the cap leaves 1.00. -/
def firstHalf : List Event :=
  [topUpFirst 2000, .setEntitlements [halfFare]] ++
    payment 0 "tap-1" 1400 1700000000000000 false (answered .created) ++ [.commit 0] ++
    [.beginPayment "tap-2" "rider-1" false (some ⟨600, "", "", false⟩) 1700000060000000, .lock 1]

def halfFareRides : List Event :=
  firstHalf ++ [.resolve 1, .price 1, .insert 1, .post 1 (answered .created), .commit 1]

lemma halfFareRides_second :
    ∃ s p, run (step defaultConfig) init halfFareRides = some s ∧ p ∈ s.rows ∧
      p.status = .settled ∧ p.amountMinor = 600 ∧ s.billed p.id = 500 ∧
      ResolvedTo defaultConfig halfFareRides p ⟨300, "HALF", "ent-1", some "acme"⟩ ∧
      SpentBefore defaultConfig halfFareRides p 700 := by
  obtain ⟨s, hrun, p, hp, hstatus, hamount, hbilled, hid, hrider, hcreated⟩ :
      ∃ s, run (step defaultConfig) init halfFareRides = some s ∧ ∃ p ∈ s.rows,
        p.status = .settled ∧ p.amountMinor = 600 ∧ s.billed p.id = 500 ∧ p.id = secondPayment ∧
        p.riderSub = "rider-1" ∧ p.createdAt = 1700000060000000 := by
    decide +kernel
  obtain ⟨t, ht, hq⟩ : ∃ t, run (step defaultConfig) init firstHalf = some t ∧
      resolveEntitlement t.entitlements "rider-1" 1700000060000000 600 =
        ⟨300, "HALF", "ent-1", some "acme"⟩ := by
    decide +kernel
  obtain ⟨u, hu, hspent⟩ :
      ∃ u, run (step defaultConfig) init (firstHalf ++ [.resolve 1]) = some u ∧
        spentToday u.rows "rider-1" (defaultConfig.day 1700000060000000) = 700 := by
    decide +kernel
  have hcall : p.id = defaultConfig.newID 1 := by
    rw [hid]
    decide +kernel
  refine ⟨s, p, hrun, hp, hstatus, hamount, hbilled, ⟨1, hcall, ?_⟩, 1, hcall, ?_⟩
  · rw [hamount, hrider, hcreated]
    exact ⟨firstHalf, .resolve 1, _, t, rfl, ht, rfl, hq⟩
  · rw [hrider, hcreated]
    exact ⟨firstHalf ++ [.resolve 1], .price 1, _, u, rfl, hu, rfl, hspent⟩

theorem payer_billed_for_difference_halfFare :
    ∃ s p, run (step defaultConfig) init halfFareRides = some s ∧ p ∈ s.rows ∧
      p.status = .settled ∧ p.amountMinor = 600 ∧
      p.chargedMinor = some (defaultConfig.capped 700 300) ∧
      (∀ b ∈ s.chargesOf p.id, b.billingAccountID = "acme") ∧
      s.billed p.id = 600 - defaultConfig.capped 700 300 := by
  obtain ⟨s, p, hrun, hp, hstatus, hamount, -, hq, hspent⟩ := halfFareRides_second
  obtain ⟨hcharged, -, hpayer⟩ :=
    ((payer_billed_for_difference defaultConfig_newID_injective hrun).2 p hp).2.2 _ _ hq hspent
  obtain ⟨haccount, hbilled⟩ := hpayer "acme" rfl (by rw [hstatus]; rfl)
  rw [hamount, if_pos (by decide +kernel)] at hbilled
  exact ⟨s, p, hrun, hp, hstatus, hamount, hcharged, haccount, hbilled⟩

/-- **The payer is billed for the cap as well**: of 6.00 the entitlement leaves 3.00 and the cap
1.00. -/
theorem capped_ride_billed_to_payer :
    ∃ s p, run (step defaultConfig) init halfFareRides = some s ∧ p ∈ s.rows ∧
      p.status = .settled ∧ p.amountMinor = 600 ∧
      ResolvedTo defaultConfig halfFareRides p ⟨300, "HALF", "ent-1", some "acme"⟩ ∧
      s.billed p.id = 500 ∧ s.billed p.id ≠ p.amountMinor - 300 := by
  obtain ⟨s, p, hrun, hp, hstatus, hamount, hbilled, hq, -⟩ := halfFareRides_second
  refine ⟨s, p, hrun, hp, hstatus, hamount, hq, hbilled, ?_⟩
  rw [hbilled, hamount]
  decide

end H2Fleet.Commerce
