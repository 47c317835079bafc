import Mathlib.Algebra.Order.BigOperators.Group.List
import H2Fleet.Commerce.Charges

/-!
# The daily fare cap

What a rider pays on one civic day, net of refunds, against the cap.  The handler counts payments in
status `settled` only, so that a payment of which a part was refunded drops out of the count with
all of its charge.
-/

namespace H2Fleet.Commerce

open List Function State

variable {ID : Type}

/-- What the rider has paid on a civic day and not got back. -/
def State.dayTotal (cfg : Config ID) (s : State ID) (rider : String) (day : ℤ) : ℤ :=
  (s.rows.map fun p => if p.riderSub = rider ∧ cfg.day p.createdAt = day then p.net else 0).sum

/-- The fare of a call that is capped and not committed yet. -/
def PayPc.pending : PayPc ID → Option ℤ
  | .priced q => some q.charge
  | .inserted d | .posted d | .switched d => some d.row.effectiveCharged
  | _ => none

/-- The call has a fare left to cap. -/
def PayPc.owes : PayPc ID → Bool
  | .resolved q => decide (0 < q.charge)
  | _ => false

/-- No payment that the query for today's spend counts is partly refunded. -/
def FullyCounted (cfg : Config ID) (s : State ID) : Event → Prop
  | .price i => ∀ c ∈ s.payments[i]?, c.pc.owes = true →
      ∀ p ∈ s.rows, p.riderSub = c.rider → cfg.day c.now ≤ p.createdAt →
      p.status ≠ .partiallyRefunded
  | _ => True

instance (cfg : Config ID) (s : State ID) (e : Event) : Decidable (FullyCounted cfg s e) := by
  unfold FullyCounted; split <;> infer_instance

def CapCareful (cfg : Config ID) (s : State ID) (e : Event) : Prop :=
  FareCareful s e ∧ FullyCounted cfg s e
  deriving Decidable

/-! ## The invariant -/

structure CapInv (cfg : Config ID) (s : State ID) : Prop where
  orderly : Orderly cfg s
  pending : ∀ c ∈ s.payments, ∀ x, c.pc.pending = some x →
    s.dayTotal cfg c.rider (cfg.day c.now) + x ≤ cfg.cap
  total : ∀ rider day, s.dayTotal cfg rider day ≤ cfg.cap

variable {cfg : Config ID} {s s' : State ID}

lemma CapInv.init : CapInv cfg (init : State ID) where
  orderly := .init
  pending _ hc := nomatch hc
  total _ _ := (dailyCapMinor_inInt64 _).1

lemma dayTotal_congr (h : s'.rows = s.rows) (rider : String) (day : ℤ) :
    s'.dayTotal cfg rider day = s.dayTotal cfg rider day := by
  rw [dayTotal, h, dayTotal]

lemma CapInv.congr (h : CapInv cfg s) (hord : Orderly cfg s') (hpay : s'.payments = s.payments)
    (hrows : s'.rows = s.rows) : CapInv cfg s' where
  orderly := hord
  pending c hc x hx := by
    rw [dayTotal_congr hrows]
    exact h.pending c (hpay ▸ hc) x hx
  total rider day := (dayTotal_congr hrows rider day).trans_le (h.total rider day)

variable {i : ℕ}

lemma CapInv.setPayment (h : CapInv cfg s) {c' : PayCall ID} (hord : Orderly cfg s')
    (hpay : s'.payments = s.payments.set i c') (hrows : s'.rows = s.rows)
    (hpend : ∀ x, c'.pc.pending = some x →
      s.dayTotal cfg c'.rider (cfg.day c'.now) + x ≤ cfg.cap) : CapInv cfg s' where
  orderly := hord
  pending := by
    simp only [hpay, dayTotal_congr hrows]
    exact forall_mem_set h.pending hpend
  total rider day := (dayTotal_congr hrows rider day).trans_le (h.total rider day)

/-! ## Pricing -/

/-- Of a payment not partly refunded the query counts what the rider still pays. -/
lemma Payment.Ok.net_le {p : Payment ID} (hok : p.Ok) (hfull : p.status ≠ .partiallyRefunded) :
    p.net ≤ if p.status = .settled then p.effectiveCharged else 0 := by
  rw [Payment.net]
  by_cases hs : p.status = .settled
  · rw [if_pos hs, hok.settled hs, sub_zero]
    simp [hs, Status.charged]
  · rw [if_neg hs]
    by_cases hr : p.status = .refunded
    · have hle := hok.refunded hr
      simpa [hr, Status.charged] using hle
    · have hno : p.status.charged = false := by
        cases hst : p.status <;> simp_all [Status.charged]
      simp [hno]

/-- **The query counts all of the day** if no payment of it is partly refunded. -/
lemma dayTotal_le_spent (h : CapInv cfg s) (hday : ∀ t, cfg.day t ≤ t) {c : PayCall ID}
    (hfull : ∀ p ∈ s.rows, p.riderSub = c.rider → cfg.day c.now ≤ p.createdAt →
      p.status ≠ .partiallyRefunded) : s.dayTotal cfg c.rider (cfg.day c.now) ≤ s.spent cfg c := by
  rw [spent, spentToday, sum_filter]
  refine sum_le_sum fun p hp => ?_
  by_cases hmine : p.riderSub = c.rider ∧ cfg.day p.createdAt = cfg.day c.now
  · have hat : cfg.day c.now ≤ p.createdAt := hmine.2 ▸ hday p.createdAt
    have hnet := (h.orderly.consistent.rows p hp).net_le (hfull p hp hmine.1 hat)
    simpa [hmine, hat] using hnet
  · rw [if_neg hmine]
    split_ifs
    · exact h.orderly.fares.rows p hp
    · exact le_rfl

lemma spent_nonneg (h : CapInv cfg s) (c : PayCall ID) : 0 ≤ s.spent cfg c := by
  rw [spent, spentToday]
  refine sum_nonneg fun x hx => ?_
  obtain ⟨p, hp, rfl⟩ := mem_map.mp hx
  exact h.orderly.fares.rows p (mem_of_mem_filter hp)

lemma CapInv.price (h : CapInv cfg s) (hday : ∀ t, cfg.day t ≤ t) (hcap : 0 < cfg.cap)
    (hord : Orderly cfg s') (hok : FullyCounted cfg s (.price i))
    (hstep : s.price cfg i = some s') : CapInv cfg s' := by
  obtain ⟨c, q, charge, hc, hpc, hcharge, rfl⟩ := price_cases hstep
  refine h.setPayment hord rfl rfl fun x hx => ?_
  cases hx
  show s.dayTotal cfg c.rider (cfg.day c.now) + charge ≤ cfg.cap
  have htotal := h.total c.rider (cfg.day c.now)
  rcases hcharge with ⟨-, hrange, hpos, rfl⟩ | ⟨rfl, hfree⟩
  · have howes : c.pc.owes = true := by rw [hpc]; exact decide_eq_true hpos
    have hspent := dayTotal_le_spent h hday (hok c hc howes)
    rcases applyCap_le q.charge (dailyCapMinor_inInt64 _) ⟨spent_nonneg h c,
      hrange.2⟩ with hle | hzero
    · exact (add_le_add_left hspent _).trans hle
    · rw [Config.cap, hzero, add_zero]
      exact htotal
  · have hzero : q.charge = 0 :=
      le_antisymm (hfree hcap) (h.orderly.fares.fare hc (by rw [hpc]; rfl))
    rw [hzero, add_zero]
    exact htotal

/-! ## The other steps -/

variable {pc : PayPc ID}

lemma PayPc.holdsLock_of_pending {x : ℤ} (h : pc.pending = some x) : pc.holdsLock = true := by
  cases pc <;> first | rfl | cases h

lemma PayPc.fare_of_pending {x : ℤ} (h : pc.pending = some x) : pc.fare = some x := by
  cases pc <;> first | exact h | cases h

lemma PayPc.pending_of_fare {x : ℤ} (h : pc.fare = some x) (hne : ∀ q, pc ≠ .resolved q) :
    pc.pending = some x := by
  cases pc <;> first | exact h | exact absurd rfl (hne _)

lemma dayTotal_addRow {row : Payment ID} (h : s'.rows = s.rows ++ [row]) (rider : String)
    (day : ℤ) : s'.dayTotal cfg rider day = s.dayTotal cfg rider day +
      if row.riderSub = rider ∧ cfg.day row.createdAt = day then row.net else 0 := by
  rw [dayTotal, h, map_append, sum_append, map_singleton, sum_singleton, dayTotal]

/-- **A commit** turns the fare held back for the day into a part of its total. -/
lemma CapInv.commit (h : CapInv cfg s) (hord : Orderly cfg s') (hstep : s.commit i = some s') :
    CapInv cfg s' := by
  obtain ⟨c, d, hc, hd, -, rfl⟩ := commit_cases hstep
  have hof := h.orderly.consistent.drafts i c d hc hd
  have hpending : c.pc.pending = some d.row.effectiveCharged := by
    cases hpc : c.pc <;> simp_all [PayPc.draft, PayPc.pending]
  have hle := h.pending c (mem_of_getElem? hc) _ hpending
  have hrows : (s.finish i c d).rows = s.rows ++ [d.row] := rfl
  have hnet : d.row.net ≤ d.row.effectiveCharged := by
    rw [Payment.net, hof.refundedMinor, sub_zero]
    split_ifs
    · exact le_rfl
    · exact hord.fares.rows d.row (hrows ▸ mem_append_right _ (mem_singleton_self _))
  refine ⟨hord, fun a ha x hx => ?_, fun rider day => ?_⟩
  · obtain ⟨j, hj⟩ := mem_iff_getElem?.mp ha
    rcases getElem?_set_cases hj with ⟨-, rfl⟩ | ⟨hji, hj⟩
    · cases hx
    -- another call with a fare in flight holds another rider's lock
    have hother := h.orderly.consistent.locks j i a c hj hc hji (PayPc.holdsLock_of_pending hx)
      (PayPc.holdsLock_of_pending hpending)
    have hrider : ¬ (d.row.riderSub = a.rider ∧ cfg.day d.row.createdAt = cfg.day a.now) := by
      rintro ⟨hsub, -⟩
      rw [hof.riderSub] at hsub
      exact hother (congrArg cfg.hashtext hsub.symm)
    rw [dayTotal_addRow hrows, if_neg hrider, add_zero]
    exact h.pending a (mem_of_getElem? hj) x hx
  · rw [dayTotal_addRow hrows]
    split_ifs with hmine
    · obtain ⟨rfl, rfl⟩ := hmine
      rw [hof.riderSub, hof.createdAt]
      exact (add_le_add_right hnet _).trans hle
    · rw [add_zero]
      exact h.total rider day

lemma RefundCall.apply_net_le {c : RefundCall ID} {p : Payment ID} (hnonneg : 0 ≤ c.amount)
    (hm : c.Matches p) : (c.apply p).net ≤ p.net := by
  have hrefunded : (c.apply p).refundedMinor = p.refundedMinor + c.amount := by
    rw [hm.2.2]
    rfl
  have heff : (c.apply p).effectiveCharged = p.effectiveCharged := rfl
  rw [Payment.net, Payment.net, if_pos (charged_of_refundable hm.2.1), if_pos (c.apply_charged p),
    hrefunded, heff]
  omega

lemma CapInv.updateRefund (h : CapInv cfg s) (hord : Orderly cfg s') {j : ℕ}
    (hstep : s.updateRefund j = some s') : CapInv cfg s' := by
  obtain ⟨c, tb, hc, -, hcases⟩ := updateRefund_cases hstep
  have hok := h.orderly.consistent.refunds c (mem_of_getElem? hc)
  rcases hcases with ⟨p, r, -, -, rfl⟩ | ⟨-, r, rfl⟩
  · have hless : ∀ rider day,
        ({ s with rows := s.rows.map fun p => if c.Matches p then c.apply p else p }.setRefund
          j { c with pc := .done r }).dayTotal cfg rider day ≤ s.dayTotal cfg rider day := by
      intro rider day
      simp only [dayTotal, setRefund, map_map]
      refine sum_le_sum fun p hp => ?_
      by_cases hm : c.Matches p
      · simp only [comp_apply, if_pos hm]
        have hsame : (c.apply p).riderSub = p.riderSub ∧ (c.apply p).createdAt = p.createdAt :=
          ⟨rfl, rfl⟩
        rw [hsame.1, hsame.2]
        split_ifs
        · exact RefundCall.apply_net_le hok.nonneg hm
        · exact le_rfl
      · simp only [comp_apply, if_neg hm]
        exact le_rfl
    refine ⟨hord, fun a ha x hx => ?_, fun rider day => ?_⟩
    · exact (add_le_add_left (hless _ _) x).trans (h.pending a ha x hx)
    · exact (hless rider day).trans (h.total rider day)
  · exact h.congr hord rfl rfl

lemma CapInv.beginPayment (h : CapInv cfg s) (hord : Orderly cfg s') {c : PayCall ID}
    (hpc : c.pc = .begun) (heq : s' = { s with payments := s.payments ++ [c] }) :
    CapInv cfg s' := by
  subst heq
  refine ⟨hord, fun a ha x hx => ?_, h.total⟩
  rcases mem_append.mp ha with ha | ha
  · exact h.pending a ha x hx
  · rw [mem_singleton.mp ha, hpc] at hx
    cases hx

variable [DecidableEq ID]

lemma CapInv.step (hinj : Injective cfg.newID) (hday : ∀ t, cfg.day t ≤ t) (hcap : 0 < cfg.cap)
    (h : CapInv cfg s) {e : Event} (hok : CapCareful cfg s e) (hstep : step cfg s e = some s') :
    CapInv cfg s' := by
  have hord := h.orderly.step hinj hok.1 hstep
  cases e with
  | beginPayment key subject privileged body now =>
    obtain rfl | ⟨c, hpc, -, -, -, rfl⟩ := beginPayment_cases hstep
    · exact h
    · exact h.beginPayment hord hpc rfl
  | resolve i =>
    obtain ⟨c, hc, -, rfl⟩ := resolve_cases hstep
    exact h.setPayment hord rfl rfl nofun
  | price i => exact h.price hday hcap hord hok.2 hstep
  | commit i => exact h.commit hord hstep
  | lock | insert | post | switch | abort =>
    obtain ⟨i, c, c', hc, hpay, hrows, hrider, hnow, hfare⟩ := keepsFare_cases hstep rfl
    refine h.setPayment hord hpay hrows fun x hx => ?_
    obtain ⟨hx, hne⟩ := hfare x (PayPc.fare_of_pending hx)
    rw [hrider, hnow]
    exact h.pending c (mem_of_getElem? hc) x (PayPc.pending_of_fare hx hne)
  | updateRefund j => exact h.updateRefund hord hstep
  | beginRefund | postRefund | crashRefund | topUp | setEntitlements =>
    obtain ⟨hpay, -, hrows⟩ := beside_frame hstep rfl
    exact h.congr hord hpay (hrows fun j hj => (nomatch hj))

/-- **No rider pays more than the cap in a civic day**, in every run in which no fare is capped
while a payment of the day is partly refunded, and no fare is negative. -/
theorem dayTotal_le_cap (hinj : Injective cfg.newID) (hday : ∀ t, cfg.day t ≤ t)
    (hcap : 0 < cfg.cap) {es : List Event} {s : State ID}
    (hok : Meets (step cfg) (CapCareful cfg) init es)
    (hrun : run (step cfg) init es = some s) (rider : String) (day : ℤ) :
    s.dayTotal cfg rider day ≤ cfg.cap := by
  have h : CapInv cfg s :=
    run_invariant (fun _ _ _ h hc hs => h.step hinj hday hcap hc hs) .init hok hrun
  exact h.total rider day

/-! ## A rider at the cap -/

/-- 2023-11-14 22:13:20 UTC in microseconds, and the start of that day. -/
def tapTime : ℤ := 1700000000000000

def tapDay : ℤ := 1699920000000000

/-- The rider pays the whole cap, gets it all back and pays it again. -/
def refundedRun : List Event :=
  [topUpFirst 2000] ++ payment 0 "tap-1" 800 tapTime false (answered .created) ++
    [.commit 0, .beginRefund firstPayment none, .postRefund 0 (answered .created),
    .updateRefund 0] ++ payment 1 "tap-2" 900 tapTime false (answered .created) ++ [.commit 1]

theorem dayTotal_le_cap_refunded : ∃ s, run (step defaultConfig) init refundedRun = some s ∧
      s.dayTotal defaultConfig "rider-1" tapDay = 800 ∧
      s.dayTotal defaultConfig "rider-1" tapDay ≤ defaultConfig.cap := by
  obtain ⟨s, hrun, htotal⟩ : ∃ s, run (step defaultConfig) init refundedRun = some s ∧
      s.dayTotal defaultConfig "rider-1" tapDay = 800 := by
    decide +kernel
  exact ⟨s, hrun, htotal, dayTotal_le_cap defaultConfig_newID_injective defaultConfig_day_le
    (by decide +kernel) (by decide +kernel) hrun "rider-1" tapDay⟩

/-- The same with a refund of one cent in between. -/
def partlyRefundedRun : List Event :=
  [topUpFirst 2000] ++ payment 0 "tap-1" 800 tapTime false (answered .created) ++
    [.commit 0, .beginRefund firstPayment (some 1), .postRefund 0 (answered .created),
      .updateRefund 0] ++
    payment 1 "tap-2" 800 tapTime false (answered .created) ++ [.commit 1]

/-- **A refund of one cent reopens the cap.**  The rider pays 15.99 in a day capped at 8.00. -/
theorem partial_refund_reopens_cap : defaultConfig.cap = 800 ∧
      ∃ s, run (step defaultConfig) init partlyRefundedRun = some s ∧
        s.rows.map Payment.status = [.partiallyRefunded, .settled] ∧
        s.dayTotal defaultConfig "rider-1" tapDay = 1599 := by
  decide +kernel

end H2Fleet.Commerce
