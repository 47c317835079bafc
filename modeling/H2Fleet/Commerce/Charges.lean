import H2Fleet.Commerce.Consistency

/-!
# No negative charge

`resolveEntitlement` multiplies the amount by `100 - pct` in an `int64`, which overflows for amounts
close to the limit of the type: the fare can come out negative, is not capped, settles without the
ledger and stays in its row.  Every result about what riders pay sets such fares aside.
-/

namespace H2Fleet.Commerce

variable {ID : Type}

/-- The fare of a call, from the entitlements to the commit. -/
def PayPc.fare : PayPc ID → Option ℤ
  | .resolved q | .priced q => some q.charge
  | .inserted d | .posted d | .switched d => some d.row.effectiveCharged
  | _ => none

def FareCareful (s : State ID) : Event → Prop
  | .resolve i => ∀ c ∈ s.payments[i]?,
      0 ≤ (resolveEntitlement s.entitlements c.rider c.now c.amount).charge
  | _ => True

instance (s : State ID) (e : Event) : Decidable (FareCareful s e) := by
  unfold FareCareful; split <;> infer_instance

structure FaresNonneg (s : State ID) : Prop where
  calls : ∀ c ∈ s.payments, ∀ x, c.pc.fare = some x → 0 ≤ x
  rows : ∀ p ∈ s.rows, 0 ≤ p.effectiveCharged

variable {cfg : Config ID} {s s' : State ID}

lemma FaresNonneg.init : FaresNonneg (State.init : State ID) where
  calls _ hc := nomatch hc
  rows _ hp := nomatch hp

lemma FaresNonneg.congr (h : FaresNonneg s) (hpay : s'.payments = s.payments)
    (hrows : s'.rows = s.rows) : FaresNonneg s' where
  calls := hpay ▸ h.calls
  rows := hrows ▸ h.rows

variable {i : ℕ} {c : PayCall ID}

lemma FaresNonneg.fare (h : FaresNonneg s) (hc : s.payments[i]? = some c) {x : ℤ}
    (hx : c.pc.fare = some x) : 0 ≤ x :=
  h.calls c (List.mem_of_getElem? hc) x hx

lemma FaresNonneg.setPayment (h : FaresNonneg s) (hpay : s'.payments = s.payments.set i c)
    (hrows : s'.rows = s.rows) (hfare : ∀ x, c.pc.fare = some x → 0 ≤ x) : FaresNonneg s' where
  calls := hpay ▸ forall_mem_set h.calls hfare
  rows := hrows ▸ h.rows

lemma Draft.ledgerResult_charged (d : Draft ID) (res : Except Ledger.LedgerError ID) :
    (d.ledgerResult res).row.effectiveCharged = d.row.effectiveCharged := by
  cases res <;> rfl

lemma Draft.switchResult_charged (d : Draft ID) (answer : Except SwitchError String) :
    (d.switchResult answer).row.effectiveCharged = d.row.effectiveCharged := by
  cases answer <;> rfl

lemma FaresNonneg.price (h : FaresNonneg s) (hstep : s.price cfg i = some s') : FaresNonneg s' := by
  obtain ⟨c, q, charge, hc, hpc, hcharge, rfl⟩ := price_cases hstep
  refine h.setPayment rfl rfl fun x hx => ?_
  cases hx
  have hq : 0 ≤ q.charge := h.fare hc (by rw [hpc]; rfl)
  rcases hcharge with ⟨-, -, -, rfl⟩ | ⟨rfl, -⟩
  · exact applyCap_nonneg hq
  · exact hq

lemma FaresNonneg.commit (h : FaresNonneg s) (hstep : s.commit i = some s') : FaresNonneg s' := by
  obtain ⟨c, d, hc, -, hpc, rfl⟩ := commit_cases hstep
  have hd : 0 ≤ d.row.effectiveCharged := by
    rcases hpc with hpc | hpc
    · exact h.fare hc (by rw [hpc]; rfl)
    · exact h.fare hc (by rw [hpc]; rfl)
  exact ⟨forall_mem_set h.calls nofun, forall_mem_concat h.rows hd⟩

lemma FaresNonneg.updateRefund (h : FaresNonneg s) {j : ℕ}
    (hstep : s.updateRefund j = some s') : FaresNonneg s' := by
  obtain ⟨c, tb, -, -, ⟨p, r, -, -, rfl⟩ | ⟨-, r, rfl⟩⟩ := updateRefund_cases hstep
  · refine ⟨h.calls, fun p hp => ?_⟩
    obtain ⟨q, hq, rfl⟩ := List.mem_map.mp hp
    have hcharged : (if c.Matches q then c.apply q else q).effectiveCharged =
        q.effectiveCharged := by
      split_ifs <;> rfl
    rw [hcharged]
    exact h.rows q hq
  · exact h.congr rfl rfl

variable [DecidableEq ID]

/-- The steps of a call that keep the fare it has, or end it. -/
def Event.keepsFare : Event → Bool
  | .lock _ | .insert _ | .post .. | .switch .. | .abort _ => true
  | _ => false

lemma keepsFare_cases {e : Event} (hstep : step cfg s e = some s') (he : e.keepsFare = true) :
    ∃ i c c', s.payments[i]? = some c ∧ s'.payments = s.payments.set i c' ∧ s'.rows = s.rows ∧
      c'.rider = c.rider ∧ c'.now = c.now ∧
      ∀ x, c'.pc.fare = some x → c.pc.fare = some x ∧ ∀ q, c.pc ≠ .resolved q := by
  cases e with
  | lock i =>
    obtain ⟨c, hc, -, -, rfl⟩ := lock_cases hstep
    exact ⟨i, c, _, hc, rfl, rfl, rfl, rfl, nofun⟩
  | insert i =>
    obtain ⟨c, q, hc, hpc, ⟨r, rfl⟩ | ⟨-, -, ⟨-, rfl⟩ | ⟨-, rfl⟩⟩⟩ := insert_cases hstep
    · exact ⟨i, c, _, hc, rfl, rfl, rfl, rfl, nofun⟩
    all_goals exact ⟨i, c, _, hc, rfl, rfl, rfl, rfl, fun x hx => by rw [hpc]; exact ⟨hx, nofun⟩⟩
  | post i r =>
    obtain ⟨c, d, b, res, hc, hpc, -, rfl⟩ := post_cases hstep
    refine ⟨i, c, _, hc, rfl, rfl, rfl, rfl, fun x hx => ?_⟩
    rw [hpc]
    exact ⟨(congrArg some (d.ledgerResult_charged res)).symm.trans hx, nofun⟩
  | switch i answer =>
    obtain ⟨c, d, hc, hpc, -, rfl⟩ := switch_cases hstep
    refine ⟨i, c, _, hc, rfl, rfl, rfl, rfl, fun x hx => ?_⟩
    rw [hpc]
    exact ⟨(congrArg some (d.switchResult_charged answer)).symm.trans hx, nofun⟩
  | abort i =>
    obtain ⟨c, hc, -, rfl⟩ := abort_cases hstep
    exact ⟨i, c, _, hc, rfl, rfl, rfl, rfl, nofun⟩
  | beginPayment | resolve | price | commit | beginRefund | postRefund | updateRefund | crashRefund
  | topUp | setEntitlements => cases he

/-- **No fare turns negative on the way to its row.** -/
lemma FaresNonneg.step (h : FaresNonneg s) {e : Event} (hok : FareCareful s e)
    (hstep : step cfg s e = some s') : FaresNonneg s' := by
  cases e with
  | beginPayment key subject privileged body now =>
    obtain rfl | ⟨c, hpc, -, -, -, rfl⟩ := beginPayment_cases hstep
    · exact h
    · refine ⟨forall_mem_concat h.calls fun x hx => ?_, h.rows⟩
      rw [hpc] at hx
      cases hx
  | resolve i =>
    obtain ⟨c, hc, -, rfl⟩ := resolve_cases hstep
    refine h.setPayment rfl rfl fun x hx => ?_
    exact Option.some.inj hx ▸ hok c hc
  | price i => exact h.price hstep
  | commit i => exact h.commit hstep
  | lock | insert | post | switch | abort =>
    obtain ⟨i, c, c', hc, hpay, hrows, -, -, hfare⟩ := keepsFare_cases hstep rfl
    exact h.setPayment hpay hrows fun x hx => h.fare hc (hfare x hx).1
  | updateRefund j => exact h.updateRefund hstep
  | beginRefund | postRefund | crashRefund | topUp | setEntitlements =>
    obtain ⟨hpay, -, hrows⟩ := beside_frame hstep rfl
    exact h.congr hpay (hrows fun j hj => (nomatch hj))

/-- What the results about money start from. -/
structure Orderly (cfg : Config ID) (s : State ID) : Prop where
  consistent : Consistent cfg s
  fares : FaresNonneg s

omit [DecidableEq ID] in
lemma Orderly.init : Orderly cfg (State.init : State ID) := ⟨.init, .init⟩

lemma Orderly.step (hinj : Function.Injective cfg.newID) (h : Orderly cfg s) {e : Event}
    (hok : FareCareful s e) (hstep : step cfg s e = some s') : Orderly cfg s' :=
  ⟨h.consistent.step hinj hstep, h.fares.step hok hstep⟩

end H2Fleet.Commerce
