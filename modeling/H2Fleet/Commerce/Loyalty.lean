import H2Fleet.Commerce.World

/-!
# Loyalty points

`accrueLoyaltyPoints`, `clawbackLoyaltyPoints` and `RedeemOffer` over `commerce.loyalty_accounts`,
`loyalty_ledger` and `loyalty_redemptions`.  A redemption looks its key up first and does the rest
later, so two redemptions with one key can both pass the first look; the unique key of
`loyalty_redemptions` then rolls one of them back.

The balance is not the sum of the ledger: a clawback takes no more than there is, and the ledger
records the whole amount.  So the balance is squeezed between two sums (`LoyaltyOk`).
-/

namespace H2Fleet.Commerce

/-! ## Tables -/

inductive LoyaltyReason where
  | fareAccrual
  | refundClawback
  | offerRedeem
  deriving DecidableEq

/-- A row of `commerce.loyalty_ledger`. -/
structure LoyaltyEntry where
  riderSub : String
  delta : ℤ
  reason : LoyaltyReason
  refID : String
  deriving DecidableEq

/-- A row of `commerce.marketplace_offers`, with its CHECK. -/
structure Offer where
  id : String
  costPoints : ℤ
  active : Bool
  cost_pos : 0 < costPoints

/-- A row of `commerce.loyalty_redemptions`. -/
structure Redemption where
  riderSub : String
  offerID : String
  pointsSpent : ℤ
  idempotencyKey : String
  deriving DecidableEq

/-- An answer of `RedeemOffer`; `remaining` is missing in a replay. -/
structure RedeemResponse where
  code : ℕ
  error : Option String
  redemption : Option Redemption
  remaining : Option ℤ
  deriving DecidableEq

/-- A `RedeemOffer` call that found its key free, or has been answered. -/
inductive RedeemPc where
  | checked
  | done (r : RedeemResponse)
  | aborted
  deriving DecidableEq

structure RedeemCall where
  sub : String
  offerID : String
  key : String
  pc : RedeemPc

structure LoyaltyState where
  accounts : String → Option ℤ
  ledger : List LoyaltyEntry
  redemptions : List Redemption
  offers : List Offer
  calls : List RedeemCall

namespace LoyaltyState

def empty : LoyaltyState := ⟨fun _ => none, [], [], [], []⟩

variable (s : LoyaltyState)

def balance (rider : String) : ℤ := (s.accounts rider).getD 0

def accrued (rider : String) : ℤ :=
  (s.ledger.map fun e => if e.riderSub = rider ∧ e.reason = .fareAccrual then e.delta else 0).sum

def deltas (rider : String) : ℤ :=
  (s.ledger.map fun e => if e.riderSub = rider then e.delta else 0).sum

def spent (rider : String) : ℤ :=
  (s.redemptions.map fun r => if r.riderSub = rider then r.pointsSpent else 0).sum

def HasRef (refID : String) : Prop := ∃ e ∈ s.ledger, e.refID = refID
  deriving Decidable

def write (e : LoyaltyEntry) (points : Option ℤ) : LoyaltyState :=
  { s with
    accounts := Function.update s.accounts e.riderSub points
    ledger := s.ledger ++ [e] }

/-! ## Operations -/

/-- The range of a column of type `integer`. -/
def InInt32 (n : ℤ) : Prop := -2 ^ 31 ≤ n ∧ n < 2 ^ 31
  deriving Decidable

/-- `accrueLoyaltyPoints`.  A value out of range rolls the transaction back. -/
def accrue (paymentID riderSub : String) (amountMinor : ℤ) : LoyaltyState :=
  let points := amountMinor.tdiv 100
  if points ≤ 0 ∨ riderSub = "" then s
  else if ¬ InInt32 points ∨ s.HasRef paymentID then s
  else if ¬ InInt32 (s.balance riderSub + points) then s
  else
    s.write ⟨riderSub, points, .fareAccrual, paymentID⟩ (some (s.balance riderSub + points))

/-- `clawbackLoyaltyPoints`.  The UPDATE finds no row without an account. -/
def clawback (refID riderSub : String) (refundedMinor : ℤ) : LoyaltyState :=
  let points := refundedMinor.tdiv 100
  if points ≤ 0 ∨ riderSub = "" then s
  else if ¬ InInt32 (-points) ∨ s.HasRef refID then s
  else if ¬ InInt32 points then s
  else
    s.write ⟨riderSub, -points, .refundClawback, refID⟩
      ((s.accounts riderSub).map fun b => max 0 (b - points))

def getLoyaltyBalance (sub : String) : LoyaltyState :=
  if sub = "" then s
  else { s with accounts := Function.update s.accounts sub (some (s.balance sub)) }

def redemption? (key : String) : Option Redemption :=
  s.redemptions.find? fun r => r.idempotencyKey = key

/-- `RedeemOffer` up to the replay check. -/
def redeemCheck (sub : String) (offerID : Option String)
    (header : String) : RedeemCall :=
  let offer := offerID.getD ""
  let key := if header = "" then offer ++ ":" ++ sub else header
  let answer := fun pc => (⟨sub, offer, key, pc⟩ : RedeemCall)
  if sub = "" then answer (.done ⟨401, some "authenticated subject required", none, none⟩)
  else if offer = "" then answer (.done ⟨400, some "offer_id is required", none, none⟩)
  else
    match s.redemption? key with
    | some r =>
      if r.riderSub ≠ sub ∨ r.offerID ≠ offer then
        answer (.done ⟨409,
          some "idempotency key already used with different redemption parameters", none, none⟩)
      else answer (.done ⟨200, none, some r, none⟩)
    | none => answer .checked

/-- What `RedeemOffer` writes if it commits; there is one entry for a ref. -/
def redeemed (r : Redemption) : LoyaltyState :=
  let entry : LoyaltyEntry :=
    ⟨r.riderSub, -r.pointsSpent, .offerRedeem, "redeem:" ++ r.idempotencyKey⟩
  { s with
    accounts := Function.update s.accounts r.riderSub (some (s.balance r.riderSub - r.pointsSpent))
    redemptions := s.redemptions ++ [r]
    ledger := if s.HasRef entry.refID then s.ledger else s.ledger ++ [entry] }

/-- The rest of `RedeemOffer`.  A rollback takes the new account back too. -/
def redeemRest (c : RedeemCall) : LoyaltyState × RedeemResponse :=
  match s.offers.find? fun o => o.id = c.offerID ∧ o.active with
  | none => (s, ⟨404, some "offer not found or inactive", none, none⟩)
  | some offer =>
    if s.balance c.sub < offer.costPoints then
      (s, ⟨402, some "insufficient loyalty points", none, none⟩)
    else
      match s.redemption? c.key with
      | some r => (s, ⟨200, none, some r, none⟩)
      | none =>
        let r : Redemption := ⟨c.sub, c.offerID, offer.costPoints, c.key⟩
        (s.redeemed r, ⟨200, none, some r, some (s.balance c.sub - offer.costPoints)⟩)

end LoyaltyState

/-! ## Steps -/

/-- Payments are numbered; `setOffers` is what operators do to the offers. -/
inductive LoyaltyEvent where
  | accrue (payment : ℕ) (riderSub : String) (amountMinor : ℤ)
  | clawback (payment : ℕ) (newTotal : ℤ) (riderSub : String) (refundedMinor : ℤ)
  | getLoyaltyBalance (sub : String)
  | redeemCheck (sub : String) (offerID : Option String) (header : String)
  | redeemRest (i : ℕ)
  | redeemAborts (i : ℕ)
  | setOffers (offers : List Offer)

namespace LoyaltyState

def setCall (s : LoyaltyState) (i : ℕ) (c : RedeemCall) : LoyaltyState :=
  { s with calls := s.calls.set i c }

/-- The call at `i`, if it is past the replay check and not answered. -/
def checked? (s : LoyaltyState) (i : ℕ) : Option RedeemCall :=
  s.calls[i]?.filter fun c => c.pc = .checked

def step (newID : ℕ → String) (s : LoyaltyState) : LoyaltyEvent → Option LoyaltyState
  | .accrue payment riderSub amountMinor => some (s.accrue (newID payment) riderSub amountMinor)
  | .clawback payment newTotal riderSub refundedMinor =>
    some (s.clawback (refundKey (newID payment) newTotal) riderSub refundedMinor)
  | .getLoyaltyBalance sub => some (s.getLoyaltyBalance sub)
  | .redeemCheck sub offerID header =>
    some { s with calls := s.calls ++ [s.redeemCheck sub offerID header] }
  | .redeemRest i =>
    (s.checked? i).map fun c =>
      let res := s.redeemRest c
      res.1.setCall i { c with pc := .done res.2 }
  | .redeemAborts i => (s.checked? i).map fun c => s.setCall i { c with pc := .aborted }
  | .setOffers offers => some { s with offers := offers }

/-! ## Committed writes -/

/-- **What a step can write**: nothing a balance depends on, or one accrual, clawback or redemption
under a new ref or key. -/
inductive Writes (newID : ℕ → String) (s : LoyaltyState) : LoyaltyEvent → LoyaltyState → Prop where
  | nothing (e : LoyaltyEvent) (t : LoyaltyState) : (∀ rider, t.balance rider = s.balance rider) →
      t.ledger = s.ledger → t.redemptions = s.redemptions → Writes newID s e t
  | accrual (payment : ℕ) (rider : String) (amount points : ℤ) : 0 < points →
      ¬ s.HasRef (newID payment) →
      Writes newID s (.accrue payment rider amount)
        (s.write ⟨rider, points, .fareAccrual, newID payment⟩ (some (s.balance rider + points)))
  | clawback (payment : ℕ) (newTotal : ℤ) (rider : String) (amount points : ℤ) : 0 < points →
      ¬ s.HasRef (refundKey (newID payment) newTotal) →
      Writes newID s (.clawback payment newTotal rider amount)
        (s.write ⟨rider, -points, .refundClawback, refundKey (newID payment) newTotal⟩
          ((s.accounts rider).map fun b => max 0 (b - points)))
  | redemption (i : ℕ) (c c' : RedeemCall) (r : Redemption) : s.checked? i = some c →
      r.riderSub = c.sub → r.idempotencyKey = c.key → s.redemption? c.key = none →
      0 < r.pointsSpent → r.pointsSpent ≤ s.balance r.riderSub →
      Writes newID s (.redeemRest i) ((s.redeemed r).setCall i c')

variable {newID : ℕ → String} {s s' : LoyaltyState}

lemma balance_update (s : LoyaltyState) (rider r : String) (points : Option ℤ) :
    ({ s with accounts := Function.update s.accounts rider points } : LoyaltyState).balance r =
      if r = rider then points.getD 0 else s.balance r := by
  simp only [balance, Function.update_apply]
  split_ifs <;> rfl

lemma writes_redeemRest {i : ℕ} {c : RedeemCall} (hc : s.checked? i = some c) (c' : RedeemCall) :
    Writes newID s (.redeemRest i) ((s.redeemRest c).1.setCall i c') := by
  have hnothing : Writes newID s (.redeemRest i) (s.setCall i c') :=
    .nothing _ _ (fun _ => rfl) rfl rfl
  rw [redeemRest]
  cases hoffer : s.offers.find? fun o => o.id = c.offerID ∧ o.active with
  | none => exact hnothing
  | some offer =>
    simp only
    split_ifs with hfunds
    · exact hnothing
    · cases hkey : s.redemption? c.key with
      | some r => exact hnothing
      | none =>
        exact .redemption i c c' _ hc rfl rfl hkey offer.cost_pos (not_lt.mp hfunds)

lemma writes_of_step {e : LoyaltyEvent} (h : s.step newID e = some s') : Writes newID s e s' := by
  cases e with
  | accrue payment rider amount =>
    cases h
    rw [accrue]
    split_ifs with hnone hdup hrange
    · exact .nothing _ _ (fun _ => rfl) rfl rfl
    · exact .nothing _ _ (fun _ => rfl) rfl rfl
    · rw [not_or] at hnone hdup
      exact .accrual payment rider amount _ (not_le.mp hnone.1) hdup.2
    · exact .nothing _ _ (fun _ => rfl) rfl rfl
  | clawback payment newTotal rider amount =>
    cases h
    rw [clawback]
    split_ifs with hnone hdup hrange
    · exact .nothing _ _ (fun _ => rfl) rfl rfl
    · exact .nothing _ _ (fun _ => rfl) rfl rfl
    · rw [not_or] at hnone hdup
      exact .clawback payment newTotal rider amount _ (not_le.mp hnone.1) hdup.2
    · exact .nothing _ _ (fun _ => rfl) rfl rfl
  | getLoyaltyBalance sub =>
    cases h
    rw [getLoyaltyBalance]
    split_ifs
    · exact .nothing _ _ (fun _ => rfl) rfl rfl
    · refine .nothing _ _ (fun r => ?_) rfl rfl
      rw [balance_update]
      split_ifs with hr
      · rw [hr]
        rfl
      · rfl
  | redeemCheck | setOffers =>
    cases h
    exact .nothing _ _ (fun _ => rfl) rfl rfl
  | redeemRest i =>
    obtain ⟨c, hc, rfl⟩ := Option.map_eq_some_iff.mp h
    exact writes_redeemRest hc _
  | redeemAborts i =>
    obtain ⟨c, -, rfl⟩ := Option.map_eq_some_iff.mp h
    exact .nothing _ _ (fun _ => rfl) rfl rfl

/-! ## The invariant -/

structure LoyaltyOk (s : LoyaltyState) : Prop where
  nonneg : ∀ rider, 0 ≤ s.balance rider
  covered : ∀ rider, s.balance rider + s.spent rider ≤ s.accrued rider
  ledger : ∀ rider, s.deltas rider ≤ s.balance rider
  refs : ∀ key, s.HasRef ("redeem:" ++ key) → (s.redemption? key).isSome = true

lemma LoyaltyOk.empty : LoyaltyOk empty where
  nonneg _ := le_refl _
  covered _ := le_refl _
  ledger _ := le_refl _
  refs key h := by
    obtain ⟨e, he, -⟩ := h
    cases he

lemma hasRef_write (e : LoyaltyEntry) (points : Option ℤ) (ref : String) :
    (s.write e points).HasRef ref ↔ s.HasRef ref ∨ e.refID = ref := by
  simp [HasRef, write, or_and_right, exists_or]

lemma balance_write (e : LoyaltyEntry) (points : Option ℤ) (r : String) :
    (s.write e points).balance r = if r = e.riderSub then points.getD 0 else s.balance r :=
  balance_update s e.riderSub r points

variable {t : LoyaltyState}

lemma accrued_concat {e : LoyaltyEntry} (h : t.ledger = s.ledger ++ [e]) (r : String) :
    t.accrued r =
      s.accrued r + if e.riderSub = r ∧ e.reason = .fareAccrual then e.delta else 0 := by
  simp [accrued, h]

lemma deltas_concat {e : LoyaltyEntry} (h : t.ledger = s.ledger ++ [e]) (r : String) :
    t.deltas r = s.deltas r + if e.riderSub = r then e.delta else 0 := by
  simp [deltas, h]

lemma LoyaltyOk.write (h : LoyaltyOk s) {e : LoyaltyEntry} {points : Option ℤ}
    (hnonneg : 0 ≤ points.getD 0)
    (hcovered : points.getD 0 ≤ s.balance e.riderSub + if e.reason = .fareAccrual then
    e.delta else 0) (hledger : s.balance e.riderSub + e.delta ≤ points.getD 0)
    (href : ∀ key, e.refID ≠ "redeem:" ++ key) : LoyaltyOk (s.write e points) := by
  constructor
  · intro r
    rw [balance_write]
    split_ifs
    · exact hnonneg
    · exact h.nonneg r
  · intro r
    have hold := h.covered r
    rw [balance_write, accrued_concat rfl]
    change _ + s.spent r ≤ _
    by_cases hr : r = e.riderSub
    · subst hr
      simp only [if_true, true_and]
      omega
    · simpa [hr, Ne.symm hr] using hold
  · intro r
    have hold := h.ledger r
    rw [balance_write, deltas_concat rfl]
    by_cases hr : r = e.riderSub
    · subst hr
      simp only [if_true]
      omega
    · simpa [hr, Ne.symm hr] using hold
  · intro key hkey
    rcases (hasRef_write e points _).mp hkey with hkey | hkey
    · exact h.refs key hkey
    · exact absurd hkey (href key)

lemma redemption?_concat {r : Redemption} (h : t.redemptions = s.redemptions ++ [r])
    (key : String) :
    (t.redemption? key).isSome = true ↔ (s.redemption? key).isSome = true ∨
      r.idempotencyKey = key := by
  simp [redemption?, h, List.find?_isSome]

lemma LoyaltyOk.redeemed (h : LoyaltyOk s) {r : Redemption}
    (hkey : s.redemption? r.idempotencyKey = none) (hfunds : r.pointsSpent ≤ s.balance r.riderSub) :
    LoyaltyOk (s.redeemed r) := by
  have href : ¬ s.HasRef ("redeem:" ++ r.idempotencyKey) := by
    intro href
    have hsome := h.refs _ href
    rw [hkey] at hsome
    cases hsome
  have hledger : (s.redeemed r).ledger = s.ledger ++
      [⟨r.riderSub, -r.pointsSpent, .offerRedeem, "redeem:" ++ r.idempotencyKey⟩] := if_neg href
  have hbalance : ∀ q, (s.redeemed r).balance q =
      if q = r.riderSub then s.balance r.riderSub - r.pointsSpent else s.balance q := fun q =>
    balance_update s r.riderSub q _
  have hspent : ∀ q, (s.redeemed r).spent q =
      s.spent q + if r.riderSub = q then r.pointsSpent else 0 := by
    intro q
    simp [spent, LoyaltyState.redeemed]
  constructor
  · intro q
    rw [hbalance]
    split_ifs
    · exact sub_nonneg.mpr hfunds
    · exact h.nonneg q
  · intro q
    have hold := h.covered q
    rw [hbalance, hspent, accrued_concat hledger]
    by_cases hq : q = r.riderSub
    · subst hq
      simp only [if_true, reduceCtorEq, and_false, if_false]
      omega
    · simpa [hq, Ne.symm hq] using hold
  · intro q
    have hold := h.ledger q
    rw [hbalance, deltas_concat hledger]
    by_cases hq : q = r.riderSub
    · subst hq
      simp only [if_true]
      omega
    · simpa [hq, Ne.symm hq] using hold
  · intro key hkey'
    rw [redemption?_concat (r := r) rfl]
    obtain ⟨e, he, heq⟩ := hkey'
    rw [hledger, List.mem_append, List.mem_singleton] at he
    rcases he with he | rfl
    · exact .inl (h.refs key ⟨e, he, heq⟩)
    · exact .inr ((String.append_right_inj _).mp heq)

lemma LoyaltyOk.congr (h : LoyaltyOk s) (hbalance : ∀ rider, s'.balance rider = s.balance rider)
    (hledger : s'.ledger = s.ledger) (hredemptions : s'.redemptions = s.redemptions) :
    LoyaltyOk s' := by
  constructor
  · intro r
    rw [hbalance]
    exact h.nonneg r
  · intro r
    rw [hbalance, spent, hredemptions, accrued, hledger]
    exact h.covered r
  · intro r
    rw [hbalance, deltas, hledger]
    exact h.ledger r
  · intro key hkey
    rw [HasRef, hledger] at hkey
    rw [redemption?, hredemptions]
    exact h.refs key hkey

/-- The refs of the three operations differ in their first letters; payment ids are UUIDs. -/
lemma ne_redeem {id : String} (h : ':' ∉ id.toList) (key : String) : id ≠ "redeem:" ++ key := by
  rintro rfl
  simp at h

lemma LoyaltyOk.step (hid : ∀ n, ':' ∉ (newID n).toList) {e : LoyaltyEvent} (h : LoyaltyOk s)
    (hstep : s.step newID e = some s') : LoyaltyOk s' := by
  cases writes_of_step hstep with
  | nothing _ _ hbalance hledger hredemptions => exact h.congr hbalance hledger hredemptions
  | accrual payment rider amount points hpos hnew =>
    have hold := h.nonneg rider
    refine h.write ?_ ?_ ?_ (ne_redeem (hid payment))
    · simp only [Option.getD_some]
      omega
    · simp
    · simp
  | clawback payment newTotal rider amount points hpos hnew =>
    have hold := h.nonneg rider
    have hfloor : ((s.accounts rider).map fun b => max 0 (b - points)).getD 0 =
        max 0 (s.balance rider - points) := by
      rw [balance]
      cases s.accounts rider with
      | some b => rfl
      | none =>
        simp only [Option.map_none, Option.getD_none]
        omega
    refine h.write ?_ ?_ ?_ fun key heq => by
      simpa [refundKey, numbered] using congrArg (fun t => t.toList.take 3) heq
    · rw [hfloor]
      exact le_max_left _ _
    · rw [hfloor]
      simp only [reduceCtorEq, if_false]
      omega
    · rw [hfloor]
      exact le_max_right _ _
  | redemption i c c' r hc hrider hkey hnone hpos hfunds =>
    have hredeemed : LoyaltyOk (s.redeemed r) := h.redeemed (hkey ▸ hnone) hfunds
    exact hredeemed.congr (fun _ => rfl) rfl rfl

/-! ## Once at most -/

end LoyaltyState

/-- What points are changed for: a payment, a step of a refund, a redemption key. -/
inductive Source where
  | payment (id : String)
  | refundStep (id : String) (newTotal : ℤ)
  | redemption (key : String)

/-- What a step would change points for. -/
def LoyaltyEvent.source? (newID : ℕ → String) (s : LoyaltyState) : LoyaltyEvent → Option Source
  | .accrue payment _ _ => some (.payment (newID payment))
  | .clawback payment newTotal _ _ => some (.refundStep (newID payment) newTotal)
  | .redeemRest i => (s.checked? i).map fun c => .redemption c.key
  | .getLoyaltyBalance _ | .redeemCheck _ _ _ | .redeemAborts _ | .setOffers _ => none

namespace LoyaltyState

variable {newID : ℕ → String} {s s' : LoyaltyState}

def Changes (s s' : LoyaltyState) : Prop := ∃ rider, s'.balance rider ≠ s.balance rider

/-- The source has left its mark in the tables. -/
def Used (s : LoyaltyState) : Source → Prop
  | .payment id => s.HasRef id
  | .refundStep id newTotal => s.HasRef (refundKey id newTotal)
  | .redemption key => (s.redemption? key).isSome = true

lemma Used.step {src : Source} {e : LoyaltyEvent} (h : s.Used src)
    (hstep : s.step newID e = some s') : s'.Used src := by
  have hrefs : ∀ ref, s.HasRef ref → s'.HasRef ref := by
    intro ref href
    cases writes_of_step hstep with
    | nothing _ _ _ hledger _ =>
      rw [HasRef, hledger]
      exact href
    | accrual | clawback => exact (hasRef_write _ _ _).mpr (.inl href)
    | redemption i c c' r _ _ _ _ _ _ =>
      obtain ⟨x, hx, hxref⟩ := href
      refine ⟨x, ?_, hxref⟩
      show x ∈ (s.redeemed r).ledger
      rw [redeemed]
      split_ifs
      · exact hx
      · exact List.mem_append_left _ hx
  cases src with
  | payment id => exact hrefs _ h
  | refundStep id newTotal => exact hrefs _ h
  | redemption key =>
    show (s'.redemption? key).isSome = true
    cases writes_of_step hstep with
    | nothing _ _ _ _ hredemptions =>
      rw [redemption?, hredemptions]
      exact h
    | accrual _ _ _ _ _ _ => exact h
    | clawback _ _ _ _ _ _ _ => exact h
    | redemption i c c' r _ _ _ _ _ _ => exact (redemption?_concat (r := r) rfl key).mpr (.inl h)

/-- **A step that changes points** does so for a source without a mark, and leaves one. -/
lemma Changes.used {e : LoyaltyEvent} (h : s.Changes s') (hstep : s.step newID e = some s') :
    ∃ src, e.source? newID s = some src ∧ ¬ s.Used src ∧ s'.Used src := by
  cases writes_of_step hstep with
  | nothing _ _ hbalance _ _ =>
    obtain ⟨rider, hne⟩ := h
    exact absurd (hbalance rider) hne
  | accrual payment rider amount points _ hnew =>
    exact ⟨.payment (newID payment), rfl, hnew, (hasRef_write _ _ _).mpr (.inr rfl)⟩
  | clawback payment newTotal rider amount points _ hnew =>
    exact ⟨.refundStep (newID payment) newTotal, rfl, hnew, (hasRef_write _ _ _).mpr (.inr rfl)⟩
  | redemption i c c' r hc _ hkey hnone _ _ =>
    refine ⟨.redemption c.key, ?_, ?_, ?_⟩
    · rw [LoyaltyEvent.source?, hc]
      rfl
    · rw [Used, hnone]
      exact Bool.false_ne_true
    · exact (redemption?_concat (s := s) (r := r) rfl c.key).mpr (.inr hkey)

/-- **The points of every rider**: the balance is not negative, with the points spent it is covered
by the accruals, and it is at least the sum of the ledger.  A source changes points once. -/
theorem loyalty_points_safe (hid : ∀ n, ':' ∉ (newID n).toList) {es : List LoyaltyEvent}
    (hrun : run (step newID) empty es = some s) :
    (∀ rider, 0 ≤ s.balance rider ∧ s.balance rider + s.spent rider ≤ s.accrued rider ∧
      s.deltas rider ≤ s.balance rider) ∧
    ∀ e s', s.step newID e = some s' → s.Changes s' → ∃ src, e.source? newID s = some src ∧
        ∀ es' t e' t', run (step newID) s' es' = some t → t.step newID e' = some t' →
          e'.source? newID t = some src → ¬ t.Changes t' := by
  have hs : LoyaltyOk s := run_invariant_always (fun _ _ _ h hs => h.step hid hs) .empty hrun
  constructor
  · intro rider
    exact ⟨hs.nonneg rider, hs.covered rider, hs.ledger rider⟩
  · intro e s' he hchanges
    obtain ⟨src, hsrc, -, hused⟩ := hchanges.used he
    refine ⟨src, hsrc, fun es' t e' t' hrest he' hsrc' hchanges' => ?_⟩
    obtain ⟨src', hsrc'', hunused, -⟩ := hchanges'.used he'
    cases hsrc''.symm.trans hsrc'
    exact hunused (run_invariant_always (fun _ _ _ (h : Used _ src) hs => h.step hs) hused hrest)

end LoyaltyState

/-! ## A rider -/

/-- A rider earns 5 points, spends 3 and is refunded the whole fare. -/
def earnAndSpend : List LoyaltyEvent :=
  [.accrue 0 "rider-1" 550, .setOffers [⟨"offer-1", 3, true, by decide⟩],
    .redeemCheck "rider-1" (some "offer-1") "", .redeemCheck "rider-1" (some "offer-1") "",
    .redeemRest 0, .redeemRest 1, .clawback 0 550 "rider-1" 550]

/-- Both calls with one key pass the replay check; the clawback takes the 2 points left. -/
theorem loyalty_points_safe_earnAndSpend :
    ∃ s, run (LoyaltyState.step fun n => String.ofList (pad 4 n)) .empty earnAndSpend = some s ∧
      s.balance "rider-1" = 0 ∧ s.spent "rider-1" = 3 ∧ s.accrued "rider-1" = 5 ∧
      s.deltas "rider-1" = -3 ∧
      ∀ rider, 0 ≤ s.balance rider ∧ s.balance rider + s.spent rider ≤ s.accrued rider ∧
        s.deltas rider ≤ s.balance rider := by
  have hid : ∀ n, ':' ∉ (String.ofList (pad 4 n)).toList := by
    intro n
    rw [String.toList_ofList]
    exact notMem_pad rfl
  obtain ⟨s, hs, hbalance, hspent, haccrued, hdeltas⟩ :
      ∃ s, run (LoyaltyState.step fun n => String.ofList (pad 4 n)) .empty earnAndSpend = some s ∧
        s.balance "rider-1" = 0 ∧ s.spent "rider-1" = 3 ∧ s.accrued "rider-1" = 5 ∧
        s.deltas "rider-1" = -3 := by
    decide +kernel
  exact ⟨s, hs, hbalance, hspent, haccrued, hdeltas, (LoyaltyState.loyalty_points_safe hid hs).1⟩

/-! ## Refunded rides -/

/-- The accrual of a payment, or the clawback of a refund of it. -/
structure RideOp where
  refund : Bool
  ref : String
  amount : ℤ
  deriving DecidableEq

namespace RideOp

def process (rider : String) (s : LoyaltyState) (op : RideOp) : LoyaltyState :=
  if op.refund then s.clawback op.ref rider op.amount else s.accrue op.ref rider op.amount

def delta (op : RideOp) : ℤ := if op.refund then -(op.amount.tdiv 100) else op.amount.tdiv 100

/-- The clawbacks of refunds, if `total` has been refunded before. -/
def clawbacks (id : String) : ℤ → List ℤ → List RideOp
  | _, [] => []
  | total, a :: refunds => ⟨true, refundKey id (total + a), a⟩ :: clawbacks id (total + a) refunds

/-- The accrual of a payment and the clawbacks of its refunds. -/
def ride (id : String) (refunds : List ℤ) : List RideOp :=
  ⟨false, id, refunds.sum⟩ :: clawbacks id 0 refunds

def written (s : LoyaltyState) (op : RideOp) : ℤ :=
  (s.ledger.map fun e => if e.refID = op.ref then e.delta else 0).sum

variable {s : LoyaltyState} {id rider : String} {ops : List RideOp} {refunds : List ℤ}

lemma clawbacks_refs : ∀ {refunds : List ℤ} {total : ℤ}, 0 ≤ total → (∀ a ∈ refunds, 0 < a) →
    ((clawbacks id total refunds).map ref).Nodup ∧
      ∀ op ∈ clawbacks id total refunds, ∃ t, total < t ∧ op.ref = refundKey id t
  | [], _, _, _ => ⟨.nil, nofun⟩
  | a :: refunds, total, h0, hpos => by
    obtain ⟨ha, hpos⟩ := List.forall_mem_cons.mp hpos
    obtain ⟨hnodup, hrefs⟩ := @clawbacks_refs refunds (total + a) (by omega) hpos
    refine ⟨List.nodup_cons.mpr ⟨fun hmem => ?_, hnodup⟩, List.forall_mem_cons.mpr
      ⟨⟨total + a, by omega, rfl⟩, fun op hop => ?_⟩⟩
    · obtain ⟨op, hop, href⟩ := List.mem_map.mp hmem
      obtain ⟨t, ht, href'⟩ := hrefs op hop
      have htotal := (numbered_inj (href.symm.trans href')).2
      omega
    · obtain ⟨t, ht, href⟩ := hrefs op hop
      exact ⟨t, by omega, href⟩

lemma ride_refs (hpos : ∀ a ∈ refunds, 0 < a) : ((ride id refunds).map ref).Nodup := by
  obtain ⟨hnodup, hrefs⟩ := @clawbacks_refs id refunds 0 le_rfl hpos
  refine List.nodup_cons.mpr ⟨fun hmem => ?_, hnodup⟩
  obtain ⟨op, hop, href⟩ := List.mem_map.mp hmem
  obtain ⟨t, -, href'⟩ := hrefs op hop
  have hlen := congrArg (fun r => r.toList.length) (href.symm.trans href')
  simp [refundKey, numbered] at hlen
  omega

lemma sum_ride (id : String) (refunds : List ℤ) :
    ((ride id refunds).map delta).sum = refunds.sum.tdiv 100 - (refunds.map (·.tdiv 100)).sum := by
  have hsum : ∀ total,
    ((clawbacks id total refunds).map delta).sum = -(refunds.map (·.tdiv 100)).sum := by
    induction refunds with
    | nil => exact fun _ => rfl
    | cons a refunds ih =>
      intro total
      simp [clawbacks, delta, ih, add_comm]
  rw [ride, List.map_cons, List.sum_cons, hsum]
  rfl

/-- Under each ref is what its operation writes, or nothing yet. -/
def Written (ops : List RideOp) (s : LoyaltyState) : Prop :=
  ∀ op ∈ ops, (s.HasRef op.ref → op.written s = op.delta) ∧ (¬ s.HasRef op.ref → op.written s = 0)

lemma Written.process (hops : (ops.map ref).Nodup) (h : Written ops s) {op : RideOp}
    (hop : op ∈ ops) : Written ops (op.process rider s) := by
  have hcases : op.process rider s = s ∨ ¬ s.HasRef op.ref ∧
      ∃ reason points, op.process rider s = s.write ⟨rider, op.delta, reason, op.ref⟩ points := by
    rw [RideOp.process, LoyaltyState.accrue, LoyaltyState.clawback, delta]
    grind
  obtain heq | ⟨hnew, reason, points, heq⟩ := hcases <;> rw [heq]
  · exact h
  · intro x hx
    have hwrite : x.written (s.write ⟨rider, op.delta, reason, op.ref⟩ points) =
        x.written s + if op.ref = x.ref then op.delta else 0 := by
      simp [written, LoyaltyState.write]
    rw [hwrite, LoyaltyState.hasRef_write]
    by_cases href : op.ref = x.ref
    · obtain rfl := List.inj_on_of_nodup_map hops hop hx href
      simp [(h op hop).2 hnew]
    · simpa [href] using h x hx

/-- **When a refunded ride earns nothing**: in any order and with any retries, exactly if the points
of the refunds, each rounded down, add up to the points of the charge. -/
theorem refunded_ride_iff (hpos : ∀ a ∈ refunds, 0 < a)
    (hnew : ∀ op ∈ ride id refunds, ∀ e ∈ s.ledger, e.refID ≠ op.ref)
    (hops : ∀ op ∈ ops, op ∈ ride id refunds)
    (hdone : ∀ op ∈ ride id refunds, op.delta = 0 ∨ (ops.foldl (process rider) s).HasRef op.ref) :
    ((ride id refunds).map (written (ops.foldl (process rider) s))).sum = 0 ↔
      refunds.sum.tdiv 100 = (refunds.map (·.tdiv 100)).sum := by
  have hstart : Written (ride id refunds) s := fun op hop =>
    ⟨fun ⟨e, he, href⟩ => absurd href (hnew op hop e he), fun _ =>
      List.sum_eq_zero (List.forall_mem_map.mpr fun e he => if_neg (hnew op hop e he))⟩
  have hend : Written (ride id refunds) (ops.foldl (process rider) s) :=
    List.foldlRecOn ops _ hstart fun s h op hop => h.process (ride_refs hpos) (hops op hop)
  have hwritten :
    (ride id refunds).map (written (ops.foldl (process rider) s)) =
      (ride id refunds).map delta := by
    refine List.map_congr_left fun op hop => ?_
    by_cases href : (ops.foldl (process rider) s).HasRef op.ref
    · exact (hend op hop).1 href
    · rw [(hend op hop).2 href, (hdone op hop).resolve_right href]
  rw [hwritten, sum_ride, sub_eq_zero]

/-- Two refunds of 100, the first before the accrual and the second twice. -/
theorem refunded_ride_halves :
    ((ride "p" [100, 100]).map
    (written ([⟨true, "refund:p:100", 100⟩, ⟨false, "p", 200⟩, ⟨true, "refund:p:200", 100⟩,
      ⟨true, "refund:p:200", 100⟩].foldl (process "rider-1") .empty))).sum = 0 :=
  (refunded_ride_iff (by decide) (by decide) (by decide) (by decide +kernel)).mpr (by decide)

/-- **A fare of 1 euro that is refunded by halves** leaves its point. -/
theorem refund_by_halves_leaves_point :
    (∀ op ∈ ride "p" [50, 50], op.delta = 0 ∨
    ((ride "p" [50, 50]).foldl (process "rider-1") .empty).HasRef op.ref) ∧
      ((ride "p" [50, 50]).map
      (written ((ride "p" [50, 50]).foldl (process "rider-1") .empty))).sum = 1 := by
  decide +kernel

end RideOp

end H2Fleet.Commerce
