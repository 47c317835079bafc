import H2Fleet.Citizen.Drt
import H2Fleet.Commerce.Loyalty

/-!
# Erasing a rider

`EraseMyData` of `handlers/me.go`, over the rows that the citizen-api and the commerce-api keep
about riders.  The events are the transactions of the handlers.

**Rows.**  All tables are one list of rows, each tagged with its table.  A row has its subject
column, the texts that the operations store in it, and fixed texts such as a status; numbers and
times are left out where nothing is read from them.

**The tombstone** is a function of the subject, and `loyalty_accounts` and `rider_accounts` have the
subject as their primary key.  Once a rider was erased there are rows under the tombstone, and a
rider who comes back cannot be erased again: the UPDATE violates the primary key and is rolled back.
-/

namespace H2Fleet.Citizen

open Commerce (Payment LoyaltyEntry LoyaltyReason Redemption)

/-! ## Rows -/

/-- A row of `citizen.drt_requests`, with its texts. -/
structure DrtRecord where
  id : String
  userSub : String
  pickupLabel : String
  dropoffLabel : String
  vehicleID : Option String
  driverSub : Option String
  status : DrtStatus
  unassigned : status = .requested → vehicleID = none ∧ driverSub = none
  deriving DecidableEq

/-- A row of `commerce.rider_entitlements`. -/
structure Entitlement where
  id : String
  riderSub : String
  productID : String
  payerAccount : Option String
  createdBy : String
  deriving DecidableEq

/-- A row of `commerce.billing_charges`. -/
structure BillingCharge where
  id : String
  billingAccountID : String
  paymentID : String
  entitlementID : String
  amountMinor : ℤ
  deriving DecidableEq

inductive Row where
  | drtRequest (d : DrtRecord)
  | farePayment (p : Payment String)
  | loyaltyAccount (riderSub : String) (points : ℤ)
  | loyaltyEntry (id : String) (e : LoyaltyEntry)
  | redemption (id : String) (r : Redemption)
  | riderAccount (riderSub : String) (accountID : ℕ)
  | entitlement (e : Entitlement)
  | billingCharge (c : BillingCharge)
  deriving DecidableEq

def reasonText : LoyaltyReason → String
  | .fareAccrual => "fare_accrual"
  | .refundClawback => "refund_clawback"
  | .offerRedeem => "offer_redeem"

namespace Row

def subject : Row → Option String
  | drtRequest d => some d.userSub
  | farePayment p => some p.riderSub
  | loyaltyAccount riderSub _ => some riderSub
  | loyaltyEntry _ e => some e.riderSub
  | redemption _ r => some r.riderSub
  | riderAccount riderSub _ => some riderSub
  | entitlement e => some e.riderSub
  | billingCharge _ => none

/-- `SET user_sub = $2`, or `rider_sub`. -/
def withSubject (sub : String) : Row → Row
  | drtRequest d => drtRequest { d with userSub := sub }
  | farePayment p => farePayment { p with riderSub := sub }
  | loyaltyAccount _ points => loyaltyAccount sub points
  | loyaltyEntry id e => loyaltyEntry id { e with riderSub := sub }
  | redemption id r => redemption id { r with riderSub := sub }
  | riderAccount _ accountID => riderAccount sub accountID
  | entitlement e => entitlement { e with riderSub := sub }
  | billingCharge c => billingCharge c

/-- The texts of the other columns, as the operations have stored them. -/
def stored : Row → List String
  | drtRequest d =>
    [d.id, d.pickupLabel, d.dropoffLabel] ++ d.vehicleID.toList ++ d.driverSub.toList
  | farePayment p =>
    [p.id, p.currency] ++ p.idempotencyKey.toList ++ p.tbTransferID.toList ++
      p.mojaloopTransferID.toList
  | loyaltyAccount _ _ => []
  | loyaltyEntry id e => [id, e.refID]
  | redemption id r => [id, r.offerID, r.idempotencyKey]
  | riderAccount _ _ => []
  | entitlement e => [e.id, e.productID, e.createdBy] ++ e.payerAccount.toList
  | billingCharge c => [c.id, c.billingAccountID, c.paymentID, c.entitlementID]

/-- The texts that are constants of the code. -/
def fixed : Row → List String
  | drtRequest d => [d.status.text]
  | farePayment p => [p.status.text]
  | loyaltyEntry _ e => [reasonText e.reason]
  | redemption _ _ => ["completed"]
  | _ => []

@[simp] lemma subject_withSubject (r : Row) (sub : String) :
    (r.withSubject sub).subject = r.subject.map fun _ => sub := by
  cases r <;> rfl

@[simp] lemma stored_withSubject (r : Row) (sub : String) :
    (r.withSubject sub).stored = r.stored := by
  cases r <;> rfl

@[simp] lemma fixed_withSubject (r : Row) (sub : String) : (r.withSubject sub).fixed = r.fixed := by
  cases r <;> rfl

/-! ## Updates of a row -/

/-- `UPDATE commerce.loyalty_accounts SET points = … WHERE rider_sub = $1`. -/
def setPoints (sub : String) (f : ℤ → ℤ) : Row → Row
  | loyaltyAccount riderSub points =>
    if riderSub = sub then loyaltyAccount riderSub (f points) else loyaltyAccount riderSub points
  | r => r

/-- The UPDATE of `RefundPayment`, for an amount within the remainder. -/
def refund (id : String) (amount : ℤ) : Row → Row
  | farePayment p =>
    if p.id = id ∧ (p.status = .settled ∨ p.status = .partiallyRefunded) ∧ 0 ≤ amount ∧
        p.refundedMinor + amount ≤ p.effectiveCharged then
      farePayment { p with
        refundedMinor := p.refundedMinor + amount
        status := if p.effectiveCharged ≤ p.refundedMinor + amount then .refunded
          else .partiallyRefunded }
    else farePayment p
  | r => r

/-- The UPDATE of `CancelDRTRequest`. -/
def cancel (id : String) : Row → Row
  | drtRequest d =>
    if d.id = id ∧ (d.status = .requested ∨ d.status = .assigned) then
      drtRequest { d with status := .cancelled, unassigned := nofun }
    else drtRequest d
  | r => r

/-- The UPDATE of `ProgressDRTRequest`. -/
def progress (id : String) (p : Progression) : Row → Row
  | drtRequest d =>
    if d.id = id ∧ d.status = p.before then
      drtRequest { d with
        status := p.after
        unassigned := by cases p <;> exact nofun }
    else drtRequest d
  | r => r

/-- The UPDATE of `AssignDRT`. -/
def assign (id vehicle : String) (driver : Option String) : Row → Row
  | drtRequest d =>
    if d.id = id ∧ d.status = .requested then
      drtRequest { d with
        vehicleID := some vehicle
        driverSub := driver
        status := .assigned
        unassigned := nofun }
    else drtRequest d
  | r => r

end Row

/-! ## Transactions -/

abbrev Tables := List Row

/-- `sha256` and `GDPR_ERASURE_SALT`. -/
structure ErasureConfig where
  sha256 : String → List UInt8
  salt : String

def hexDigit (n : ℕ) : Char := "0123456789abcdef".toList.getD n '0'

/-- `hex.EncodeToString`. -/
def hexEncode (bytes : List UInt8) : String :=
  String.ofList (bytes.flatMap fun b => [hexDigit (b.toNat / 16), hexDigit (b.toNat % 16)])

def erasureMarker (cfg : ErasureConfig) (sub : String) : String :=
  "erased:" ++ hexEncode ((cfg.sha256 (cfg.salt ++ "|" ++ sub)).take 8)

/-- The key of a redemption: the header, or one made of offer and subject. -/
def redemptionKey (offerID sub header : String) : String :=
  if header = "" then offerID ++ ":" ++ sub else header

/-- The transactions of the handlers.  `id`, `entryID` and `chargeID` are uuids. -/
inductive Tx where
  /-- `riderAccount`: top-ups, payments and refunds. -/
  | riderAccount (sub : String)
  | getLoyaltyBalance (sub : String)
  /-- `CreatePayment`, with the billing account and the entitlement if it has a payer. -/
  | createPayment (p : Payment String) (payer : Option (String × String)) (chargeID : String)
  | accrueLoyaltyPoints (entryID paymentID sub : String) (amountMinor : ℤ)
  | refundPayment (id : String) (amount : ℤ)
  | clawbackLoyaltyPoints (entryID paymentID sub : String) (newTotal refundedMinor : ℤ)
  | redeemOffer (id entryID sub offerID header : String) (cost : ℤ)
  | grantEntitlement (e : Entitlement)
  | createDRTRequest (id sub pickupLabel dropoffLabel : String)
  | cancelDRTRequest (id : String)
  | assignDRT (id vehicle : String) (driver : Option String)
  | progressDRTRequest (id : String) (p : Progression)
  | eraseMyData (sub : String)

namespace Tables

variable (t : Tables)

def HasRiderAccount (sub : String) : Prop := ∃ r ∈ t, ∃ n, r = .riderAccount sub n

def HasLoyaltyAccount (sub : String) : Prop := ∃ r ∈ t, ∃ n, r = .loyaltyAccount sub n

def HasRef (refID : String) : Prop :=
  ∃ r ∈ t, ∃ id e, r = .loyaltyEntry id e ∧ e.refID = refID

def HasRedemption (key : String) : Prop :=
  ∃ r ∈ t, ∃ id d, r = .redemption id d ∧ d.idempotencyKey = key

def HasPayment (key : String) : Prop :=
  ∃ r ∈ t, ∃ p, r = .farePayment p ∧ p.idempotencyKey = some key

lemma any_iff {t : Tables} {p : Row → Bool} {P : Row → Prop} (h : ∀ r, p r = true ↔ P r) :
    t.any p = true ↔ ∃ r ∈ t, P r := by
  simp only [List.any_eq_true, h]

instance (sub : String) : Decidable (t.HasRiderAccount sub) :=
  decidable_of_iff (t.any fun | .riderAccount s _ => s = sub | _ => false)
    (any_iff fun r => by cases r <;> simp)

instance (sub : String) : Decidable (t.HasLoyaltyAccount sub) :=
  decidable_of_iff (t.any fun | .loyaltyAccount s _ => s = sub | _ => false)
    (any_iff fun r => by cases r <;> simp)

instance (refID : String) : Decidable (t.HasRef refID) :=
  decidable_of_iff (t.any fun | .loyaltyEntry _ e => e.refID = refID | _ => false)
    (any_iff fun r => by cases r <;> simp)

instance (key : String) : Decidable (t.HasRedemption key) :=
  decidable_of_iff (t.any fun | .redemption _ d => d.idempotencyKey = key | _ => false)
    (any_iff fun r => by cases r <;> simp)

instance (key : String) : Decidable (t.HasPayment key) :=
  decidable_of_iff (t.any fun | .farePayment p => p.idempotencyKey = some key | _ => false)
    (any_iff fun r => by cases r <;> simp)

/-- The points of a rider; a new account has none. -/
def points (sub : String) : ℤ :=
  (t.findSome? fun | .loyaltyAccount s n => if s = sub then some n else none | _ => none).getD 0

/-- `COALESCE(MAX(account_id), 1000) + 1`. -/
def nextAccount : ℕ :=
  ((t.filterMap fun | .riderAccount _ n => some n | _ => none).max?.getD 1000) + 1

/-- `INSERT … ON CONFLICT (rider_sub) DO NOTHING` into `rider_accounts`. -/
def ensureRiderAccount (sub : String) : Tables :=
  if t.HasRiderAccount sub then t else t ++ [.riderAccount sub t.nextAccount]

/-- The same into `loyalty_accounts`. -/
def ensureLoyaltyAccount (sub : String) : Tables :=
  if t.HasLoyaltyAccount sub then t else t ++ [.loyaltyAccount sub 0]

/-- `INSERT … ON CONFLICT (ref_id) DO NOTHING` into `loyalty_ledger`. -/
def insertEntry (id : String) (e : LoyaltyEntry) : Tables :=
  if t.HasRef e.refID then t else t ++ [.loyaltyEntry id e]

/-- The charge of a payer, for what a payment is short of its fare. -/
def chargesOf (p : Payment String) (payer : Option (String × String)) (chargeID : String) :
    List Row :=
  match payer with
  | some (account, entitlement) =>
    if 0 < p.amountMinor - p.effectiveCharged then
      [.billingCharge ⟨chargeID, account, p.id, entitlement, p.amountMinor - p.effectiveCharged⟩]
    else []
  | none => []

/-- Accounts under subject and marker: the UPDATE violates the primary key. -/
def Collides (sub marker : String) : Prop :=
  (t.HasLoyaltyAccount sub ∧ t.HasLoyaltyAccount marker) ∨
    (t.HasRiderAccount sub ∧ t.HasRiderAccount marker)
  deriving Decidable

def erase (sub marker : String) : Tables :=
  t.map fun r => if r.subject = some sub then r.withSubject marker else r

/-- A transaction as committed; `none` if refused, rolled back or a replay. -/
def transact (cfg : ErasureConfig) (t : Tables) : Tx → Option Tables
  | .riderAccount sub => some (t.ensureRiderAccount sub)
  | .getLoyaltyBalance sub => if sub = "" then none else some (t.ensureLoyaltyAccount sub)
  | .createPayment p payer chargeID =>
    match p.idempotencyKey with
    | none => none
    | some key =>
      if key = "" ∨ p.riderSub = "" ∨ p.amountMinor ≤ 0 ∨ t.HasPayment key then none
      else some (t ++ .farePayment p :: chargesOf p payer chargeID)
  | .accrueLoyaltyPoints entryID paymentID sub amountMinor =>
    if amountMinor.tdiv 100 ≤ 0 ∨ sub = "" ∨ t.HasRef paymentID then none
    else
      let added : Tables :=
        (t.ensureLoyaltyAccount sub).map (.setPoints sub (· + amountMinor.tdiv 100))
      some (added ++ [.loyaltyEntry entryID ⟨sub, amountMinor.tdiv 100, .fareAccrual, paymentID⟩])
  | .refundPayment id amount => some (t.map (.refund id amount))
  | .clawbackLoyaltyPoints entryID paymentID sub newTotal refundedMinor =>
    let refID := "refund:" ++ paymentID ++ ":" ++ toString newTotal
    if refundedMinor.tdiv 100 ≤ 0 ∨ sub = "" ∨ t.HasRef refID then none
    else
      let taken : Tables := t.map (.setPoints sub fun n => max 0 (n - refundedMinor.tdiv 100))
      some (taken ++ [.loyaltyEntry entryID ⟨sub, -refundedMinor.tdiv 100, .refundClawback, refID⟩])
  | .redeemOffer id entryID sub offerID header cost =>
    let key := redemptionKey offerID sub header
    if sub = "" ∨ offerID = "" ∨ t.HasRedemption key ∨ t.points sub < cost then none
    else
      let paid : Tables := (t.ensureLoyaltyAccount sub).map (.setPoints sub (· - cost))
      some (insertEntry (paid ++ [.redemption id ⟨sub, offerID, cost, key⟩]) entryID
        ⟨sub, -cost, .offerRedeem, "redeem:" ++ key⟩)
  | .grantEntitlement e =>
    if e.riderSub = "" ∨ e.productID = "" then none else some (t ++ [.entitlement e])
  | .createDRTRequest id sub pickupLabel dropoffLabel =>
    if sub = "" then none
    else some (t ++ [.drtRequest
      ⟨id, sub, pickupLabel, dropoffLabel, none, none, .requested, fun _ => ⟨rfl, rfl⟩⟩])
  | .cancelDRTRequest id => some (t.map (.cancel id))
  | .assignDRT id vehicle driver => some (t.map (.assign id vehicle driver))
  | .progressDRTRequest id p => some (t.map (.progress id p))
  | .eraseMyData sub =>
    if sub = "" ∨ cfg.salt = "" then none
    else if erasureMarker cfg sub ≠ sub ∧ t.Collides sub (erasureMarker cfg sub) then none
    else some (t.erase sub (erasureMarker cfg sub))

/-- A history is a sequence of transactions. -/
def step (cfg : ErasureConfig) (t : Tables) (tx : Tx) : Option Tables :=
  some ((t.transact cfg tx).getD t)

/-! ## Erasing again -/

def Erased (sub : String) : Prop := ∀ r ∈ t, r.subject ≠ some sub
  deriving Decidable

/-- An erasure of a rider commits, and no row is left under the subject. -/
def Repeatable (cfg : ErasureConfig) (t : Tables) (tx : Tx) : Prop :=
  ∀ sub, tx = .eraseMyData sub → sub ≠ "" → ∃ t', t.transact cfg tx = some t' ∧ t'.Erased sub

/-- An erasure finds no account of the rider beside one under the tombstone; and the subject is not
its own tombstone, or not in use. -/
def Erasable (cfg : ErasureConfig) (t : Tables) : Tx → Prop
  | .eraseMyData sub => sub ≠ "" → ¬ t.Collides sub (erasureMarker cfg sub) ∧
      (erasureMarker cfg sub = sub → t.Erased sub)
  | _ => True

instance (cfg : ErasureConfig) (t : Tables) (tx) : Decidable (Erasable cfg t tx) := by
  unfold Erasable; split <;> infer_instance

variable {cfg : ErasureConfig} {t : Tables} {sub : String}

lemma erased_erase {marker : String} (h : marker ≠ sub) : Erased (t.erase sub marker) sub := by
  intro r hr
  obtain ⟨r₀, -, rfl⟩ := List.mem_map.mp hr
  split_ifs with hsub
  · rw [Row.subject_withSubject, hsub]
    simpa using h
  · exact hsub

lemma erase_self (t : Tables) (sub : String) : t.erase sub sub = t := by
  refine List.map_id'' (fun r => ?_) t
  split_ifs with hsub
  · cases r with
    | billingCharge c => rfl
    | _ =>
      cases hsub
      rfl
  · rfl

lemma Erased.not_collides (h : t.Erased sub) (marker : String) : ¬ t.Collides sub marker := by
  rintro (⟨⟨r, hr, n, rfl⟩, -⟩ | ⟨⟨r, hr, n, rfl⟩, -⟩)
  · exact h _ hr rfl
  · exact h _ hr rfl

lemma repeatable_iff (hsalt : cfg.salt ≠ "") (tx : Tx) : Repeatable cfg t tx ↔
    Erasable cfg t tx := by
  cases tx with
  | eraseMyData sub =>
    simp only [Repeatable, Erasable, Tx.eraseMyData.injEq, forall_eq']
    refine imp_congr_right fun hsub => ?_
    by_cases hmarker : erasureMarker cfg sub = sub
    · -- the UPDATEs write what is there
      have htx : t.transact cfg (.eraseMyData sub) = some t := by
        simp [transact, hsub, hsalt, hmarker, erase_self]
      simp only [htx, Option.some.injEq, exists_eq_left', hmarker, forall_const]
      exact ⟨fun h => ⟨h.not_collides sub, h⟩, fun h => h.2⟩
    · by_cases hcollides : t.Collides sub (erasureMarker cfg sub)
      · simp [transact, hsub, hsalt, hmarker, hcollides]
      · simp [transact, hsub, hsalt, hmarker, hcollides, erased_erase hmarker]
  | _ => simp [Repeatable, Erasable]

/-- **When erasure can be repeated**, with the salt configured: in any history every erasure commits
and leaves no row under the subject exactly if each is erasable. -/
theorem erasures_commit_iff (hsalt : cfg.salt ≠ "") (t : Tables) (txs : List Tx) :
    Meets (step cfg) (Repeatable cfg) t txs ↔ Meets (step cfg) (Erasable cfg) t txs :=
  meets_congr (P := fun _ => True) (fun _ tx _ _ => repeatable_iff hsalt tx)
    (fun _ _ _ _ _ _ _ => trivial) trivial fun _ _ => trivial

/-- The character codes in place of the hash. -/
def plainErasure : ErasureConfig :=
  ⟨fun text => text.toList.map fun c => UInt8.ofNat c.toNat, "salt"⟩

/-- A rider with a wallet, who comes back for a ride without one. -/
def cameBack : List Tx :=
  [.riderAccount "ada", .createDRTRequest "d1" "ada" "home" "work", .eraseMyData "ada",
   .createDRTRequest "d2" "ada" "home" "work", .eraseMyData "ada"]

theorem came_back_and_erased : Meets (step plainErasure) (Repeatable plainErasure) [] cameBack :=
  (erasures_commit_iff (by decide) [] cameBack).mpr (by decide +kernel)

/-- **The second erasure is rolled back**, if the rider had a wallet before and after the first. -/
theorem second_erasure_rolled_back : ∃ t, run (step plainErasure) []
        [.riderAccount "ada", .eraseMyData "ada", .riderAccount "ada"] = some t ∧
      t.transact plainErasure (.eraseMyData "ada") = none ∧ ¬ t.Erased "ada" :=
  ⟨_, rfl, by decide +kernel, by decide +kernel⟩

end Tables

end H2Fleet.Citizen
