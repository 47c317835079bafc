import H2Fleet.Core.Run
import H2Fleet.Core.Codec
import H2Fleet.Core.Slots
import H2Fleet.Core.Table
import H2Fleet.Ledger.Client
import H2Fleet.Commerce.Fare

/-!
# Payments, refunds and top-ups

`CreatePayment`, `RefundPayment` and `TopUpWallet` over the tables of the commerce service and the
ledger, one SQL statement or ledger call at a time, in any interleaving.

A `CreatePayment` call holds its row in a transaction: nobody else sees it before the commit, and it
vanishes with a crash, while a transfer the ledger has accepted stays.  The advisory lock of the
rider is held from `lock` to the end of the transaction.  A second INSERT with the key of an open
transaction waits for it to end.

UUIDs, SHA-256, `hashtext`, the start of the civic day and `strconv.Quote` are parameters
(`Config`).
-/

namespace H2Fleet.Commerce

open Ledger

structure Config (ID : Type) where
  sha16 : String → ID
  newID : ℕ → String
  hashtext : String → ℤ
  dayStart : String → ℤ → ℤ
  quote : String → String
  fareDailyCapMinor : String
  fareCapTimezone : String
  platformCurrency : String
  walletTopupEnabled : String
  simulatedLedger : String

def Config.cap {ID : Type} (cfg : Config ID) : ℤ := dailyCapMinor cfg.fareDailyCapMinor

/-- The start of the civic day, as the query for today's spend computes it. -/
def Config.day {ID : Type} (cfg : Config ID) (now : ℤ) : ℤ :=
  cfg.dayStart (Commerce.fareCapTimezone cfg.fareCapTimezone) now

def Config.tid {ID : Type} (cfg : Config ID) (key : String) : ID :=
  deterministicTransferID cfg.sha16 key

/-! ## Calls -/

/-- A row of `commerce.billing_charges`. -/
structure BillingCharge where
  billingAccountID : String
  paymentID : String
  entitlementID : String
  amountMinor : ℤ

structure PaymentBody where
  amountMinor : ℤ
  currency : String
  riderSub : String
  useMojaloop : Bool

/-- What a transaction of `CreatePayment` has written and not committed. -/
structure Draft (ID : Type) where
  row : Payment ID
  accrual : Option BillingCharge
  insufficientFunds : Bool
  switchError : Option String

/-- How far a `CreatePayment` call has come. -/
inductive PayPc (ID : Type) where
  | begun
  | locked
  | resolved (q : Quote)
  | priced (q : Quote)
  | inserted (d : Draft ID)
  | posted (d : Draft ID)
  | switched (d : Draft ID)
  | done (r : Response ID)
  | aborted

/-- A `CreatePayment` call past the checks, since `now`; `faulty` records that ledger, switch or
wallet failed it. -/
structure PayCall (ID : Type) where
  key : String
  rider : String
  privileged : Bool
  amount : ℤ
  currency : String
  useMojaloop : Bool
  now : ℤ
  faulty : Bool
  pc : PayPc ID

/-- The uncommitted row of a call, if it has one. -/
def PayPc.draft {ID : Type} : PayPc ID → Option (Draft ID)
  | .inserted d | .posted d | .switched d => some d
  | _ => none

/-- The call holds the advisory lock of its rider. -/
def PayPc.holdsLock {ID : Type} : PayPc ID → Bool
  | .begun | .done _ | .aborted => false
  | _ => true

inductive RefundPc (ID : Type) where
  | loaded
  | posted (tbTransferID : Option ID)
  | done (r : Response ID)
  | crashed (posted : Bool)

/-- A `RefundPayment` call that has loaded its row and checked the amount. -/
structure RefundCall (ID : Type) where
  row : Payment ID
  amount : ℤ
  pc : RefundPc ID

def RefundCall.newTotal {ID : Type} (c : RefundCall ID) : ℤ := c.row.refundedMinor + c.amount

/-- The call is through with the ledger and not with the UPDATE. -/
def RefundCall.unsettled {ID : Type} (c : RefundCall ID) : Bool :=
  match c.pc with
  | .posted _ | .crashed true => true
  | _ => false

/-- `refund:%s:%d`; the total is never negative. -/
def refundKey (id : String) (total : ℤ) : String := numbered ("refund:" ++ id) total.toNat

/-- A top-up that was answered with success. -/
structure TopUp where
  rider : String
  key : String
  amount : ℕ

/-! ## The state -/

structure State (ID : Type) where
  books : Books ID
  rows : List (Payment ID)
  charges : List BillingCharge
  accounts : List (String × ℕ)
  entitlements : List Entitlement
  payments : List (PayCall ID)
  refunds : List (RefundCall ID)
  topUps : List TopUp

def State.init {ID : Type} : State ID :=
  ⟨bootstrapped, [], [], [], [], [], [], []⟩

/-- `abort` and `crashRefund` are a crash, a lost connection or a failed statement. -/
inductive Event where
  | beginPayment (key subject : String) (privileged : Bool) (body : Option PaymentBody) (now : ℤ)
  | lock (i : ℕ)
  | resolve (i : ℕ)
  | price (i : ℕ)
  | insert (i : ℕ)
  | post (i : ℕ) (r : Replies)
  | switch (i : ℕ) (answer : Except SwitchError String)
  | commit (i : ℕ)
  | abort (i : ℕ)
  | beginRefund (id : String) (requested : Option ℤ)
  | postRefund (j : ℕ) (r : Replies)
  | updateRefund (j : ℕ)
  | crashRefund (j : ℕ)
  | topUp (subject key : String) (amount : ℤ) (r : Replies)
  | setEntitlements (es : List Entitlement)

section Steps

variable {ID : Type} (cfg : Config ID) (s : State ID)

def State.account? (rider : String) : Option ℕ :=
  (s.accounts.find? fun a => a.1 = rider).map Prod.snd

/-- The number `riderAccount` gives to the next new rider. -/
def State.nextAccount : ℕ := (s.accounts.map Prod.snd).max?.getD 1000 + 1

/-- `riderAccount`: the account of the rider, allocated on first use. -/
def State.riderAccount (rider : String) : State ID × ℕ :=
  match s.account? rider with
  | some a => (s, a)
  | none => ({ s with accounts := s.accounts ++ [(rider, s.nextAccount)] }, s.nextAccount)

def State.afterLedger (rider : String) (b : Books ID) : State ID :=
  { (s.riderAccount rider).1 with books := b }

def State.wallet (rider : String) : ℤ :=
  match s.account? rider with
  | some a => s.books.balance a
  | none => 0

/-- The accepted transfers out of the wallet of a rider under a key. -/
def State.debits [DecidableEq ID] (rider key : String) : List (Transfer ID) :=
  s.books.posted.filter fun t => t.id = cfg.tid key ∧ s.account? rider = some t.debit

def State.setPayment (i : ℕ) (c : PayCall ID) : State ID :=
  { s with payments := s.payments.set i c }

def State.setRefund (j : ℕ) (c : RefundCall ID) : State ID :=
  { s with refunds := s.refunds.set j c }

/-! ### CreatePayment -/

/-- The checks before the transaction: amount, currency and switch flag. -/
def checkPayment (key subject : String) (body : Option PaymentBody) :
    Except (Response ID) PaymentBody :=
  if key = "" then .error (.refuse 400 "Idempotency-Key header is required")
  else
    match body with
    | none => .error (.refuse 400 "invalid JSON body")
    | some b =>
      let currency := if b.currency = "" then "EUR" else b.currency
      let platform := Commerce.platformCurrency cfg.platformCurrency
      if ¬ InInt64 b.amountMinor then .error (.refuse 400 "invalid JSON body")
      else if b.amountMinor ≤ 0 then .error (.refuse 400 "amount_minor must be positive")
      else if subject = "" then .error (.refuse 401 "authenticated subject required")
      else if b.riderSub ≠ "" ∧ b.riderSub ≠ subject then
        .error (.refuse 403 "rider_sub does not match the authenticated subject")
      else if currency ≠ platform then
        .error (.refuse 422 ("unsupported currency " ++ cfg.quote currency ++
          " (platform settles in " ++ platform ++ ")"))
      else .ok { b with currency := currency, riderSub := subject }

def State.beginPayment (key subject : String) (privileged : Bool)
    (body : Option PaymentBody) (now : ℤ) : State ID :=
  match checkPayment cfg key subject body with
  | .error _ => s
  | .ok b =>
    { s with
      payments := s.payments ++
        [⟨key, subject, privileged, b.amountMinor, b.currency, b.useMojaloop, now, false, .begun⟩] }

/-- `pg_advisory_xact_lock(hashtext($1))`. -/
def State.lock (i : ℕ) : Option (State ID) :=
  s.payments[i]?.bind fun c =>
    match c.pc with
    | .begun =>
      if ∀ d ∈ s.payments, d.pc.holdsLock = true → cfg.hashtext d.rider ≠ cfg.hashtext c.rider then
        some (s.setPayment i { c with pc := .locked })
      else none
    | _ => none

def State.resolve (i : ℕ) : Option (State ID) :=
  s.payments[i]?.bind fun c =>
    match c.pc with
    | .locked =>
      some (s.setPayment i
        { c with pc := .resolved (resolveEntitlement s.entitlements c.rider c.now c.amount) })
    | _ => none

/-- What the query for today's spend yields for a call. -/
def State.spent (c : PayCall ID) : ℤ := spentToday s.rows c.rider (cfg.day c.now)

/-- The capping.  A sum that is no `int64` makes the query fail. -/
def State.price (i : ℕ) : Option (State ID) :=
  s.payments[i]?.bind fun c =>
    match c.pc with
    | .resolved q =>
      if 0 < cfg.cap ∧ 0 < q.charge then
        if InInt64 (s.spent cfg c) then
          some (s.setPayment i
            { c with pc := .priced { q with charge := applyCap cfg.cap (s.spent cfg c) q.charge } })
        else none
      else some (s.setPayment i { c with pc := .priced q })
    | _ => none

def newRow (i : ℕ) (c : PayCall ID) (charge : ℤ) : Payment ID where
  id := cfg.newID i
  riderSub := c.rider
  amountMinor := c.amount
  chargedMinor := some charge
  currency := c.currency
  mojaloopTransferID := none
  tbTransferID := none
  idempotencyKey := some c.key
  status := .initiated
  refundedMinor := 0
  createdAt := c.now

/-- The billing charge that goes with the row. -/
def accrual (i : ℕ) (c : PayCall ID) (q : Quote) : Option BillingCharge :=
  q.payerAccount.bind fun payer =>
    let covered := toInt64 (c.amount - q.charge)
    if 0 < covered then some ⟨payer, cfg.newID i, q.entitlementID, covered⟩ else none

/-- The answer to a request whose key has a committed payment. -/
def replay (c : PayCall ID) (existing : Payment ID) : Response ID :=
  if existing.riderSub ≠ c.rider ∧ c.privileged = false then .refuse 404 "payment not found"
  else ⟨200, none, some existing⟩

/-- The INSERTs.  A ride that costs nothing needs no ledger posting. -/
def State.insert (i : ℕ) : Option (State ID) :=
  s.payments[i]?.bind fun c =>
    match c.pc with
    | .priced q =>
      if ∀ d ∈ s.payments, d.pc.draft.isSome = true → d.key ≠ c.key then
        match s.rows.find? fun p => p.idempotencyKey = some c.key with
        | some existing => some (s.setPayment i { c with pc := .done (replay c existing) })
        | none =>
          let row := newRow cfg i c q.charge
          if 0 < q.charge then
            some (s.setPayment i { c with pc := .inserted ⟨row, accrual cfg i c q, false, none⟩ })
          else
            some (s.setPayment i { c with
                pc := .posted ⟨{ row with status := .settled }, accrual cfg i c q, false, none⟩ })
      else none
    | _ => none

variable [DecidableEq ID]

/-- What the answer of the ledger makes of the row. -/
def Draft.ledgerResult (d : Draft ID) : Except LedgerError ID → Draft ID
  | .ok id => { d with row := { d.row with status := .settled, tbTransferID := some id } }
  | .error e =>
    { d with row := { d.row with status := .failed }, insufficientFunds := e.insufficientFunds }

/-- What the answer of the switch makes of the row. -/
def Draft.switchResult (d : Draft ID) : Except SwitchError String → Draft ID
  | .ok id => { d with row := { d.row with mojaloopTransferID := some id } }
  | .error e =>
    { d with row := { d.row with status := paymentStatus (some e) }, switchError := some e.text }

def fareTransfer (key : String) (account : ℕ) (charge : ℤ) : Transfer ID :=
  transferFor (cfg.tid key) account operatorRevenueAccount charge.toNat codeFare

/-- No client call meets a fault, and a fare to be posted is covered. -/
def State.Sound (key : String) (account : ℕ) (charge : ℤ) (r : Replies) : Prop :=
  r.Faultless ∧ (s.books.Fresh (cfg.tid key) → (charge.toNat : ℤ) ≤ s.books.balance account)

instance (key : String) (account : ℕ) (charge : ℤ) (r : Replies) :
    Decidable (s.Sound cfg key account charge r) :=
  inferInstanceAs (Decidable (_ ∧ _))

def State.post (i : ℕ) (r : Replies) : Option (State ID) :=
  s.payments[i]?.bind fun c =>
    match c.pc with
    | .inserted d =>
      let account := (s.riderAccount c.rider).2
      let charge := d.row.effectiveCharged
      (transfer s.books (cfg.tid c.key) account operatorRevenueAccount charge.toNat
        codeFare r).map fun res =>
          (s.afterLedger c.rider res.1).setPayment i { c with
              faulty := c.faulty || !decide (s.Sound cfg c.key account charge r)
              pc := .posted (d.ledgerResult res.2) }
    | _ => none

def State.switch (i : ℕ) (answer : Except SwitchError String) : Option (State ID) :=
  s.payments[i]?.bind fun c =>
    match c.pc with
    | .posted d =>
      if c.useMojaloop = true ∧ d.row.status = .settled then
        some (s.setPayment i { c with
            faulty := c.faulty || !answer.isOk
            pc := .switched (d.switchResult answer) })
      else none
    | _ => none

def paymentResponse (d : Draft ID) : Response ID :=
  if d.row.status = .settled then ⟨201, none, some d.row⟩
  else if d.insufficientFunds then ⟨402, some "insufficient_funds", some d.row⟩
  else
    match d.switchError with
    | some text => ⟨502, some ("mojaloop transfer failed: " ++ text), some d.row⟩
    | none => ⟨502, some "ledger transfer failed", some d.row⟩

def State.finish (i : ℕ) (c : PayCall ID) (d : Draft ID) : State ID :=
  { s with rows := s.rows ++ [d.row], charges := s.charges ++ d.accrual.toList }.setPayment i
    { c with pc := .done (paymentResponse d) }

/-- The final UPDATE and the commit. -/
def State.commit (i : ℕ) : Option (State ID) :=
  s.payments[i]?.bind fun c =>
    match c.pc with
    | .posted d =>
      if c.useMojaloop = true ∧ d.row.status = .settled then none else some (s.finish i c d)
    | .switched d => some (s.finish i c d)
    | _ => none

def State.abort (i : ℕ) : Option (State ID) :=
  s.payments[i]?.bind fun c =>
    match c.pc with
    | .done _ | .aborted => none
    | _ => some (s.setPayment i { c with pc := .aborted })

/-! ### RefundPayment -/

def State.beginRefund (id : String) (requested : Option ℤ) : State ID :=
  match refundAmount (s.rows.find? fun p => p.id = id) requested with
  | .error _ => s
  | .ok (row, amount) =>
    { s with
      refunds := s.refunds ++ [⟨row, amount, if 0 < amount then .loaded else .posted none⟩] }

def reversal (c : RefundCall ID) (account : ℕ) : Transfer ID :=
  transferFor (cfg.tid (refundKey c.row.id c.newTotal)) operatorRevenueAccount account
    c.amount.toNat codeFare

def RefundPc.ledgerResult : Except LedgerError ID → RefundPc ID
  | .ok id => .posted (some id)
  | .error _ => .done internalError

def State.postRefund (j : ℕ) (r : Replies) : Option (State ID) :=
  s.refunds[j]?.bind fun c =>
    match c.pc with
    | .loaded =>
      (transfer s.books (cfg.tid (refundKey c.row.id c.newTotal))
        operatorRevenueAccount (s.riderAccount c.row.riderSub).2 c.amount.toNat
        codeFare r).map fun res =>
          (s.afterLedger c.row.riderSub res.1).setRefund j { c with pc := .ledgerResult res.2 }
    | _ => none

def RefundCall.Matches (c : RefundCall ID) (p : Payment ID) : Prop :=
  p.id = c.row.id ∧ (p.status = .settled ∨ p.status = .partiallyRefunded) ∧
    p.refundedMinor = c.row.refundedMinor
  deriving Decidable

/-- What the UPDATE does to a row that meets the condition. -/
def RefundCall.apply (c : RefundCall ID) (p : Payment ID) : Payment ID :=
  { p with
    refundedMinor := c.newTotal
    status := if c.row.effectiveCharged ≤ c.newTotal then .refunded else .partiallyRefunded }

def State.updateRefund (j : ℕ) : Option (State ID) :=
  s.refunds[j]?.bind fun c =>
    match c.pc with
    | .posted _ =>
      match s.rows.find? fun p => c.Matches p with
      | some p =>
        some ({ s with
          rows := s.rows.map fun p => if c.Matches p then c.apply p else p }.setRefund j
            { c with pc := .done ⟨200, none, some (c.apply p)⟩ })
      | none =>
        some (s.setRefund j { c with
            pc := .done ⟨409, some ("concurrent refund changed the refundable remainder; " ++
                "retry against the current state"),
              s.rows.find? fun p => p.id = c.row.id⟩ })
    | _ => none

def State.crashRefund (j : ℕ) : Option (State ID) :=
  s.refunds[j]?.bind fun c =>
    match c.pc with
    | .loaded => some (s.setRefund j { c with pc := .crashed false })
    | .posted _ => some (s.setRefund j { c with pc := .crashed true })
    | _ => none

/-! ### TopUpWallet -/

def maxTopUpMinor : ℤ := 1000000

def topUpEnabled (walletTopupEnabled simulatedLedger : String) : Bool :=
  if walletTopupEnabled ≠ "" then decide (walletTopupEnabled = "true")
  else decide (simulatedLedger = "true")

def checkTopUp (subject key : String) (amount : ℤ) : Except (Response ID) ℕ :=
  if topUpEnabled cfg.walletTopupEnabled cfg.simulatedLedger = false then
    .error (.refuse 404 "wallet top-up is disabled")
  else if subject = "" then .error (.refuse 401 "authenticated subject required")
  else if key = "" then .error (.refuse 400 "Idempotency-Key header is required")
  else if amount ≤ 0 ∨ maxTopUpMinor < amount then
    .error (.refuse 400 "amount_minor must be between 1 and 1000000")
  else .ok amount.toNat

/-- A top-up is counted once, however often it is repeated with its key. -/
def State.recordTopUp (t : TopUp) : State ID :=
  if ∃ u ∈ s.topUps, u.key = t.key then s else { s with topUps := s.topUps ++ [t] }

def topUpTransfer (key : String) (account amount : ℕ) : Transfer ID :=
  transferFor (cfg.tid ("topup:" ++ key)) riderFundingAccount account amount
    codeFare

def State.topUpResult (t : TopUp) : Except LedgerError ID → State ID
  | .ok _ => s.recordTopUp t
  | .error _ => s

def State.topUp (subject key : String) (amount : ℤ) (r : Replies) : Option (State ID) :=
  match checkTopUp cfg subject key amount with
  | .error _ => some s
  | .ok n =>
    (transfer s.books (cfg.tid ("topup:" ++ key)) riderFundingAccount
      (s.riderAccount subject).2 n codeFare r).map fun res =>
        (s.afterLedger subject res.1).topUpResult ⟨subject, key, n⟩ res.2

def step (s : State ID) : Event → Option (State ID)
  | .beginPayment key subject privileged body now =>
    some (s.beginPayment cfg key subject privileged body now)
  | .lock i => s.lock cfg i
  | .resolve i => s.resolve i
  | .price i => s.price cfg i
  | .insert i => s.insert cfg i
  | .post i r => s.post cfg i r
  | .switch i answer => s.switch i answer
  | .commit i => s.commit i
  | .abort i => s.abort i
  | .beginRefund id requested => some (s.beginRefund id requested)
  | .postRefund j r => s.postRefund cfg j r
  | .updateRefund j => s.updateRefund j
  | .crashRefund j => s.crashRefund j
  | .topUp subject key amount r => s.topUp cfg subject key amount r
  | .setEntitlements es => some { s with entitlements := es }

end Steps

/-! ## A platform with the default settings

Transfer ids in hexadecimal and payment ids as they come up in the concrete runs below; days are
those of UTC in microseconds. -/

def firstPayment : String := "3f2b8c1e-5d4a-4c6b-9e0f-1a2b3c4d5e6f"

def secondPayment : String := "8d9e0f1a-2b3c-4d5e-8f60-718293a4b5c6"

def transferIds : List (String × String) :=
  [("h2fleet:tb-transfer:tap-1", "06db93aa1db1109ad284e9378413f368"),
    ("h2fleet:tb-transfer:tap-2", "09231bc48540a9a77b63e0ecdf7ca5e7"),
    ("h2fleet:tb-transfer:topup:load-1", "c51eb3a8b2803da2a2ec1188b307d79e"),
    ("h2fleet:tb-transfer:refund:" ++ firstPayment ++ ":1", "190edc965323b8e82fd118c23a1a3e8e"),
    ("h2fleet:tb-transfer:refund:" ++ firstPayment ++ ":30", "4586d95d31071e3f9ec5ba0c72d43af0"),
    ("h2fleet:tb-transfer:refund:" ++ firstPayment ++ ":40", "311de878ddd0f52cbd9e35cb1e22ea71"),
    ("h2fleet:tb-transfer:refund:" ++ firstPayment ++ ":50", "071c68891ce54491f183c19898eb256c")]

def defaultConfig : Config String where
  sha16 := onTable transferIds fun s => "x" ++ s
  newID := onTable [(0, firstPayment), (1, secondPayment)] fun n => "x" ++ n.repr
  hashtext := onTable [("rider-1", -1560812610)] fun _ => 0
  dayStart _ now := now - now % 86400000000
  quote s := "\"" ++ s ++ "\""
  fareDailyCapMinor := ""
  fareCapTimezone := ""
  platformCurrency := ""
  walletTopupEnabled := ""
  simulatedLedger := "true"

lemma ne_fallback {table : List String} (h : ∀ d ∈ table, d.toList.head? ≠ some 'x') :
    ∀ d ∈ table, ∀ s : String, d ≠ "x" ++ s :=
  fun d hd s heq => h d hd (by rw [heq]; simp)

lemma defaultConfig_sha16_injective : Function.Injective defaultConfig.sha16 := by
  refine onTable_injective (by decide +kernel) (fun s t h => (String.append_right_inj _).mp h) ?_
  exact ne_fallback (by decide +kernel)

lemma defaultConfig_newID_injective : Function.Injective defaultConfig.newID := by
  refine onTable_injective (by decide +kernel)
    (fun m n h => (numbered_inj (p := "x") (q := "x") ?_).2) ?_
  · have hrepr : m.repr = n.repr := (String.append_right_inj _).mp h
    rw [numbered, numbered, hrepr]
  · exact fun d hd n => ne_fallback (by decide +kernel) d hd n.repr

lemma defaultConfig_day_le (t : ℤ) : defaultConfig.day t ≤ t :=
  sub_le_self _ (Int.emod_nonneg _ (by norm_num))

/-- Every client call of a transfer between known accounts is answered. -/
def answered (a : TransferAnswer) : Replies :=
  ⟨.answered .existing, .answered .existing, .answered a⟩

def topUpFirst (amount : ℤ) : Event :=
  .topUp "rider-1" "load-1" amount ⟨.answered .existing, .answered .created, .answered .created⟩

/-- A payment request of the rider, from the first step to the ledger leg. -/
def payment (i : ℕ) (key : String) (amount now : ℤ) (useMojaloop : Bool) (r : Replies) :
    List Event :=
  [.beginPayment key "rider-1" false (some ⟨amount, "", "", useMojaloop⟩) now, .lock i, .resolve i,
    .price i, .insert i, .post i r]

end H2Fleet.Commerce
