import H2Fleet.Core.Locks
import H2Fleet.Commerce.Operations

/-!
# Corporate billing

The billing accounts, the charges that payments accrue to them, `GenerateInvoice` and `PayInvoice`,
in transactions that interleave statement by statement; a transaction sees what is committed and
what it has written itself, and waits for the locks it asks for.

`sweptBy = some i` says that the open transaction of the `i`th generation has set `invoice_id`
there.  A charge carries the start of its transaction as `created_at`, and is visible when that
commits.  Its foreign key locks the account row until then, which excludes the `FOR UPDATE` of a
generation.

* `Generation` — advisory lock, replay check, lock on the account row, sweep, insert, commit.
* `Settlement` — lock on the invoice row, ledger call, conditional update, commit.
-/

namespace H2Fleet.Commerce

/-! ## Tables -/

/-- A row of `commerce.billing_accounts`. -/
structure BillingAccount where
  id : String
  ledgerAccountID : ℕ
  status : String

/-- A row of `commerce.billing_charges`, and the open generation that has changed it. -/
structure ChargeRow where
  charge : BillingCharge
  createdAt : ℤ
  invoiceID : Option String
  sweptBy : Option ℕ

inductive InvoiceStatus where
  | issued
  | paid
  | void
  deriving DecidableEq

def InvoiceStatus.text : InvoiceStatus → String
  | .issued => "issued"
  | .paid => "paid"
  | .void => "void"

/-- `Invoice`: a row of `commerce.invoices`. -/
structure Invoice (ID : Type) where
  id : String
  billingAccountID : String
  periodStart : ℤ
  periodEnd : ℤ
  amountMinor : ℤ
  chargeCount : ℕ
  status : InvoiceStatus
  tbTransferID : Option ID
  issuedAt : ℤ
  deriving DecidableEq

structure InvoiceResponse (ID : Type) where
  code : ℕ
  error : Option String
  message : Option String
  invoice : Option (Invoice ID)
  deriving DecidableEq

def InvoiceResponse.refuse {ID : Type} (code : ℕ) (text : String) : InvoiceResponse ID :=
  ⟨code, some text, none, none⟩

/-! ## Calls -/

/-- The transaction of a payment, as far as billing is concerned. -/
structure PaymentTx where
  startedAt : ℤ
  charge : Option BillingCharge
  ended : Bool

inductive GenPc (ID : Type) where
  | begun
  | locked
  | checked
  | rowLocked
  | swept
  | inserted (v : Invoice ID)
  | committed (v : Invoice ID)
  | done (r : InvoiceResponse ID)
  | aborted
  deriving DecidableEq

structure Generation (ID : Type) where
  accountID : String
  periodStart : ℤ
  periodEnd : ℤ
  startedAt : ℤ
  pc : GenPc ID

inductive SettlePc (ID : Type) where
  | begun
  | loaded (v : Invoice ID)
  | posted (v : Invoice ID) (transferID : ID)
  | updated (v : Invoice ID) (transferID : ID)
  | done (r : InvoiceResponse ID)
  | aborted

structure Settlement (ID : Type) where
  invoiceID : String
  pc : SettlePc ID

structure BillingState (ID : Type) where
  clock : ℤ
  books : Books ID
  accounts : List BillingAccount
  charges : List ChargeRow
  invoices : List (Invoice ID)
  payments : List PaymentTx
  generations : List (Generation ID)
  settlements : List (Settlement ID)

/-- An `abort` is a crash or a failed statement, `otherTransfer` another ledger call. -/
inductive BillingEvent where
  | tick (now : ℤ)
  | createAccount (id : String)
  | setStatus (id status : String)
  | beginPayment
  | accrue (k : ℕ) (charge : BillingCharge)
  | commitPayment (k : ℕ)
  | abortPayment (k : ℕ)
  | beginGeneration (accountID : String) (period : Option (ℤ × ℤ))
  | lockAdvisory (i : ℕ)
  | checkReplay (i : ℕ)
  | lockAccount (i : ℕ)
  | sweep (i : ℕ)
  | insert (i : ℕ)
  | commitGeneration (i : ℕ)
  | abortGeneration (i : ℕ)
  | beginSettlement (id : String)
  | load (j : ℕ)
  | transfer (j : ℕ) (r : Ledger.Replies)
  | update (j : ℕ)
  | commitSettlement (j : ℕ)
  | abortSettlement (j : ℕ)
  | otherTransfer (key : String) (op : LedgerOp) (amount : ℕ) (r : Ledger.Replies)

section Steps

variable {ID : Type} (cfg : Config ID) (s : BillingState ID)

/-! ### Locks -/

/-- The transaction holds the advisory lock of its account. -/
def GenPc.holdsAdvisory : GenPc ID → Bool
  | .locked | .checked | .rowLocked | .swept | .inserted _ => true
  | .begun | .committed _ | .done _ | .aborted => false

/-- The transaction has swept charges and not ended. -/
def GenPc.sweeping : GenPc ID → Bool
  | .swept | .inserted _ => true
  | _ => false

def GenPc.ended : GenPc ID → Bool
  | .committed _ | .done _ | .aborted => true
  | _ => false

def Generation.rowLock (g : Generation ID) : Option String :=
  match g.pc with
  | .rowLocked | .swept | .inserted _ => some g.accountID
  | _ => none

/-- The account row that the foreign key of the charge locks. -/
def PaymentTx.keyShare (p : PaymentTx) : Option String :=
  if p.ended then none else p.charge.map (·.billingAccountID)

/-- The invoice that the transaction has read and locked. -/
def SettlePc.invoice? : SettlePc ID → Option (Invoice ID)
  | .loaded v | .posted v _ | .updated v _ => some v
  | .begun | .done _ | .aborted => none

def Settlement.rowLock (c : Settlement ID) : Option String := c.pc.invoice?.map (·.id)

def SettlePc.ended : SettlePc ID → Bool
  | .done _ | .aborted => true
  | _ => false

/-! ### Accounts and charges -/

def BillingState.init (books : Books ID) : BillingState ID := ⟨0, books, [], [], [], [], [], []⟩

def BillingState.account? (id : String) : Option BillingAccount :=
  s.accounts.find? fun a => a.id = id

def BillingState.clearing? (id : String) : Option ℕ :=
  (s.account? id).map (·.ledgerAccountID)

/-- `COALESCE(MAX(ledger_account_id), 5000) + 1`. -/
def BillingState.nextClearing : ℕ :=
  (s.accounts.map (·.ledgerAccountID)).max?.getD 5000 + 1

def BillingState.createAccount (id : String) : Option (BillingState ID) :=
  if (s.account? id).isSome then none
  else some { s with accounts := s.accounts ++ [⟨id, s.nextClearing, "active"⟩] }

def BillingAccount.withStatus (id status : String) (a : BillingAccount) : BillingAccount :=
  if a.id = id then { a with status := status } else a

def BillingState.setPaymentTx (k : ℕ) (p : PaymentTx) : BillingState ID :=
  { s with payments := s.payments.set k p }

/-- The INSERT of a charge, with the table's checks.  It waits for a generation that has locked the
account row. -/
def BillingState.accrue (k : ℕ) (charge : BillingCharge) : Option (BillingState ID) :=
  s.payments[k]?.bind fun p =>
    if p.ended = false ∧ p.charge = none ∧ 0 < charge.amountMinor ∧
        (s.account? charge.billingAccountID).isSome ∧
        ∀ g ∈ s.generations, g.rowLock ≠ some charge.billingAccountID then
      some (s.setPaymentTx k { p with charge := some charge })
    else none

/-- What the transaction of a payment adds to the charges. -/
def PaymentTx.rows (p : PaymentTx) : List ChargeRow :=
  (p.charge.map fun c => ⟨c, p.startedAt, none, none⟩).toList

def BillingState.commitPayment (k : ℕ) : Option (BillingState ID) :=
  s.payments[k]?.bind fun p =>
    if p.ended then none
    else
      some ({ s with charges := s.charges ++ p.rows }.setPaymentTx k { p with ended := true })

def BillingState.abortPayment (k : ℕ) : Option (BillingState ID) :=
  s.payments[k]?.bind fun p =>
    if p.ended then none else some (s.setPaymentTx k { p with ended := true })

/-! ### GenerateInvoice -/

def BillingState.setGeneration (i : ℕ) (g : Generation ID) : BillingState ID :=
  { s with generations := s.generations.set i g }

def checkPeriod : Option (ℤ × ℤ) → GenPc ID
  | none => .done (.refuse 400 "body must include \"period_start\" and \"period_end\"")
  | some (start, stop) =>
    if stop ≤ start then .done (.refuse 400 "period_end must be after period_start") else .begun

def BillingState.beginGeneration (accountID : String)
    (period : Option (ℤ × ℤ)) : BillingState ID :=
  let bounds := period.getD (0, 0)
  { s with
    generations := s.generations ++ [⟨accountID, bounds.1, bounds.2, s.clock, checkPeriod period⟩] }

/-- `pg_advisory_xact_lock(hashtext('billing:' || account))`. -/
def BillingState.lockAdvisory (i : ℕ) : Option (BillingState ID) :=
  s.generations[i]?.bind fun g =>
    match g.pc with
    | .begun =>
      if ∀ d ∈ s.generations, d.pc.holdsAdvisory = true →
          cfg.hashtext ("billing:" ++ d.accountID) ≠ cfg.hashtext ("billing:" ++ g.accountID) then
        some (s.setGeneration i { g with pc := .locked })
      else none
    | _ => none

def Generation.Covers (g : Generation ID) (v : Invoice ID) : Prop :=
  v.billingAccountID = g.accountID ∧ v.periodStart = g.periodStart ∧ v.periodEnd = g.periodEnd
  deriving Decidable

/-- The replay check: an invoice of account and period is returned. -/
def BillingState.checkReplay (i : ℕ) : Option (BillingState ID) :=
  s.generations[i]?.bind fun g =>
    match g.pc with
    | .locked =>
      match s.invoices.find? fun v => g.Covers v with
      | some v => some (s.setGeneration i { g with pc := .done ⟨200, none, none, some v⟩ })
      | none => some (s.setGeneration i { g with pc := .checked })
    | _ => none

/-- `SELECT status … FOR UPDATE`, which waits for other generations and open payments. -/
def BillingState.lockAccount (i : ℕ) : Option (BillingState ID) :=
  s.generations[i]?.bind fun g =>
    match g.pc with
    | .checked =>
      match s.account? g.accountID with
      | none =>
        some (s.setGeneration i { g with pc := .done (.refuse 404 "billing account not found") })
      | some a =>
        if (∃ d ∈ s.generations, d.rowLock = some g.accountID) ∨
            ∃ p ∈ s.payments, p.keyShare = some g.accountID then none
        else if a.status ≠ "active" then
          some (s.setGeneration i
            { g with pc := .done (.refuse 422 ("billing account is " ++ a.status)) })
        else some (s.setGeneration i { g with pc := .rowLocked })
    | _ => none

def Generation.Finds (g : Generation ID) (c : ChargeRow) : Prop :=
  c.charge.billingAccountID = g.accountID ∧ c.invoiceID = none ∧ c.sweptBy = none ∧
    g.periodStart ≤ c.createdAt ∧ c.createdAt < g.periodEnd
  deriving Decidable

def ChargeRow.mark (g : Generation ID) (i : ℕ) (c : ChargeRow) : ChargeRow :=
  if g.Finds c then { c with sweptBy := some i } else c

/-- The change of the `i`th generation is undone. -/
def ChargeRow.release (i : ℕ) (c : ChargeRow) : ChargeRow :=
  if c.sweptBy = some i then { c with sweptBy := none } else c

/-- The change of the `i`th generation is committed. -/
def ChargeRow.assign (i : ℕ) (id : String) (c : ChargeRow) : ChargeRow :=
  if c.sweptBy = some i then { c with sweptBy := none, invoiceID := some id } else c

/-- `invoice_id` as the transaction of the `i`th generation sees it. -/
def ChargeRow.viewedBy (i : ℕ) (id : String) (c : ChargeRow) : Option String :=
  if c.sweptBy = some i then some id else c.invoiceID

def BillingState.sweep (i : ℕ) : Option (BillingState ID) :=
  s.generations[i]?.bind fun g =>
    match g.pc with
    | .rowLocked =>
      if ∃ c ∈ s.charges, g.Finds c then
        some ({ s with charges := s.charges.map (ChargeRow.mark g i) }.setGeneration i
          { g with pc := .swept })
      else
        some (s.setGeneration i
          { g with pc := .done (.refuse 422 "no uninvoiced charges in the period") })
    | _ => none

/-- The amounts of the charges that meet a condition. -/
def amounts (p : ChargeRow → Bool) (charges : List ChargeRow) : List ℤ :=
  (charges.filter p).map (·.charge.amountMinor)

namespace BillingState

/-- The end of a transaction that takes its sweep back. -/
def rollBack (i : ℕ) (g : Generation ID) (pc : GenPc ID) : BillingState ID :=
  { s with charges := s.charges.map (ChargeRow.release i) }.setGeneration i { g with pc := pc }

/-- The invoice that `INSERT … SELECT sum(amount_minor), count(*)` makes. -/
def newInvoice (i : ℕ) (g : Generation ID) : Invoice ID :=
  let found := amounts (fun c => c.viewedBy i (cfg.newID i) = some (cfg.newID i)) s.charges
  ⟨cfg.newID i, g.accountID, g.periodStart, g.periodEnd, found.sum, found.length, .issued, none,
    g.startedAt⟩

/-- The INSERT, with the unique index and the ranges of the columns. -/
def insertInvoice (i : ℕ) : Option (BillingState ID) :=
  s.generations[i]?.bind fun g =>
    match g.pc with
    | .swept =>
      let v := s.newInvoice cfg i g
      if (∃ w ∈ s.invoices, g.Covers w) ∨ ¬ InInt64 v.amountMinor ∨ 2 ^ 31 ≤ v.chargeCount then
        some (s.rollBack i g .aborted)
      else some (s.setGeneration i { g with pc := .inserted v })
    | _ => none

def commitGeneration (i : ℕ) : Option (BillingState ID) :=
  s.generations[i]?.bind fun g =>
    match g.pc with
    | .inserted v =>
      some ({ s with
        charges := s.charges.map (ChargeRow.assign i v.id)
        invoices := s.invoices ++ [v] }.setGeneration i { g with pc := .committed v })
    | _ => none

def abortGeneration (i : ℕ) : Option (BillingState ID) :=
  s.generations[i]?.bind fun g => if g.pc.ended then none else some (s.rollBack i g .aborted)

/-! ### PayInvoice -/

def setSettlement (j : ℕ) (c : Settlement ID) : BillingState ID :=
  { s with settlements := s.settlements.set j c }

/-- `SELECT … FOR UPDATE` and the checks of the status. -/
def load (j : ℕ) : Option (BillingState ID) :=
  s.settlements[j]?.bind fun c =>
    match c.pc with
    | .begun =>
      if ∃ d ∈ s.settlements, d.rowLock = some c.invoiceID then none
      else
        let pc := match s.invoices.find? fun v => v.id = c.invoiceID with
          | none => .done (.refuse 404 "invoice not found")
          | some v =>
            match v.status with
            | .paid => .done ⟨200, none, none, some v⟩
            | .issued => .loaded v
            | .void =>
              .done (.refuse 409
                ("only issued invoices can be paid (status " ++ v.status.text ++ ")"))
        some (s.setSettlement j { c with pc := pc })
    | _ => none

end BillingState

/-- What `PayInvoice` makes of the answer of the ledger. -/
def settleResult (v : Invoice ID) : Except Ledger.LedgerError ID → SettlePc ID
  | .ok id => .posted v id
  | .error e =>
    if e.insufficientFunds then
      .done ⟨402, some "insufficient_funds",
        some ("corporate clearing account is not funded for this invoice; " ++
          "record the external settlement first"), some v⟩
    else .done (.refuse 500 "internal error")

/-- The text behind the transfer id of an invoice. -/
def invoiceKey (id : String) : String := "invoice:" ++ id

def Invoice.request (v : Invoice ID) (clearing : ℕ) : Ledger.Request ID :=
  (LedgerOp.invoice clearing).request (cfg.tid (invoiceKey v.id)) v.amountMinor.toNat

/-- `UPDATE … SET status = 'paid' … WHERE id = $1 AND status = 'issued'`. -/
def Invoice.pay (id : String) (transferID : ID) (v : Invoice ID) : Invoice ID :=
  if v.id = id ∧ v.status = .issued then
    { v with status := .paid, tbTransferID := some transferID }
  else v

def BillingState.update (j : ℕ) : Option (BillingState ID) :=
  s.settlements[j]?.bind fun c =>
    match c.pc with
    | .posted v id =>
      if ∃ w ∈ s.invoices, w.id = v.id ∧ w.status = .issued then
        some (s.setSettlement j { c with pc := .updated v id })
      else
        some (s.setSettlement j { c with
            pc := .done ⟨409, some "invoice was concurrently settled; current state returned", none,
              s.invoices.find? fun w => w.id = v.id⟩ })
    | _ => none

def BillingState.commitSettlement (j : ℕ) : Option (BillingState ID) :=
  s.settlements[j]?.bind fun c =>
    match c.pc with
    | .updated v id =>
      some ({ s with invoices := s.invoices.map (Invoice.pay v.id id) }.setSettlement j
        { c with pc := .done ⟨200, none, none, some (v.pay v.id id)⟩ })
    | _ => none

def BillingState.abortSettlement (j : ℕ) : Option (BillingState ID) :=
  s.settlements[j]?.bind fun c =>
    if c.pc.ended then none else some (s.setSettlement j { c with pc := .aborted })

variable [DecidableEq ID]

/-- The ledger call, from the clearing account of the invoice. -/
def BillingState.settle (j : ℕ) (r : Ledger.Replies) : Option (BillingState ID) :=
  s.settlements[j]?.bind fun c =>
    match c.pc with
    | .loaded v =>
      match s.clearing? v.billingAccountID with
      | none => some (s.setSettlement j { c with pc := .done (.refuse 500 "internal error") })
      | some clearing =>
        let q := v.request cfg clearing
        (Ledger.transfer s.books q.id q.debit q.credit q.amount q.code r).map fun res =>
          { s with books := res.1 }.setSettlement j { c with pc := settleResult v res.2 }
    | _ => none

/-- The ledger call of another operation, under any text. -/
def BillingState.otherTransfer (key : String) (op : LedgerOp) (amount : ℕ)
    (r : Ledger.Replies) : Option (BillingState ID) :=
  let q := op.request (cfg.tid key) amount
  if q.code = Ledger.codeBilling then none
  else
    (Ledger.transfer s.books q.id q.debit q.credit q.amount q.code r).map fun res =>
      { s with books := res.1 }

def BillingState.step (s : BillingState ID) : BillingEvent → Option (BillingState ID)
  | .tick now => if s.clock ≤ now then some { s with clock := now } else none
  | .createAccount id => s.createAccount id
  | .setStatus id status =>
    some { s with accounts := s.accounts.map (BillingAccount.withStatus id status) }
  | .beginPayment => some { s with payments := s.payments ++ [⟨s.clock, none, false⟩] }
  | .accrue k charge => s.accrue k charge
  | .commitPayment k => s.commitPayment k
  | .abortPayment k => s.abortPayment k
  | .beginGeneration accountID period => some (s.beginGeneration accountID period)
  | .lockAdvisory i => s.lockAdvisory cfg i
  | .checkReplay i => s.checkReplay i
  | .lockAccount i => s.lockAccount i
  | .sweep i => s.sweep i
  | .insert i => s.insertInvoice cfg i
  | .commitGeneration i => s.commitGeneration i
  | .abortGeneration i => s.abortGeneration i
  | .beginSettlement id => some { s with settlements := s.settlements ++ [⟨id, .begun⟩] }
  | .load j => s.load j
  | .transfer j r => s.settle cfg j r
  | .update j => s.update j
  | .commitSettlement j => s.commitSettlement j
  | .abortSettlement j => s.abortSettlement j
  | .otherTransfer key op amount r => s.otherTransfer cfg key op amount r

end Steps

end H2Fleet.Commerce
