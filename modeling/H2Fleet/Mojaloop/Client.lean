import H2Fleet.Core.Backoff
import H2Fleet.Core.Run
import H2Fleet.Commerce.Fare

/-!
# The payer flow over Mojaloop

`mojaloop/client.go`: `New`, the retry loop of `do`, and the three steps of `Transfer` — payee
lookup, quote, transfer — with the checks that follow each.  One step of a `Flow` is one HTTP
attempt with whatever the network made of it, and the sleep after it if `do` tries again.

Hashing, ILP packets, time formats and JSON are in `Platform`; nanoseconds are integers.
-/

namespace H2Fleet.Mojaloop

open Commerce (ErrorKind MojaloopError)

def millisecond : ℤ := 1000000

def second : ℤ := 1000000000

/-! ## The configuration -/

structure Config where
  endpoint : String
  dfspID : String
  payeePartyID : String
  payeePartyType : String
  secret : String
  generateILP : Bool
  attemptTimeout : ℤ
  retryBudget : ℤ

/-- A configuration that `New` accepted, with its defaults. -/
structure Client extends Config where
  attemptTimeout_pos : 0 < attemptTimeout
  attemptTimeout_le : attemptTimeout ≤ retryBudget

def orDefault (text fallback : String) : String := if text = "" then fallback else text

/-- `strings.TrimRight(s, "/")`. -/
def trimSlashes (s : String) : String :=
  String.ofList (s.toList.reverse.dropWhile fun ch => ch = '/').reverse

def Config.attemptTimeoutOrDefault (cfg : Config) : ℤ :=
  if cfg.attemptTimeout ≤ 0 then 10 * second else cfg.attemptTimeout

def Config.retryBudgetOrDefault (cfg : Config) : ℤ :=
  if cfg.retryBudget ≤ 0 then 30 * second else cfg.retryBudget

lemma Config.attemptTimeoutOrDefault_pos (cfg : Config) : 0 < cfg.attemptTimeoutOrDefault := by
  rw [Config.attemptTimeoutOrDefault]
  split_ifs with h
  · decide
  · exact not_le.mp h

def new (cfg : Config) : Except String Client :=
  if trimSlashes cfg.endpoint = "" then .error "mojaloop: Endpoint is required"
  else
    .ok {
      endpoint := trimSlashes cfg.endpoint
      dfspID := orDefault cfg.dfspID "h2fleet"
      payeePartyID := orDefault cfg.payeePartyID "h2fleet-operator"
      payeePartyType := orDefault cfg.payeePartyType "BUSINESS"
      secret := cfg.secret
      generateILP := cfg.generateILP
      attemptTimeout := cfg.attemptTimeoutOrDefault
      retryBudget := max cfg.retryBudgetOrDefault cfg.attemptTimeoutOrDefault
      attemptTimeout_pos := cfg.attemptTimeoutOrDefault_pos
      attemptTimeout_le := le_max_right _ _
    }

/-! ## Payloads -/

structure Money where
  amount : String
  currency : String

/-- `minorToMajor`; the amounts of the flow are positive. -/
def minorToMajor (minor : ℤ) : String :=
  let n := minor.natAbs
  let cents := (n % 100).repr
  (if minor < 0 then "-" else "") ++ (n / 100).repr ++ "." ++
    (if cents.length < 2 then "0" ++ cents else cents)

/-- `Party`, and what `GET /parties` decodes to. -/
structure Party where
  fspID : String
  name : String

structure PartyIDInfo where
  partyIDType : String
  partyID : String

structure QuoteRequest where
  quoteID : String
  transactionID : String
  payee : PartyIDInfo
  payer : PartyIDInfo
  amountType : String
  amount : Money
  scenario : String
  initiator : String
  initiatorType : String
  expiration : String

structure QuoteResponse where
  transferAmount : Money
  payeeFSP : String
  payerFSP : String
  expiration : String
  ilpPacket : String
  condition : String

structure TransferRequest where
  transferID : String
  payeeFSP : String
  payerFSP : String
  amount : Money
  ilpPacket : String
  condition : String
  expiration : String

structure TransferResponse where
  transferID : String
  transferState : String
  fulfilment : String
  completedTimestamp : String

structure PaymentRequest where
  idempotencyKey : String
  payerPartyID : String
  payerPartyType : String
  amountMinor : ℤ
  currency : String

structure Result where
  transferID : String
  transferState : String
  payeeFSPID : String
  quoteID : String
  fulfilmentVerified : Bool

/-- The UUID text of a SHA-256, the RFC 3339 times, the ILP packets, the comparison of currencies,
and JSON. `errorCode` is the FSPIOP code, or empty. -/
structure Platform where
  uuidOf : String → String
  formatTime : ℤ → String
  parseTime : String → Option ℤ
  buildILP : String → String → ℤ → ℤ → String × String
  verifyFulfilment : String → String → Bool
  equalFold : String → String → Bool
  decodeParties : String → Except String Party
  decodeQuote : String → Except String QuoteResponse
  decodeTransfer : String → Except String TransferResponse
  errorCode : String → String

def Platform.deterministicID (p : Platform) (scope key : String) : String :=
  p.uuidOf ("h2fleet:mojaloop:" ++ scope ++ ":" ++ key)

def Platform.transferID (p : Platform) (req : PaymentRequest) : String :=
  p.deterministicID "transfer" req.idempotencyKey

def Platform.quoteID (p : Platform) (req : PaymentRequest) : String :=
  p.deterministicID "quote" req.idempotencyKey

/-! ## One attempt -/

inductive Call where
  | parties (partyType partyID : String)
  | quotes (q : QuoteRequest)
  | transfers (t : TransferRequest)

/-- Method and path. -/
def Call.op : Call → String
  | .parties partyType partyID => "GET /parties/" ++ partyType ++ "/" ++ partyID
  | .quotes _ => "POST /quotes"
  | .transfers _ => "POST /transfers"

/-- No request was built, no response came, or one came, with the part of the body that was read. -/
inductive Outcome where
  | unbuilt (text : String)
  | failed (text : String)
  | answered (status : ℕ) (body : String)

/-- How long an attempt took, whether the caller's context was cancelled, and the outcome. -/
structure Attempt where
  elapsed : ℤ
  cancelled : Bool
  outcome : Outcome

def isRetryableStatus (code : ℕ) : Bool := code = 408 || code = 429 || decide (500 ≤ code)

def classify (call : Call) (status : ℕ) (code : String) : ErrorKind :=
  if code = "3208" then .duplicate
  else
    match call with
    | .parties _ _ => .payeeNotFound
    | .quotes _ => if 500 ≤ status then .unavailable else .quoteRejected
    | .transfers _ => if 500 ≤ status then .unavailable else .transferRejected

/-- `truncate`, by characters. -/
def truncate (s : String) (n : ℕ) : String :=
  if n < s.length then String.ofList (s.toList.take n) ++ "…" else s

def maxBackoff : ℤ := 2 * second

def firstBackoff : ℤ := 100 * millisecond

/-- The variables of `do` at its start; `ctx` is the deadline of the caller's context. -/
def beginDo (c : Client) (ctx : Option ℤ) (now : ℤ) : Loop where
  deadline :=
    match ctx with
    | none => now + c.retryBudget
    | some d => if d < now + c.retryBudget then d else now + c.retryBudget
  backoff := firstBackoff

/-- How long an attempt that starts at `now` can take. -/
def attemptLimit (c : Client) (ctx : Option ℤ) (now : ℤ) : ℤ :=
  match ctx with
  | none => c.attemptTimeout
  | some d => min c.attemptTimeout (max 0 (d - now))

def expired (ctx : Option ℤ) (now : ℤ) : Bool :=
  match ctx with
  | none => false
  | some d => decide (d ≤ now)

/-- A 2xx answer in `do`. -/
def unmarshal {α : Type} (call : Call) (decode : String → Except String α) (zero : α) (status : ℕ)
    (body : String) : Except MojaloopError α :=
  if body = "" then .ok zero
  else
    match decode body with
    | .ok out => .ok out
    | .error text => .error ⟨call.op, .unavailable, status, "invalid JSON from switch: " ++ text⟩

/-- The loop of `do` from the answer on; `live`: the caller's context is, `timedOut`: the attempt's
is past its deadline.  `none`: sleep and try again. -/
def attemptEnd {α : Type} (p : Platform) (call : Call) (decode : String → Except String α)
    (zero : α)
    (l : Loop) (now : ℤ) (live timedOut : Bool) : Outcome → Option (Except MojaloopError α)
  | .unbuilt text => some (.error ⟨call.op, .validation, 0, text⟩)
  | .failed text =>
    if live = true ∧ l.MayRetry now then none
    else some (.error ⟨call.op, if timedOut then .timeout else .unavailable, 0, text⟩)
  | .answered status body =>
    if 200 ≤ status ∧ status < 300 then some (unmarshal call decode zero status body)
    else if status = 409 then some (.error ⟨call.op, .duplicate, status, body⟩)
    else if isRetryableStatus status = true ∧ l.MayRetry now ∧ live = true then none
    else some (.error ⟨call.op, classify call status (p.errorCode body), status, truncate body 512⟩)

/-! ## The three steps -/

/-- `GetParty` behind `do`. -/
def getPartyEnd : Except MojaloopError Party → Except MojaloopError Party
  | .error e => .error e
  | .ok party =>
    if party.fspID = "" then
      .error ⟨"GET /parties", .payeeNotFound, 0, "party resolved without an fspId"⟩
    else .ok party

def quoteRequest (c : Client) (p : Platform) (req : PaymentRequest) (now : ℤ) : QuoteRequest where
  quoteID := p.quoteID req
  transactionID := p.transferID req
  payee := ⟨c.payeePartyType, c.payeePartyID⟩
  payer := ⟨orDefault req.payerPartyType "ALIAS", req.payerPartyID⟩
  amountType := "SEND"
  amount := ⟨minorToMajor req.amountMinor, req.currency⟩
  scenario := "PAYMENT"
  initiator := "PAYER"
  initiatorType := "CONSUMER"
  expiration := p.formatTime (now + 120 * second)

/-- `RequestQuote` behind `do`. -/
def requestQuoteEnd (p : Platform) (req : PaymentRequest) :
    Except MojaloopError QuoteResponse → Except MojaloopError QuoteResponse
  | .error e => .error e
  | .ok quote =>
    if quote.transferAmount.currency ≠ "" ∧
        p.equalFold quote.transferAmount.currency req.currency = false then
      .error ⟨"POST /quotes", .quoteRejected, 0, "quote currency mismatch: asked " ++
        req.currency ++ ", got " ++ quote.transferAmount.currency⟩
    else .ok quote

def ilpOf (c : Client) (p : Platform) (req : PaymentRequest) (quote : QuoteResponse) (now : ℤ) :
    String × String :=
  if quote.ilpPacket = "" ∨ quote.condition = "" ∨ c.generateILP = true then
    let expiry :=
      if quote.expiration = "" then now + 120 * second
      else (p.parseTime quote.expiration).getD (now + 120 * second)
    p.buildILP (p.transferID req) c.secret req.amountMinor expiry
  else (quote.ilpPacket, quote.condition)

def transferRequest (c : Client) (p : Platform) (req : PaymentRequest) (payee : Party)
    (quote : QuoteResponse) (now : ℤ) : TransferRequest where
  transferID := p.transferID req
  payeeFSP := payee.fspID
  payerFSP := c.dfspID
  amount := ⟨minorToMajor req.amountMinor, req.currency⟩
  ilpPacket := (ilpOf c p req quote now).1
  condition := (ilpOf c p req quote now).2
  expiration := p.formatTime (now + 120 * second)

/-- `SendTransfer` behind `do`. -/
def sendTransferEnd (p : Platform) (t : TransferRequest) :
    Except MojaloopError TransferResponse → Except MojaloopError TransferResponse
  | .error e => if e.kind = .duplicate then .ok ⟨t.transferID, "COMMITTED", "", ""⟩ else .error e
  | .ok out =>
    if out.transferState = "ABORTED" then
      .error ⟨"POST /transfers", .transferRejected, 0, "transfer aborted by switch"⟩
    else if out.fulfilment ≠ "" ∧ t.condition ≠ "" ∧
        p.verifyFulfilment out.fulfilment t.condition = false then
      .error ⟨"POST /transfers", .transferRejected, 0, "fulfilment does not satisfy condition"⟩
    else .ok { out with transferID := orDefault out.transferID t.transferID }

def resultOf (p : Platform) (req : PaymentRequest) (payee : Party) (tr : TransferResponse) :
    Result where
  transferID := tr.transferID
  transferState := tr.transferState
  payeeFSPID := payee.fspID
  quoteID := p.quoteID req
  fulfilmentVerified := decide (tr.fulfilment ≠ "")

/-! ## The flow -/

/-- Where `Transfer` stands: in the loop of one of its requests, or returned. -/
inductive Phase where
  | getParty (l : Loop)
  | requestQuote (payee : Party) (q : QuoteRequest) (l : Loop)
  | sendTransfer (payee : Party) (t : TransferRequest) (l : Loop)
  | returned (r : Except MojaloopError Result)

open Phase

structure Flow where
  now : ℤ
  phase : Phase

/-- `Transfer` up to its first request. -/
def enter (c : Client) (req : PaymentRequest) (ctx : Option ℤ) (now : ℤ) : Flow where
  now := now
  phase :=
    if req.idempotencyKey = "" then
      .returned (.error ⟨"Transfer", .validation, 0, "idempotency key is required"⟩)
    else if req.amountMinor ≤ 0 then
      .returned (.error ⟨"Transfer", .validation, 0, "amount must be positive"⟩)
    else if req.currency = "" then
      .returned (.error ⟨"Transfer", .validation, 0, "currency is required"⟩)
    else .getParty (beginDo c ctx now)

section Steps

variable (c : Client) (p : Platform) (req : PaymentRequest) (ctx : Option ℤ)

def afterGetParty (now : ℤ) : Except MojaloopError Party → Phase
  | .error e => .returned (.error e)
  | .ok payee => .requestQuote payee (quoteRequest c p req now) (beginDo c ctx now)

def afterRequestQuote (payee : Party) (now : ℤ) : Except MojaloopError QuoteResponse → Phase
  | .error e => .returned (.error e)
  | .ok quote => .sendTransfer payee (transferRequest c p req payee quote now) (beginDo c ctx now)

def afterSendTransfer (payee : Party) : Except MojaloopError TransferResponse → Phase
  | .error e => .returned (.error e)
  | .ok tr => .returned (.ok (resultOf p req payee tr))

def Phase.call : Phase → Option Call
  | .getParty _ => some (.parties c.payeePartyType c.payeePartyID)
  | .requestQuote _ q _ => some (.quotes q)
  | .sendTransfer _ t _ => some (.transfers t)
  | .returned _ => none

def Phase.loop : Phase → Option Loop
  | .getParty l | .requestQuote _ _ l | .sendTransfer _ _ l => some l
  | .returned _ => none

def Phase.withLoop : Phase → Loop → Phase
  | .getParty _, l => .getParty l
  | .requestQuote payee q _, l => .requestQuote payee q l
  | .sendTransfer payee t _, l => .sendTransfer payee t l
  | .returned r, _ => .returned r

/-- Where a call stands after an attempt ended at `now`; `none` if it tries again. -/
def Phase.ended (phase : Phase) (now : ℤ) (live timedOut : Bool) (o : Outcome) : Option Phase :=
  match phase with
  | .getParty l =>
    (attemptEnd p (.parties c.payeePartyType c.payeePartyID) p.decodeParties ⟨"", ""⟩ l now live
      timedOut o).map fun r => afterGetParty c p req ctx now (getPartyEnd r)
  | .requestQuote payee q l =>
    (attemptEnd p (.quotes q) p.decodeQuote ⟨⟨"", ""⟩, "", "", "", "", ""⟩ l now live
      timedOut o).map fun r => afterRequestQuote c p req ctx payee now (requestQuoteEnd p req r)
  | .sendTransfer payee t l =>
    (attemptEnd p (.transfers t) p.decodeTransfer ⟨"", "", "", ""⟩ l now live
      timedOut o).map fun r => afterSendTransfer p req payee (sendTransferEnd p t r)
  | .returned r => some (.returned r)

/-- One attempt, and the sleep behind it if the loop goes on. -/
def Flow.step (s : Flow) (a : Attempt) : Option Flow :=
  if 0 ≤ a.elapsed ∧ a.elapsed ≤ attemptLimit c ctx s.now then
    s.phase.loop.map fun l =>
      let now := s.now + a.elapsed
      let live := !(a.cancelled || expired ctx now)
      let timedOut := !a.cancelled && decide (a.elapsed = attemptLimit c ctx s.now)
      match s.phase.ended c p req ctx now live timedOut a.outcome with
      | none => ⟨now + l.backoff, s.phase.withLoop (l.next maxBackoff)⟩
      | some phase => ⟨now, phase⟩
  else none

end Steps

/-! ## What one attempt does -/

lemma beginDo_deadline_le (c : Client) (ctx : Option ℤ) (now : ℤ) :
    (beginDo c ctx now).deadline ≤ now + c.retryBudget := by
  cases ctx with
  | none => exact le_rfl
  | some d =>
    show (if d < now + c.retryBudget then d else now + c.retryBudget) ≤ now + c.retryBudget
    split_ifs with h
    · exact h.le
    · exact le_rfl

lemma attemptLimit_le (c : Client) (ctx : Option ℤ) (now : ℤ) :
    attemptLimit c ctx now ≤ c.attemptTimeout := by
  cases ctx with
  | none => exact le_rfl
  | some d => exact min_le_left _ _

variable {l : Loop} {live timedOut : Bool} {o : Outcome}

/-- How many of the three requests a call has still to complete. -/
def Phase.remaining : Phase → ℕ
  | .getParty _ => 3
  | .requestQuote _ _ _ => 2
  | .sendTransfer _ _ _ => 1
  | .returned _ => 0

@[simp] lemma Phase.remaining_withLoop (phase : Phase) (l : Loop) :
    (phase.withLoop l).remaining = phase.remaining := by
  cases phase <;> rfl

variable {phase : Phase}

lemma Phase.loop_withLoop (h : phase.loop = some l) (l' : Loop) :
    (phase.withLoop l').loop = some l' := by
  cases phase with
  | returned r => simp [loop] at h
  | getParty | requestQuote | sendTransfer => rfl

lemma Phase.remaining_pos (h : phase.loop = some l) : 0 < phase.remaining := by
  cases phase with
  | returned r => simp [loop] at h
  | getParty | requestQuote | sendTransfer => exact Nat.succ_pos _

section Cases

variable (c : Client) (p : Platform) (req : PaymentRequest) (ctx : Option ℤ)

lemma afterSendTransfer_returned (payee : Party) (r : Except MojaloopError TransferResponse) :
    ∃ res, afterSendTransfer p req payee r = .returned res := by
  cases r with
  | error e => exact ⟨_, rfl⟩
  | ok tr => exact ⟨_, rfl⟩

variable {c p req ctx}

lemma Phase.ended_eq_none {now : ℤ} (hl : phase.loop = some l)
    (h : phase.ended c p req ctx now live timedOut o = none) : live = true ∧ l.MayRetry now := by
  cases phase with
  | getParty l' | requestQuote payee q l' | sendTransfer payee t l' =>
    simp only [loop] at hl
    cases hl
    simp only [ended, Option.map_eq_none_iff] at h
    cases o with
    | unbuilt text => simp [attemptEnd] at h
    | failed text =>
      simp only [attemptEnd] at h
      split_ifs at h with hretry
      exact hretry
    | answered status body =>
      simp only [attemptEnd] at h
      split_ifs at h with h2xx hconflict hretry
      exact ⟨hretry.2.2, hretry.2.1⟩
  | returned r => simp [loop] at hl

/-- A request not tried again leaves fewer to complete; the next has its own deadline. -/
lemma Phase.ended_eq_some {phase phase' : Phase} {now : ℤ} (hl : phase.loop = some l)
    (h : phase.ended c p req ctx now live timedOut o = some phase') :
    phase'.remaining < phase.remaining ∧ ∀ l', phase'.loop = some l' → l' = beginDo c ctx now := by
  cases phase with
  | getParty l' =>
    simp only [ended, Option.map_eq_some_iff] at h
    obtain ⟨r, -, rfl⟩ := h
    cases getPartyEnd r with
    | error e => exact ⟨Nat.succ_pos _, nofun⟩
    | ok payee => exact ⟨Nat.lt_succ_self _, fun l hl => (Option.some.inj hl).symm⟩
  | requestQuote payee q l' =>
    simp only [ended, Option.map_eq_some_iff] at h
    obtain ⟨r, -, rfl⟩ := h
    cases requestQuoteEnd p req r with
    | error e => exact ⟨Nat.succ_pos _, nofun⟩
    | ok quote => exact ⟨Nat.lt_succ_self _, fun l hl => (Option.some.inj hl).symm⟩
  | sendTransfer payee t l' =>
    simp only [ended, Option.map_eq_some_iff] at h
    obtain ⟨r, -, rfl⟩ := h
    obtain ⟨res, hres⟩ := afterSendTransfer_returned p req payee (sendTransferEnd p t r)
    rw [hres]
    exact ⟨Nat.zero_lt_one, fun l hl => by simp [loop] at hl⟩
  | returned r => simp [loop] at hl

inductive Stepped (c : Client) (ctx : Option ℤ) (s : Flow) (a : Attempt) : Flow → Prop where
  | retried (l : Loop) : s.phase.loop = some l → l.MayRetry (s.now + a.elapsed) →
      Stepped c ctx s a ⟨s.now + a.elapsed + l.backoff, s.phase.withLoop (l.next maxBackoff)⟩
  | ended (l : Loop) (phase : Phase) : s.phase.loop = some l → phase.remaining < s.phase.remaining →
      (∀ l', phase.loop = some l' → l' = beginDo c ctx (s.now + a.elapsed)) →
      Stepped c ctx s a ⟨s.now + a.elapsed, phase⟩

/-- One attempt: the loop goes on, or the step ends with the outcome. -/
lemma step_ended {s s' : Flow} {a : Attempt} (h : s.step c p req ctx a = some s') :
    (0 ≤ a.elapsed ∧ a.elapsed ≤ attemptLimit c ctx s.now) ∧ ∃ l live timedOut,
    s.phase.loop = some l ∧
        ((s.phase.ended c p req ctx (s.now + a.elapsed) live timedOut a.outcome = none ∧
            s' = ⟨s.now + a.elapsed + l.backoff, s.phase.withLoop (l.next maxBackoff)⟩) ∨
          (s.phase.ended c p req ctx (s.now + a.elapsed) live timedOut a.outcome = some s'.phase ∧
            s'.now = s.now + a.elapsed)) := by
  rw [Flow.step] at h
  split_ifs at h with hlimit
  obtain ⟨l, hl, h⟩ := Option.map_eq_some_iff.mp h
  simp only at h
  split at h
  · next hnone => exact ⟨hlimit, l, _, _, hl, .inl ⟨hnone, h.symm⟩⟩
  · next phase hsome =>
      subst h
      exact ⟨hlimit, l, _, _, hl, .inr ⟨hsome, rfl⟩⟩

/-- **What one attempt does.** -/
theorem step_cases {s s' : Flow} {a : Attempt} (h : s.step c p req ctx a = some s') :
    (0 ≤ a.elapsed ∧ a.elapsed ≤ attemptLimit c ctx s.now) ∧ Stepped c ctx s a s' := by
  obtain ⟨hlimit, l, live, timedOut, hl, ⟨hnone, rfl⟩ | ⟨hsome, hnow⟩⟩ := step_ended h
  · exact ⟨hlimit, .retried l hl (ended_eq_none hl hnone).2⟩
  · obtain ⟨hrem, hloop⟩ := ended_eq_some hl hsome
    obtain ⟨now, phase⟩ := s'
    obtain rfl : now = s.now + a.elapsed := hnow
    exact ⟨hlimit, .ended l phase hl hrem hloop⟩

end Cases

/-! ## A client to compute with -/

/-- A platform for the examples: a JSON body is its own text. -/
def plainPlatform : Platform where
  uuidOf := fun text => text
  formatTime := fun t => t.repr
  parseTime := fun _ => none
  buildILP := fun id secret amount expiry =>
    (id ++ ":" ++ amount.repr ++ ":" ++ expiry.repr, secret ++ ":" ++ id)
  verifyFulfilment := fun fulfilment condition => fulfilment = condition
  equalFold := fun a b => a = b
  decodeParties := fun body => .ok ⟨body, "Operator"⟩
  decodeQuote := fun body => .ok ⟨⟨"2.50", "EUR"⟩, body, "h2fleet", "", "", ""⟩
  decodeTransfer := fun body => .ok ⟨"", body, "", ""⟩
  errorCode := fun body => body

/-- The settings of `mojaloopTransfer`. -/
def handlerConfig : Config where
  endpoint := "http://mojaloop-simulator:8444"
  dfspID := ""
  payeePartyID := ""
  payeePartyType := ""
  secret := ""
  generateILP := false
  attemptTimeout := 8 * second
  retryBudget := 20 * second

def handlerClient : Client where
  toConfig := ⟨"http://mojaloop-simulator:8444", "h2fleet", "h2fleet-operator", "BUSINESS",
    "", false, 8 * second, 20 * second⟩
  attemptTimeout_pos := by decide
  attemptTimeout_le := by decide

def somePayment : PaymentRequest := ⟨"fare-1", "alice", "", 250, "EUR"⟩

end H2Fleet.Mojaloop
