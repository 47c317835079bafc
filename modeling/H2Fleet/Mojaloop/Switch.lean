import H2Fleet.Mojaloop.Client

/-!
# A switch that keeps its records

A switch that records each quote id and each transfer id once, and answers a repeat as a duplicate.
The network decides for every attempt whether it reaches the switch and what comes back (`Fate`).
Calls of `Transfer` for one payment follow each other: a call returns or its process crashes, and
another one may start.
-/

namespace H2Fleet.Mojaloop

open Option
open Commerce (ErrorKind MojaloopError)

/-! ## The switch -/

inductive TransferState where
  | committed
  | received
  | reserved
  | aborted
  deriving DecidableEq

def TransferState.text : TransferState → String
  | .committed => "COMMITTED"
  | .received => "RECEIVED"
  | .reserved => "RESERVED"
  | .aborted => "ABORTED"

lemma TransferState.text_eq_aborted {st : TransferState} : st.text = "ABORTED" ↔ st = .aborted := by
  cases st <;> decide

/-- What the switch decided on a transfer id. -/
structure Record where
  transferID : String
  state : TransferState

structure Switch where
  quotes : List String
  transfers : List Record

def Switch.Knows (s : Switch) (id : String) : Prop := ∃ r ∈ s.transfers, r.transferID = id
  deriving Decidable

def Switch.Aborted (s : Switch) (id : String) : Prop :=
  ∃ r ∈ s.transfers, r.transferID = id ∧ r.state = .aborted
  deriving Decidable

def Switch.UniqueIDs (s : Switch) : Prop := (s.transfers.map Record.transferID).Nodup

structure Answer where
  status : ℕ
  body : String

def Answer.Accepted (a : Answer) : Prop := 200 ≤ a.status ∧ a.status < 300

/-- 409, or a rejection with the FSPIOP code of a duplicate. -/
def Answer.Duplicate (p : Platform) (a : Answer) : Prop :=
  a.status = 409 ∨ (¬ a.Accepted ∧ isRetryableStatus a.status = false ∧ p.errorCode a.body = "3208")

/-- How the switch words its answers; the first argument chooses the wording. -/
structure Scheme where
  party : ℕ → Answer
  quote : ℕ → QuoteRequest → Answer
  quoteAgain : ℕ → QuoteRequest → Answer
  transfer : ℕ → TransferRequest → TransferState → Answer
  transferAgain : ℕ → TransferRequest → Answer
  trouble : ℕ → String

/-- What the switch does with a request; a new transfer is decided as `decision`. -/
def Switch.handle (w : Scheme) (wording : ℕ) (decision : TransferState) (s : Switch) :
    Call → Switch × Answer
  | .parties _ _ => (s, w.party wording)
  | .quotes q =>
    if q.quoteID ∈ s.quotes then (s, w.quoteAgain wording q)
    else ({ s with quotes := s.quotes ++ [q.quoteID] }, w.quote wording q)
  | .transfers t =>
    if s.Knows t.transferID then (s, w.transferAgain wording t)
    else ({ s with transfers := s.transfers ++ [⟨t.transferID, decision⟩] },
      w.transfer wording t decision)

lemma Switch.handle_transfers (w : Scheme) (v : ℕ) (st : TransferState) (s : Switch)
    (t : TransferRequest) :
    (s.Knows t.transferID ∧ s.handle w v st (.transfers t) = (s, w.transferAgain v t)) ∨
      (¬ s.Knows t.transferID ∧ s.handle w v st (.transfers t) =
        ({ s with transfers := s.transfers ++ [⟨t.transferID, st⟩] }, w.transfer v t st)) := by
  simp only [Switch.handle]
  split_ifs with h
  · exact .inl ⟨h, rfl⟩
  · exact .inr ⟨h, rfl⟩

/-- The request is lost, the response is lost, the switch has trouble, the body of the response is
lost, or the attempt gets through. -/
inductive Delivery where
  | unreached (text : String)
  | lost (text : String)
  | trouble (handled : Bool) (status : ℕ)
  | bodyLost
  | through
  deriving DecidableEq

def Delivery.Possible : Delivery → Prop
  | .trouble _ status => isRetryableStatus status = true
  | _ => True

instance (d : Delivery) : Decidable d.Possible := by
  unfold Delivery.Possible; split <;> infer_instance

structure Fate where
  elapsed : ℤ
  cancelled : Bool
  wording : ℕ
  decision : TransferState
  delivery : Delivery

def Fate.exchange (w : Scheme) (f : Fate) (s : Switch) (call : Call) : Switch × Outcome :=
  let (s', answer) := s.handle w f.wording f.decision call
  match f.delivery with
  | .unreached text => (s, .failed text)
  | .lost text => (s', .failed text)
  | .trouble handled status =>
    (if handled then s' else s, .answered status (w.trouble f.wording))
  | .bodyLost => (s', .answered answer.status "")
  | .through => (s', .answered answer.status answer.body)

/-! ## Calls of `Transfer`, one after another -/

/-- The switch and the last call.  `through`: the last attempts of its steps got through. -/
structure System where
  switch : Switch
  flow : Option Flow
  ctx : Option ℤ
  through : Bool

inductive Event where
  | start (now : ℤ) (ctx : Option ℤ)
  | attempt (f : Fate)
  | crash

def System.init (switch : Switch) : System := ⟨switch, none, none, true⟩

def System.Idle (s : System) : Prop :=
  match s.flow with
  | none => True
  | some fl => fl.phase.loop = none

instance (s : System) : Decidable s.Idle := by
  unfold System.Idle; split <;> infer_instance

section Steps

variable (c : Client) (p : Platform) (req : PaymentRequest) (w : Scheme)

def System.step (s : System) : Event → Option System
  | .start now ctx =>
    if s.Idle then some { s with flow := some (enter c req ctx now), ctx := ctx, through := true }
    else none
  | .crash => some { s with flow := none }
  | .attempt f =>
    s.flow.bind fun fl => (fl.phase.call c).bind fun call =>
      if f.delivery.Possible then
        (fl.step c p req s.ctx ⟨f.elapsed, f.cancelled, (f.exchange w s.switch call).2⟩).map
          fun fl' =>
            { s with
              switch := (f.exchange w s.switch call).1
              flow := some fl'
              through :=
                if fl'.phase.remaining < fl.phase.remaining then
                  s.through && decide (f.delivery = .through)
                else s.through }
      else none

variable {c p req w}

/-- What an attempt does: the request is tried again, or its step ends. -/
inductive Attempted (c : Client) (p : Platform) (req : PaymentRequest) (w : Scheme) (s : System)
    (f : Fate) (fl : Flow) (call : Call) (s' : System) : Prop where
  | again (fl' : Flow) (now : ℤ) (live timedOut : Bool) (l : Loop) : fl.phase.loop = some l →
      fl.phase.ended c p req s.ctx now live timedOut (f.exchange w s.switch call).2 = none →
      fl'.phase = fl.phase.withLoop (l.next maxBackoff) →
      s' = { s with switch := (f.exchange w s.switch call).1, flow := some fl' } →
      Attempted c p req w s f fl call s'
  | ended (fl' : Flow) (now : ℤ) (live timedOut : Bool) (l : Loop) : fl.phase.loop = some l →
      fl.phase.ended c p req s.ctx now live timedOut (f.exchange w s.switch call).2 =
      some fl'.phase → s' = { s with
        switch := (f.exchange w s.switch call).1, flow := some fl',
        through := s.through && decide (f.delivery = .through) } →
      Attempted c p req w s f fl call s'

lemma System.step_attempt {s s' : System} {f : Fate} (h : s.step c p req w (.attempt f) = some s') :
    ∃ fl call, s.flow = some fl ∧ fl.phase.call c = some call ∧ f.delivery.Possible ∧
      Attempted c p req w s f fl call s' := by
  simp only [System.step, bind_eq_some_iff] at h
  obtain ⟨fl, hfl, call, hcall, h⟩ := h
  split_ifs at h with hpossible
  obtain ⟨fl', hstep, rfl⟩ := map_eq_some_iff.mp h
  refine ⟨fl, call, hfl, hcall, hpossible, ?_⟩
  obtain ⟨-, l, live, timedOut, hl, ⟨hnone, rfl⟩ | ⟨hended, -⟩⟩ := step_ended hstep
  · refine .again ⟨fl.now + f.elapsed + l.backoff, fl.phase.withLoop (l.next maxBackoff)⟩ _ live
      timedOut l hl hnone rfl ?_
    simp
  · have hrem := (Phase.ended_eq_some hl hended).1
    refine .ended fl' _ live timedOut l hl hended ?_
    simp [hrem]

/-! ## The ids of the payment

A call asks for the quote and the transfer of its payment, whatever happened before. -/

def Phase.Ids (p : Platform) (req : PaymentRequest) : Phase → Prop
  | .requestQuote _ q _ => q.quoteID = p.quoteID req
  | .sendTransfer _ t _ => t.transferID = p.transferID req
  | _ => True

lemma Phase.Ids.withLoop {phase : Phase} (h : phase.Ids p req) (l : Loop) :
    (phase.withLoop l).Ids p req := by
  cases phase <;> exact h

lemma Phase.ids_ended {phase phase' : Phase} {ctx : Option ℤ} {now : ℤ} {live timedOut : Bool}
    {o : Outcome} {l : Loop} (hl : phase.loop = some l)
    (h : phase.ended c p req ctx now live timedOut o = some phase') : phase'.Ids p req := by
  cases phase with
  | getParty l' =>
    simp only [Phase.ended, map_eq_some_iff] at h
    obtain ⟨r, -, rfl⟩ := h
    cases getPartyEnd r with
    | error e => trivial
    | ok payee => rfl
  | requestQuote payee q l' =>
    simp only [Phase.ended, map_eq_some_iff] at h
    obtain ⟨r, -, rfl⟩ := h
    cases requestQuoteEnd p req r with
    | error e => trivial
    | ok quote => rfl
  | sendTransfer payee t l' =>
    simp only [Phase.ended, map_eq_some_iff] at h
    obtain ⟨r, -, rfl⟩ := h
    cases sendTransferEnd p t r with
    | error e => trivial
    | ok tr => trivial
  | returned r => simp [Phase.loop] at hl

/-- The call in progress asks for the ids of the payment. -/
def System.Ids (p : Platform) (req : PaymentRequest) (s : System) : Prop :=
  ∀ fl, s.flow = some fl → fl.phase.Ids p req

lemma System.Ids.step {s s' : System} {e : Event} (hs : s.Ids p req)
    (h : s.step c p req w e = some s') : s'.Ids p req := by
  cases e with
  | start now ctx =>
    simp only [System.step] at h
    split_ifs at h
    cases h
    rintro fl hfl
    cases hfl
    simp only [enter]
    split_ifs <;> trivial
  | crash =>
    simp only [System.step] at h
    cases h
    intro fl hfl
    cases hfl
  | attempt f =>
    obtain ⟨fl, call, hfl, -, -, hattempted⟩ := System.step_attempt h
    cases hattempted with
    | again fl' _ _ _ l _ _ hphase heq =>
      subst heq
      rintro fl₂ hfl₂
      cases hfl₂
      rw [hphase]
      exact (hs fl hfl).withLoop _
    | ended fl' now live timedOut l hl hended heq =>
      subst heq
      rintro fl₂ hfl₂
      cases hfl₂
      exact Phase.ids_ended hl hended

end Steps

/-! ## What the client makes of the answers -/

section Answers

variable {p : Platform} {call : Call} {α : Type} {decode : String → Except String α} {zero : α}
  {l : Loop} {now : ℤ} {live timedOut : Bool}

lemma attemptEnd_failed {text : String} {r : Except MojaloopError α}
    (h : attemptEnd p call decode zero l now live timedOut (.failed text) = some r) :
    ∃ e, r = .error e ∧ e.kind ≠ .duplicate := by
  simp only [attemptEnd] at h
  split_ifs at h with hretry ht
  · rw [some.injEq] at h
    exact ⟨_, h.symm, by simp⟩
  · rw [some.injEq] at h
    exact ⟨_, h.symm, by simp⟩

/-- So is trouble, if its body has not the code of a duplicate. -/
lemma attemptEnd_trouble {status : ℕ} {body : String} {r : Except MojaloopError α}
    (hstatus : isRetryableStatus status = true)
    (h : attemptEnd p call decode zero l now live timedOut (.answered status body) = some r) :
    ∃ e, r = .error e ∧ (p.errorCode body ≠ "3208" → e.kind ≠ .duplicate) := by
  have hnot : ¬ (200 ≤ status ∧ status < 300) ∧ status ≠ 409 := by
    simp only [isRetryableStatus, Bool.or_eq_true, decide_eq_true_eq] at hstatus
    omega
  simp only [attemptEnd, if_neg hnot.1, if_neg hnot.2] at h
  split_ifs at h
  rw [some.injEq] at h
  refine ⟨_, h.symm, fun hcode => ?_⟩
  cases call with
  | parties => simp [classify, hcode]
  | quotes | transfers =>
    simp only [classify, if_neg hcode]
    split_ifs <;> simp

lemma attemptEnd_accepted {a : Answer} (h : a.Accepted) (body : String) :
    attemptEnd p call decode zero l now live timedOut (.answered a.status body) =
      some (unmarshal call decode zero a.status body) := by
  rw [Answer.Accepted] at h
  simp only [attemptEnd, if_pos h]

lemma attemptEnd_duplicate {a : Answer} (h : a.Duplicate p) :
    ∃ e, attemptEnd p call decode zero l now live timedOut (.answered a.status a.body) =
      some (.error e) ∧ e.kind = .duplicate := by
  rcases h with h | ⟨hnot, hretry, hcode⟩
  · simp [attemptEnd, h]
  · rw [Answer.Accepted] at hnot
    simp only [attemptEnd, if_neg hnot, hretry, Bool.false_eq_true, false_and, if_false, hcode]
    split_ifs with h409
    · exact ⟨_, rfl, rfl⟩
    · exact ⟨_, rfl, by simp [classify]⟩

end Answers

/-! ## Answers to compute with -/

/-- A switch that answers 409 to repeats, over `plainPlatform`. -/
def plainScheme : Scheme where
  party := fun _ => ⟨200, "payeefsp"⟩
  quote := fun _ _ => ⟨200, "payeefsp"⟩
  quoteAgain := fun _ _ => ⟨409, "3208"⟩
  transfer := fun _ _ st => ⟨202, st.text⟩
  transferAgain := fun _ _ => ⟨409, "3208"⟩
  trouble := fun _ => ""

/-- An attempt of one second; its transfer is committed. -/
def plainFate (delivery : Delivery) : Fate := ⟨second, false, 0, .committed, delivery⟩

end H2Fleet.Mojaloop
