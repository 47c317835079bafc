import H2Fleet.Mojaloop.Switch

/-!
# Reruns of the flow

`Transfer` says that the whole flow can be retried from any point.  Its transfer step can: a
repeated `POST /transfers` is a duplicate, and `SendTransfer` takes a duplicate for a success.
`RequestQuote` hands the duplicate of a repeated `POST /quotes` back as an error, so a quote whose
answer was lost ends every later call.
-/

namespace H2Fleet.Mojaloop

open List Option
open Commerce (ErrorKind MojaloopError)

open Phase Mojaloop.System

variable {c : Client} {p : Platform} {req : PaymentRequest} {w : Scheme}

/-- The switch names the payee, quotes in the currency of the payment, accepts every new transfer
with a fulfilment that satisfies its condition, if any, and answers repeats as duplicates. -/
structure Scheme.Honest (w : Scheme) (p : Platform) (req : PaymentRequest) : Prop where
  party : ∀ v, (w.party v).Accepted ∧ (w.party v).body ≠ "" ∧
    ∃ party, p.decodeParties (w.party v).body = .ok party ∧ party.fspID ≠ ""
  quote : ∀ v q, (w.quote v q).Accepted ∧ ((w.quote v q).body = "" ∨
    ∃ quote, p.decodeQuote (w.quote v q).body = .ok quote ∧ (quote.transferAmount.currency = "" ∨
        p.equalFold quote.transferAmount.currency req.currency = true))
  quoteAgain : ∀ v q, (w.quoteAgain v q).Duplicate p
  transfer : ∀ v t st, st ≠ .aborted → (w.transfer v t st).Accepted ∧
    ((w.transfer v t st).body = "" ∨
    ∃ out, p.decodeTransfer (w.transfer v t st).body = .ok out ∧ out.transferState ≠ "ABORTED" ∧
      (out.fulfilment = "" ∨ p.verifyFulfilment out.fulfilment t.condition = true) ∧
      (out.transferID = "" ∨ out.transferID = t.transferID))
  transferAgain : ∀ v t, (w.transferAgain v t).Duplicate p

def PaymentRequest.Valid (req : PaymentRequest) : Prop :=
  req.idempotencyKey ≠ "" ∧ 0 < req.amountMinor ∧ req.currency ≠ ""
  deriving Decidable

def Event.Settles : Event → Prop
  | .attempt f => f.decision ≠ .aborted
  | _ => True

instance (e : Event) : Decidable e.Settles := by
  rcases e <;> dsimp only [Event.Settles] <;> infer_instance

/-- The switch holds one transfer at most, and a call whose last attempts got through has its id. -/
def RetrySafe (p : Platform) (req : PaymentRequest) (s : System) : Prop :=
  (s.switch.transfers.filter fun r => r.transferID = p.transferID req).length ≤ 1 ∧
    ∀ fl r, s.flow = some fl → fl.phase = .returned r → s.through = true →
      ∃ res, r = .ok res ∧ res.transferID = p.transferID req

/-- The quote that the call in progress asks for, if it has come to that. -/
def System.quoting (s : System) : Option QuoteRequest :=
  s.flow.bind fun fl =>
    match fl.phase with
    | .requestQuote _ q _ => some q
    | _ => none

/-- No `POST /quotes` that gets through is a repeat. -/
def FreshQuote (s : System) : Event → Prop
  | .attempt f => ∀ q ∈ s.quoting, f.delivery = .through → q.quoteID ∉ s.switch.quotes
  | _ => True

instance (s : System) (e : Event) : Decidable (FreshQuote s e) := by
  rcases e <;> dsimp only [FreshQuote] <;> infer_instance

/-! ### Attempts that get through -/

section Through

variable {s : Switch} {f : Fate} {payee : Party} {l : Loop} {ctx : Option ℤ} {now : ℤ}
  {live timedOut : Bool}

lemma exchange_through (hf : f.delivery = .through) (call : Call) :
    (f.exchange w s call).2 = .answered (s.handle w f.wording f.decision call).2.status
      (s.handle w f.wording f.decision call).2.body := by
  simp only [Fate.exchange, hf]

lemma requestQuote_through (hw : w.Honest p req) (hf : f.delivery = .through) {q : QuoteRequest}
    (hnew : q.quoteID ∉ s.quotes) :
    ∃ t l', (requestQuote payee q l).ended c p req ctx now live timedOut
      (f.exchange w s (.quotes q)).2 = some (.sendTransfer payee t l') := by
  obtain ⟨haccepted, hbody⟩ := hw.quote f.wording q
  have hquote : ∃ quote, unmarshal (.quotes q) p.decodeQuote ⟨⟨"", ""⟩, "", "", "", "", ""⟩
      (w.quote f.wording q).status (w.quote f.wording q).body = .ok quote ∧
      requestQuoteEnd p req (.ok quote) = .ok quote := by
    rw [unmarshal]
    rcases hbody with hbody | ⟨quote, hdecode, hcurrency⟩
    · exact ⟨_, if_pos hbody, by simp [requestQuoteEnd]⟩
    · by_cases hempty : (w.quote f.wording q).body = ""
      · exact ⟨_, if_pos hempty, by simp [requestQuoteEnd]⟩
      · refine ⟨quote, by rw [if_neg hempty, hdecode], ?_⟩
        rcases hcurrency with hcurrency | hcurrency <;> simp [requestQuoteEnd, hcurrency]
  obtain ⟨quote, hunmarshal, hend⟩ := hquote
  rw [exchange_through hf]
  simp only [Switch.handle, if_neg hnew, ended, attemptEnd_accepted haccepted, hunmarshal,
    map_some, hend, afterRequestQuote]
  exact ⟨_, _, rfl⟩

lemma requestQuote_repeated (hw : w.Honest p req) (hf : f.delivery = .through) {q : QuoteRequest}
    (hold : q.quoteID ∈ s.quotes) :
    ∃ e, (requestQuote payee q l).ended c p req ctx now live timedOut
      (f.exchange w s (.quotes q)).2 = some (.returned (.error e)) := by
  rw [exchange_through hf]
  simp only [Switch.handle, if_pos hold, ended]
  obtain ⟨e, hend, -⟩ := attemptEnd_duplicate (hw.quoteAgain f.wording q)
  rw [hend]
  exact ⟨e, rfl⟩

lemma sendTransferEnd_accepted (hw : w.Honest p req) (v : ℕ)
    (t : TransferRequest) {st : TransferState} (hst : st ≠ .aborted) :
    ∃ tr, sendTransferEnd p t (unmarshal (.transfers t) p.decodeTransfer ⟨"", "", "", ""⟩
      (w.transfer v t st).status (w.transfer v t st).body) = .ok tr ∧
      tr.transferID = t.transferID := by
  have hempty : ∃ tr, sendTransferEnd p t (.ok ⟨"", "", "", ""⟩) = .ok tr ∧
      tr.transferID = t.transferID := by simp [sendTransferEnd, orDefault]
  by_cases hbody : (w.transfer v t st).body = ""
  · rwa [unmarshal, if_pos hbody]
  · obtain ⟨out, hdecode, hstate, hfulfilment, hid⟩ := (hw.transfer v t st hst).2.resolve_left hbody
    have hverified : ¬ (out.fulfilment ≠ "" ∧ t.condition ≠ "" ∧
        p.verifyFulfilment out.fulfilment t.condition = false) := by
      rintro ⟨hsome, -, hnot⟩
      rcases hfulfilment with h | h
      · exact hsome h
      · rw [h] at hnot
        cases hnot
    rw [unmarshal, if_neg hbody, hdecode]
    simp only [sendTransferEnd, if_neg hstate, if_neg hverified]
    refine ⟨_, rfl, ?_⟩
    rcases hid with h | h
    · simp [orDefault, h]
    · rw [orDefault, h]
      split_ifs <;> rfl

lemma sendTransfer_through (hw : w.Honest p req) (hf : f.delivery = .through)
    (hdecision : f.decision ≠ .aborted) (t : TransferRequest) :
    ∃ res, (sendTransfer payee t l).ended c p req ctx now live timedOut
      (f.exchange w s (.transfers t)).2 = some (.returned (.ok res)) ∧
        res.transferID = t.transferID := by
  rw [exchange_through hf]
  rcases s.handle_transfers w f.wording f.decision t with ⟨-, heq⟩ | ⟨-, heq⟩
  · rw [heq]
    obtain ⟨e, hend, hkind⟩ := attemptEnd_duplicate (hw.transferAgain f.wording t)
    simp only [ended]
    rw [hend, map_some, sendTransferEnd, if_pos hkind]
    exact ⟨_, rfl, rfl⟩
  · rw [heq]
    obtain ⟨tr, hend, hid⟩ := sendTransferEnd_accepted hw f.wording t hdecision
    have haccepted := (hw.transfer f.wording t f.decision hdecision).1
    simp only [ended, attemptEnd_accepted haccepted, map_some, hend]
    exact ⟨_, rfl, hid⟩

end Through

/-! ### Runs -/

lemma Switch.UniqueIDs.handle {s : Switch} (h : s.UniqueIDs) (v : ℕ) (st : TransferState)
    (call : Call) : (s.handle w v st call).1.UniqueIDs := by
  cases call with
  | parties => exact h
  | quotes q =>
    simp only [Switch.handle]
    split_ifs <;> exact h
  | transfers t =>
    simp only [Switch.handle]
    split_ifs with hknows
    · exact h
    · simp only [Switch.UniqueIDs, map_append, map_cons, map_nil]
      refine nodup_append.mpr ⟨h, nodup_singleton _, ?_⟩
      rintro i hi j hj rfl
      obtain ⟨r, hr, hid⟩ := mem_map.mp hi
      exact hknows ⟨r, hr, hid.trans (mem_singleton.mp hj)⟩

lemma Switch.UniqueIDs.exchange {s : Switch} (h : s.UniqueIDs) (f : Fate) (call : Call) :
    (f.exchange w s call).1.UniqueIDs := by
  have hhandled : (s.handle w f.wording f.decision call).1.UniqueIDs := h.handle _ _ _
  simp only [Fate.exchange]
  cases f.delivery with
  | unreached text => exact h
  | trouble handled status => cases handled with
    | true => exact hhandled
    | false => exact h
  | lost | bodyLost | through => exact hhandled

lemma Switch.UniqueIDs.filter_le {s : Switch} (h : s.UniqueIDs) (id : String) :
    (s.transfers.filter fun r => r.transferID = id).length ≤ 1 := by
  have hnodup : ((s.transfers.filter fun r => r.transferID = id).map Record.transferID).Nodup :=
    Nodup.sublist (filter_sublist.map _) h
  have hsame : ∀ i ∈ (s.transfers.filter fun r => r.transferID = id).map Record.transferID,
    id = i := by
    intro i hi
    obtain ⟨r, hr, rfl⟩ := mem_map.mp hi
    simp only [mem_filter, decide_eq_true_eq] at hr
    exact hr.2.symm
  have hcount := nodup_iff_count_le_one.mp hnodup id
  rwa [count_eq_length.mpr hsame, length_map] at hcount

/-- The ids, one record for each transfer id, no answer lost so far while the call has no quote, and
the result. -/
structure RetryInv (p : Platform) (req : PaymentRequest) (s : System) : Prop where
  ids : s.Ids p req
  unique : s.switch.UniqueIDs
  early : ∀ fl, s.flow = some fl → 2 ≤ fl.phase.remaining → s.through = true
  returned : ∀ fl r, s.flow = some fl → fl.phase = .returned r → s.through = true →
    ∃ res, r = .ok res ∧ res.transferID = p.transferID req

/-- The end of a step whose attempt got through, if no quote is a repeat. -/
lemma ended_through (hw : w.Honest p req) {s : System} {f : Fate} {fl fl' : Flow} {call : Call}
    (hf : f.delivery = .through) (hdecision : f.decision ≠ .aborted)
    (hok : FreshQuote s (.attempt f))
    (hids : fl.phase.Ids p req) (hfl : s.flow = some fl) (hcall : fl.phase.call c = some call)
    {now : ℤ} {live timedOut : Bool}
    (hended : fl.phase.ended c p req s.ctx now live timedOut (f.exchange w s.switch call).2 =
      some fl'.phase) :
    ∀ r, fl'.phase = .returned r → ∃ res, r = .ok res ∧ res.transferID = p.transferID req := by
  intro r hr
  rw [hr] at hended
  cases hphase : fl.phase with
  | getParty l =>
    rw [hphase] at hcall hended
    cases hcall
    obtain ⟨haccepted, hbody, party, hdecode, hfsp⟩ := hw.party f.wording
    simp only [exchange_through hf, Switch.handle, ended, attemptEnd_accepted haccepted, unmarshal,
      if_neg hbody, hdecode, map_some, getPartyEnd, if_neg hfsp, afterGetParty] at hended
    cases hended
  | requestQuote payee q l =>
    rw [hphase] at hcall hended
    cases hcall
    have hnew := hok q (by simp [System.quoting, hfl, hphase]) hf
    obtain ⟨t, l', hnext⟩ := requestQuote_through hw hf hnew
    rw [hnext] at hended
    cases hended
  | sendTransfer payee t l =>
    rw [hphase] at hcall hended hids
    cases hcall
    obtain ⟨res, hnext, hid⟩ := sendTransfer_through hw hf hdecision t
    rw [hnext, some.injEq, returned.injEq] at hended
    exact ⟨res, hended.symm, hid.trans hids⟩
  | returned r' =>
    rw [hphase, Phase.call] at hcall
    cases hcall

lemma ended_early (hw : w.Honest p req) {s : Switch} {f : Fate} {l : Loop}
    {partyType partyID : String}
    (hpossible : f.delivery.Possible) {ctx : Option ℤ} {now : ℤ} {live timedOut : Bool}
      {phase : Phase}
    (hended : (getParty l).ended c p req ctx now live timedOut
      (f.exchange w s (.parties partyType partyID)).2 = some phase) (hrem : 2 ≤ phase.remaining) :
    f.delivery = .through := by
  simp only [ended, map_eq_some_iff] at hended
  obtain ⟨r, hend, rfl⟩ := hended
  have herror : (∃ e, getPartyEnd r = .error e) → False := by
    rintro ⟨e, he⟩
    rw [he] at hrem
    simp [afterGetParty, remaining] at hrem
  cases hdelivery : f.delivery with
  | unreached text | lost text =>
    simp only [Fate.exchange, hdelivery] at hend
    obtain ⟨e, rfl, -⟩ := attemptEnd_failed hend
    exact (herror ⟨e, rfl⟩).elim
  | trouble handled status =>
    simp only [Fate.exchange, hdelivery] at hend
    rw [hdelivery] at hpossible
    obtain ⟨e, rfl, -⟩ := attemptEnd_trouble hpossible hend
    exact (herror ⟨e, rfl⟩).elim
  | bodyLost =>
    simp only [Fate.exchange, hdelivery, Switch.handle] at hend
    rw [attemptEnd_accepted (hw.party f.wording).1] at hend
    cases hend
    -- an empty body leaves the zero party, which names no FSP
    refine (herror ?_).elim
    simp [unmarshal, getPartyEnd]
  | through => rfl

lemma RetryInv.step (hw : w.Honest p req) (hreq : req.Valid) {s s' : System} {e : Event}
    (hs : RetryInv p req s) (hsettles : e.Settles) (hok : FreshQuote s e)
    (h : s.step c p req w e = some s') : RetryInv p req s' := by
  have hids := hs.ids.step h
  cases e with
  | start now ctx =>
    simp only [System.step] at h
    split_ifs at h
    cases h
    refine ⟨hids, hs.unique, fun _ _ _ => rfl, ?_⟩
    rintro fl r hfl hr
    cases hfl
    obtain ⟨hkey, hamount, hcurrency⟩ := hreq
    simp [enter, hkey, hcurrency, not_le.mpr hamount] at hr
  | crash =>
    simp only [System.step] at h
    cases h
    refine ⟨hids, hs.unique, fun fl hfl => ?_, fun fl r hfl => ?_⟩
    · cases hfl
    · cases hfl
  | attempt f =>
    obtain ⟨fl, call, hfl, hcall, hpossible, hattempted⟩ := step_attempt h
    cases hattempted with
    | again fl' _ _ _ l hl _ hphase heq =>
      subst heq
      refine ⟨hids, hs.unique.exchange f call, ?_, ?_⟩
      · rintro fl₂ hfl₂ hrem
        cases hfl₂
        rw [hphase, remaining_withLoop] at hrem
        exact hs.early fl hfl hrem
      · rintro fl₂ r hfl₂ hr
        cases hfl₂
        have hloop := loop_withLoop hl (l.next maxBackoff)
        rw [← hphase, hr] at hloop
        cases hloop
    | ended fl' now live timedOut l hl hended heq =>
      subst heq
      refine ⟨hids, hs.unique.exchange f call, ?_, ?_⟩
      · rintro fl₂ hfl₂ hrem
        cases hfl₂
        have hless := (ended_eq_some hl hended).1
        show (s.through && decide (f.delivery = .through)) = true
        rw [hs.early fl hfl (by omega), Bool.true_and, decide_eq_true_eq]
        cases hphase : fl.phase with
        | getParty l' =>
          rw [hphase] at hcall hended
          cases hcall
          exact ended_early hw hpossible hended hrem
        | requestQuote | sendTransfer | returned =>
          rw [hphase, remaining] at hless
          omega
      · rintro fl₂ r hfl₂ hr hthrough
        cases hfl₂
        have hf : f.delivery = .through := by
          have hboth := hthrough
          rw [Bool.and_eq_true, decide_eq_true_eq] at hboth
          exact hboth.2
        exact ended_through hw hf hsettles hok (hs.ids fl hfl) hfl hcall hended r hr

/-- A repeated quote that gets through ends such a call with an error. -/
lemma RetryInv.repeated (hw : w.Honest p req) {s s' : System} {e : Event} (hs : RetryInv p req s)
    (hok : ¬ FreshQuote s e) (h : s.step c p req w e = some s') : ¬ RetrySafe p req s' := by
  cases e with
  | start | crash => exact absurd trivial hok
  | attempt f =>
    simp only [FreshQuote, not_forall, not_not] at hok
    obtain ⟨q, hq, hf, hold⟩ := hok
    obtain ⟨fl, call, hfl, hcall, -, hattempted⟩ := step_attempt h
    obtain ⟨payee, l₀, hphase⟩ : ∃ payee l, fl.phase = .requestQuote payee q l := by
      rw [System.quoting, hfl, bind_some] at hq
      cases hfp : fl.phase with
      | requestQuote payee q' l =>
        simp only [hfp, mem_def, some.injEq] at hq
        exact ⟨payee, l, by rw [hq]⟩
      | getParty | sendTransfer | returned => simp [hfp] at hq
    have hearly := hs.early fl hfl (by rw [hphase]; exact le_rfl)
    rw [hphase, Phase.call] at hcall
    cases hcall
    cases hattempted with
    | again fl' now live timedOut l hl hnone hphase' heq =>
      rw [hphase] at hnone
      obtain ⟨e, he⟩ := requestQuote_repeated hw hf hold
      rw [hnone] at he
      cases he
    | ended fl' now live timedOut l hl hended heq =>
      rw [hphase] at hended
      obtain ⟨e, he⟩ := requestQuote_repeated hw hf hold
      rw [hended, some.injEq] at he
      subst heq
      rintro ⟨-, hreturned⟩
      obtain ⟨res, hres, -⟩ := hreturned fl' _ rfl he (by simp [hearly, hf])
      cases hres

/-- **When the flow can be retried**, throughout any number of calls for one payment: the switch
holds at most one transfer, and every call whose last attempts get through returns its id, if and
only if no quote that gets through is a repeat. -/
theorem transfer_retry_safe_iff (hw : w.Honest p req) (hreq : req.Valid) {switch : Switch}
    (hswitch : switch.UniqueIDs) {events : List Event} {t : System}
    (hsettles : ∀ e ∈ events, e.Settles)
    (hrun : run (step c p req w) (.init switch) events = some t) :
    Throughout (step c p req w) (RetrySafe p req) (.init switch) events ↔
      Meets (step c p req w) FreshQuote (.init switch) events := by
  have hinit : RetryInv p req (.init switch) :=
    ⟨nofun, hswitch, nofun, nofun⟩
  exact throughout_iff_meets (fun _ hs => ⟨hs.unique.filter_le _, hs.returned⟩)
    (fun _ _ _ hs => hs.step hw hreq) (fun _ _ _ hs _ => hs.repeated hw) hinit hsettles hrun

lemma plainScheme_honest : plainScheme.Honest plainPlatform somePayment where
  party := fun _ => ⟨by simp [plainScheme, Answer.Accepted], by simp [plainScheme], _, rfl,
    by simp [plainScheme]⟩
  quote := fun _ _ => ⟨by simp [plainScheme, Answer.Accepted], .inr ⟨_, rfl, .inr rfl⟩⟩
  quoteAgain := fun _ _ => .inl rfl
  transfer := fun _ _ st hst =>
    ⟨by simp [plainScheme, Answer.Accepted], .inr ⟨_, rfl,
      fun h => hst (TransferState.text_eq_aborted.mp h), .inl rfl, .inl rfl⟩⟩
  transferAgain := fun _ _ => .inl rfl

/-- The transfer's answer is lost twice before the call succeeds; the next one crashes. -/
def lostTransfer : List Event :=
  [.start 0 none, .attempt (plainFate .through), .attempt (plainFate .through),
    .attempt (plainFate (.lost "connection reset")), .attempt (plainFate (.trouble true 504)),
    .attempt (plainFate .through), .start (20 * second) none, .crash]

theorem lostTransfer_retry_safe :
    (∃ s, run (step handlerClient plainPlatform somePayment plainScheme) (.init ⟨[], []⟩)
        lostTransfer = some s ∧ s.switch.transfers.length = 1) ∧
      Throughout (step handlerClient plainPlatform somePayment plainScheme)
        (RetrySafe plainPlatform somePayment) (.init ⟨[], []⟩) lostTransfer := by
  have hrun : (run (step handlerClient plainPlatform somePayment plainScheme)
      (.init ⟨[], []⟩) lostTransfer).isSome := by decide +kernel
  obtain ⟨t, ht⟩ := isSome_iff_exists.mp hrun
  have hempty : Switch.UniqueIDs ⟨[], []⟩ := nodup_nil
  exact ⟨⟨_, rfl, rfl⟩, (transfer_retry_safe_iff plainScheme_honest (by decide) hempty (by decide)
    ht).mpr (by decide +kernel)⟩

/-- The answer of the quote is lost; the next attempt is a repeat. -/
def lostQuote : List Event :=
  [.start 0 none, .attempt (plainFate .through), .attempt (plainFate (.lost "connection reset")),
    .attempt (plainFate .through)]

/-- All last attempts get through, and the call fails with the duplicate of its own quote. -/
theorem lost_quote_fails_the_flow : plainScheme.Honest plainPlatform somePayment ∧
      ∃ s fl e, run (step handlerClient plainPlatform somePayment plainScheme)
          (.init ⟨[], []⟩) lostQuote = some s ∧ s.flow = some fl ∧ s.through = true ∧
        fl.phase = .returned (.error e) ∧ e.kind = .duplicate ∧ s.switch.transfers = [] :=
  ⟨plainScheme_honest, _, _, _, rfl, rfl, rfl, rfl, rfl, rfl⟩

end H2Fleet.Mojaloop
