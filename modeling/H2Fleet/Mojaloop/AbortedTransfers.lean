import H2Fleet.Mojaloop.Switch

/-!
# Results and aborted transfers

`SendTransfer` answers a duplicate with the state `COMMITTED` and does not look at what the switch
has on record.  A first attempt that was aborted and whose answer was lost comes back as a success.
-/

namespace H2Fleet.Mojaloop

open Option
open Commerce (ErrorKind MojaloopError)

open Phase Mojaloop.System

variable {c : Client} {p : Platform} {req : PaymentRequest} {w : Scheme}

/-- The decision on a new id, 409 on a repeat.  Trouble has not the code of a duplicate. -/
structure Scheme.Truthful (w : Scheme) (p : Platform) : Prop where
  accepted : ∀ v t st, (w.transfer v t st).Accepted
  decided : ∀ v t st, (w.transfer v t st).body ≠ "" ∧
    ∃ out, p.decodeTransfer (w.transfer v t st).body = .ok out ∧ out.transferState = st.text
  again : ∀ v t, (w.transferAgain v t).status = 409
  trouble : ∀ v, p.errorCode (w.trouble v) ≠ "3208"

/-- If the call returned a result, the transfer is not aborted at the switch. -/
def NotAborted (p : Platform) (req : PaymentRequest) (s : System) : Prop :=
  ∀ fl r, s.flow = some fl → fl.phase = .returned (.ok r) → ¬ s.switch.Aborted (p.transferID req)

/-- The transfer that the call in progress asks for. -/
def System.sending (s : System) : Option TransferRequest :=
  s.flow.bind fun fl =>
    match fl.phase with
    | .sendTransfer _ t _ => some t
    | _ => none

/-- An attempt of `POST /transfers` that is answered does not find the transfer aborted, and none
that aborts it is answered without its body. -/
def NotReplayed (s : System) : Event → Prop
  | .attempt f => ∀ t ∈ s.sending,
      (f.delivery = .through ∨ f.delivery = .bodyLost → ¬ s.switch.Aborted t.transferID) ∧
        (f.delivery = .bodyLost → ¬ s.switch.Knows t.transferID → f.decision ≠ .aborted)
  | _ => True

instance (s : System) (e : Event) : Decidable (NotReplayed s e) := by
  unfold NotReplayed; split <;> infer_instance

lemma Switch.aborted_concat {s : Switch} {id : String} {st : TransferState} (hnew : ¬ s.Knows id) :
    ({ s with transfers := s.transfers ++ [⟨id, st⟩] } : Switch).Aborted id ↔ st = .aborted := by
  constructor
  · rintro ⟨r, hr, hid, hst⟩
    rw [List.mem_append, List.mem_singleton] at hr
    rcases hr with hr | rfl
    · exact absurd ⟨r, hr, hid⟩ hnew
    · exact hst
  · rintro rfl
    exact ⟨⟨id, .aborted⟩, by simp, rfl, rfl⟩

lemma Switch.Aborted.knows {s : Switch} {id : String} (h : s.Aborted id) : s.Knows id := by
  obtain ⟨r, hr, hid, -⟩ := h
  exact ⟨r, hr, hid⟩

variable {r : Result}

section Sending

variable {s : Switch} {f : Fate} {t : TransferRequest} {payee : Party} {l : Loop} {ctx : Option ℤ}
  {now : ℤ} {live timedOut : Bool}

/-- An attempt of `POST /transfers` that ends the call with a result: on a repeat nothing is
decided; an aborted one is a success only if the body of the response is lost. -/
lemma sendTransfer_ok (hw : w.Truthful p) (hpossible : f.delivery.Possible)
    (h : (sendTransfer payee t l).ended c p req ctx now live timedOut
      (f.exchange w s (.transfers t)).2 = some (.returned (.ok r))) :
    (f.delivery = .through ∨ f.delivery = .bodyLost) ∧
      ((s.Knows t.transferID ∧ (f.exchange w s (.transfers t)).1 = s) ∨
        (¬ s.Knows t.transferID ∧ (f.delivery = .through → f.decision ≠ .aborted) ∧
          (f.exchange w s (.transfers t)).1 =
            { s with transfers := s.transfers ++ [⟨t.transferID, f.decision⟩] })) := by
  simp only [ended, map_eq_some_iff] at h
  obtain ⟨out, hend, hreturned⟩ := h
  have hfailed : (∃ e, out = .error e ∧ e.kind ≠ .duplicate) → False := by
    rintro ⟨e, rfl, he⟩
    rw [sendTransferEnd, if_neg he] at hreturned
    simp [afterSendTransfer] at hreturned
  have hhandle := s.handle_transfers w f.wording f.decision t
  cases hdelivery : f.delivery with
  | unreached | lost =>
    simp only [Fate.exchange, hdelivery] at hend
    exact (hfailed (attemptEnd_failed hend)).elim
  | trouble handled status =>
    simp only [Fate.exchange, hdelivery] at hend
    rw [hdelivery] at hpossible
    obtain ⟨e, he, hkind⟩ := attemptEnd_trouble hpossible hend
    exact (hfailed ⟨e, he, hkind (hw.trouble _)⟩).elim
  | bodyLost =>
    refine ⟨.inr rfl, hhandle.imp ?_ ?_⟩
    · rintro ⟨hknows, heq⟩
      simp [Fate.exchange, hdelivery, heq, hknows]
    · rintro ⟨hnew, heq⟩
      simp [Fate.exchange, hdelivery, heq, hnew]
  | through =>
    refine ⟨.inl rfl, hhandle.imp ?_ ?_⟩
    · rintro ⟨hknows, heq⟩
      simp [Fate.exchange, hdelivery, heq, hknows]
    · rintro ⟨hnew, heq⟩
      refine ⟨hnew, fun _ habort => ?_, by simp [Fate.exchange, hdelivery, heq]⟩
      -- the answer says so
      simp only [Fate.exchange, hdelivery, heq] at hend
      rw [attemptEnd_accepted (hw.accepted _ _ _), some.injEq] at hend
      obtain ⟨hbody, dec, hdec, hstate⟩ := hw.decided f.wording t f.decision
      rw [unmarshal, if_neg hbody, hdec] at hend
      subst hend
      rw [habort] at hstate
      simp [sendTransferEnd, hstate, TransferState.text, afterSendTransfer] at hreturned

/-- An attempt against the condition ends the call with a result, and the transfer aborted. -/
lemma sendTransfer_replayed (hw : w.Truthful p)
    (h : ¬ ((f.delivery = .through ∨ f.delivery = .bodyLost → ¬ s.Aborted t.transferID) ∧
      (f.delivery = .bodyLost → ¬ s.Knows t.transferID → f.decision ≠ .aborted))) :
    (f.exchange w s (.transfers t)).1.Aborted t.transferID ∧
      ∃ r, (sendTransfer payee t l).ended c p req ctx now live timedOut
        (f.exchange w s (.transfers t)).2 = some (.returned (.ok r)) := by
  -- a 409 is a success whatever its body says, and so is a 2xx without one
  have hconflict : ∀ body, ∃ r, (sendTransfer payee t l).ended c p req ctx now live timedOut
      (.answered (w.transferAgain f.wording t).status body) = some (.returned (.ok r)) := by
    intro body
    simp [ended, attemptEnd, hw.again, sendTransferEnd, afterSendTransfer]
  have hempty : ∃ r, (sendTransfer payee t l).ended c p req ctx now live timedOut
      (.answered (w.transfer f.wording t f.decision).status "") = some (.returned (.ok r)) := by
    simp [ended, attemptEnd_accepted (hw.accepted _ _ _), unmarshal, sendTransferEnd,
      afterSendTransfer]
  by_cases hknows : s.Knows t.transferID
  · have heq : s.handle w f.wording f.decision (.transfers t) = (s,
      w.transferAgain f.wording t) := by
      rw [Switch.handle, if_pos hknows]
    have habort : (f.delivery = .through ∨ f.delivery = .bodyLost) ∧ s.Aborted t.transferID := by
      by_contra hnot
      exact h ⟨fun hd ha => hnot ⟨hd, ha⟩, fun _ hnew => absurd hknows hnew⟩
    obtain ⟨hdelivery | hdelivery, habort⟩ := habort
    · simpa [Fate.exchange, hdelivery, heq, habort] using hconflict _
    · simpa [Fate.exchange, hdelivery, heq, habort] using hconflict _
  · have heq : s.handle w f.wording f.decision (.transfers t) =
        ({ s with transfers := s.transfers ++ [⟨t.transferID, f.decision⟩] },
          w.transfer f.wording t f.decision) := by
      rw [Switch.handle, if_neg hknows]
    have habort : f.delivery = .bodyLost ∧ f.decision = .aborted := by
      by_contra hnot
      exact h ⟨fun _ ha => hknows ha.knows, fun hd _ ha => hnot ⟨hd, ha⟩⟩
    obtain ⟨hdelivery, hdecision⟩ := habort
    simp only [Fate.exchange, hdelivery, heq]
    exact ⟨(Switch.aborted_concat hknows).mpr hdecision, hempty⟩

end Sending

/-! ### Runs -/

lemma ended_ok {phase : Phase} {ctx : Option ℤ} {now : ℤ} {live timedOut : Bool} {o : Outcome}
    {l : Loop} (hl : phase.loop = some l)
    (h : phase.ended c p req ctx now live timedOut o = some (.returned (.ok r))) :
    ∃ payee t, phase = .sendTransfer payee t l := by
  cases phase with
  | getParty l' =>
    simp only [ended, map_eq_some_iff] at h
    obtain ⟨res, -, h⟩ := h
    cases hres : getPartyEnd res <;> simp [hres, afterGetParty] at h
  | requestQuote payee q l' =>
    simp only [ended, map_eq_some_iff] at h
    obtain ⟨res, -, h⟩ := h
    cases hres : requestQuoteEnd p req res <;> simp [hres, afterRequestQuote] at h
  | sendTransfer payee t l' =>
    simp only [loop, some.injEq] at hl
    exact ⟨payee, t, by rw [hl]⟩
  | returned r => simp [loop] at hl

/-- The call asks for its own transfer, and its result is not an aborted one. -/
structure ResultOk (p : Platform) (req : PaymentRequest) (s : System) : Prop where
  ids : s.Ids p req
  notAborted : NotAborted p req s

lemma ResultOk.step (hw : w.Truthful p) {s s' : System} {e : Event} (hs : ResultOk p req s)
    (hok : NotReplayed s e) (h : s.step c p req w e = some s') : ResultOk p req s' := by
  refine ⟨hs.ids.step h, ?_⟩
  cases e with
  | start now ctx =>
    simp only [System.step] at h
    split_ifs at h
    cases h
    rintro fl r hfl hr
    cases hfl
    simp only [enter] at hr
    split_ifs at hr <;> cases hr
  | crash =>
    simp only [System.step] at h
    cases h
    intro fl r hfl
    cases hfl
  | attempt f =>
    obtain ⟨fl, call, hfl, hcall, hpossible, hattempted⟩ := step_attempt h
    cases hattempted with
    | again fl' _ _ _ l hl _ hphase heq =>
      subst heq
      rintro fl₂ r hfl₂ hr
      cases hfl₂
      rw [hphase] at hr
      have hloop := loop_withLoop hl (l.next maxBackoff)
      rw [hr] at hloop
      cases hloop
    | ended fl' now live timedOut l hl hended heq =>
      subst heq
      rintro fl₂ r hfl₂ hr
      cases hfl₂
      rw [hr] at hended
      obtain ⟨payee, t, hphase⟩ := ended_ok hl hended
      have hid : t.transferID = p.transferID req := by
        have hids := hs.ids fl hfl
        rwa [hphase] at hids
      rw [hphase, Phase.call] at hcall
      cases hcall
      rw [hphase] at hended
      have hcond := hok t (by simp [sending, hfl, hphase])
      show ¬ (f.exchange w s.switch (.transfers t)).1.Aborted (p.transferID req)
      rw [← hid]
      obtain ⟨hcame, ⟨-, hsame⟩ | ⟨hnew, hthrough, hrecorded⟩⟩ :=
        sendTransfer_ok hw hpossible hended
      · rw [hsame]
        exact hcond.1 hcame
      · rw [hrecorded, Switch.aborted_concat hnew]
        exact hcame.elim hthrough fun hlost => hcond.2 hlost hnew

lemma ResultOk.replayed (hw : w.Truthful p) {s s' : System} {e : Event} (hs : ResultOk p req s)
    (hok : ¬ NotReplayed s e) (h : s.step c p req w e = some s') : ¬ NotAborted p req s' := by
  cases e with
  | start | crash => exact absurd trivial hok
  | attempt f =>
    simp only [NotReplayed, not_forall] at hok
    obtain ⟨t, ht, hcond⟩ := hok
    obtain ⟨fl, call, hfl, hcall, -, hattempted⟩ := step_attempt h
    obtain ⟨payee, l₀, hphase⟩ : ∃ payee l, fl.phase = .sendTransfer payee t l := by
      rw [sending, hfl, bind_some] at ht
      cases hfp : fl.phase with
      | sendTransfer payee t' l =>
        simp only [hfp, mem_def, some.injEq] at ht
        exact ⟨payee, l, by rw [ht]⟩
      | getParty | requestQuote | returned => simp [hfp] at ht
    have hid : t.transferID = p.transferID req := by
      have hids := hs.ids fl hfl
      rwa [hphase] at hids
    rw [hphase, Phase.call] at hcall
    cases hcall
    cases hattempted with
    | again fl' now live timedOut l hl hnone hphase' heq =>
      rw [hphase] at hnone
      obtain ⟨-, r, hr⟩ := sendTransfer_replayed hw hcond
      rw [hnone] at hr
      cases hr
    | ended fl' now live timedOut l hl hended heq =>
      rw [hphase] at hended
      obtain ⟨habort, r, hr⟩ := sendTransfer_replayed hw hcond
      rw [hended, some.injEq] at hr
      subst heq
      intro hnot
      rw [hid] at habort
      exact hnot fl' r rfl hr habort

/-- **When a result is never an aborted transfer**: throughout any number of calls, if and only if
every attempt of `POST /transfers` meets the condition. -/
theorem transfer_not_aborted_iff (hw : w.Truthful p) {switch : Switch} {events : List Event}
    {t : System} (hrun : run (step c p req w) (.init switch) events = some t) :
    Throughout (step c p req w) (NotAborted p req) (.init switch) events ↔
      Meets (step c p req w) NotReplayed (.init switch) events := by
  have hinit : ResultOk p req (.init switch) :=
    ⟨nofun, nofun⟩
  exact throughout_iff_meets_always (fun _ hs => hs.notAborted) (fun hs => hs.step hw)
    (fun hs => hs.replayed hw) hinit hrun

lemma plainScheme_truthful : plainScheme.Truthful plainPlatform where
  accepted := fun _ _ _ => by simp [plainScheme, Answer.Accepted]
  decided := fun _ _ st => ⟨by cases st <;> simp [plainScheme, TransferState.text], _, rfl, rfl⟩
  again := fun _ _ => rfl
  trouble := fun _ => by simp [plainScheme, plainPlatform]

/-- A payment whose first two attempts at the transfer get lost. -/
def unreachedTransfer : List Event :=
  [.start 0 none, .attempt (plainFate .through), .attempt (plainFate .through),
    .attempt (plainFate (.unreached "connection refused")),
    .attempt (plainFate (.trouble false 503)), .attempt (plainFate .through)]

theorem unreachedTransfer_not_aborted :
    (∃ s fl r, run (step handlerClient plainPlatform somePayment plainScheme)
        (.init ⟨[], []⟩) unreachedTransfer = some s ∧ s.flow = some fl ∧
        fl.phase = .returned (.ok r)) ∧
      Throughout (step handlerClient plainPlatform somePayment plainScheme)
        (NotAborted plainPlatform somePayment) (.init ⟨[], []⟩) unreachedTransfer := by
  have hrun : (run (step handlerClient plainPlatform somePayment plainScheme)
      (.init ⟨[], []⟩) unreachedTransfer).isSome := by decide +kernel
  obtain ⟨t, ht⟩ := isSome_iff_exists.mp hrun
  exact ⟨⟨_, _, _, rfl, rfl, rfl⟩,
    (transfer_not_aborted_iff plainScheme_truthful ht).mpr (by decide +kernel)⟩

/-- The switch aborts, its answer is lost, and the next attempt finds a duplicate. -/
def abortedReplay : List Event :=
  [.start 0 none, .attempt (plainFate .through), .attempt (plainFate .through),
    .attempt { plainFate (.lost "connection reset") with decision := .aborted },
    .attempt (plainFate .through)]

/-- The call returns `COMMITTED` for a transfer that the switch aborted. -/
theorem aborted_transfer_returned_committed : plainScheme.Truthful plainPlatform ∧
      ∃ s fl r, run (step handlerClient plainPlatform somePayment plainScheme)
          (.init ⟨[], []⟩) abortedReplay = some s ∧ s.flow = some fl ∧
        fl.phase = .returned (.ok r) ∧ r.transferState = "COMMITTED" ∧
        s.switch.Aborted (plainPlatform.transferID somePayment) :=
  ⟨plainScheme_truthful, _, _, _, rfl, rfl, rfl, rfl, by decide +kernel⟩

end H2Fleet.Mojaloop
