import H2Fleet.Mojaloop.Client

/-!
# The retry budget of the payer flow

`Config` says of `RetryBudget` that it bounds the whole flow.  `do` computes its deadline when it is
called, and a flow calls it three times: each step has a budget of its own, and the last attempt of
a step may start just before its deadline.
-/

namespace H2Fleet.Mojaloop

open Option Phase Mojaloop.Flow

section Budget

variable {c : Client} {p : Platform} {req : PaymentRequest} {ctx : Option ℤ}

/-! ## Every call returns -/

def attemptBound (c : Client) : ℕ := 3 * ((c.retryBudget / firstBackoff).toNat + 1)

/-- The attempts to come, and one for each first backoff that fits before the deadline. -/
def Flow.left (c : Client) (s : Flow) : ℕ :=
  match s.phase.loop with
  | none => 0
  | some l =>
    (s.phase.remaining - 1) * ((c.retryBudget / firstBackoff).toNat + 1) +
      ((l.deadline - s.now) / firstBackoff).toNat + 1

lemma firstBackoff_pos : 0 < firstBackoff := by decide

lemma firstBackoff_le_max : firstBackoff ≤ maxBackoff := by decide

/-- The backoff is never shorter than the first. -/
def Flow.Backs (s : Flow) : Prop := ∀ l, s.phase.loop = some l → firstBackoff ≤ l.backoff

variable {a : Attempt}

lemma Stepped.backs {s s' : Flow} (h : Stepped c ctx s a s') (hs : s.Backs) : s'.Backs := by
  cases h with
  | retried l hl _ =>
    intro l' hl'
    rw [loop_withLoop hl] at hl'
    cases hl'
    exact le_nextBackoff firstBackoff_pos.le (hs l hl) firstBackoff_le_max
  | ended l phase _ _ hnew =>
    intro l' hl'
    rw [hnew l' hl']
    exact le_rfl

lemma fresh_left_le {now : ℤ} {l : Loop} (hl : l = beginDo c ctx now) :
    ((l.deadline - now) / firstBackoff).toNat ≤ (c.retryBudget / firstBackoff).toNat := by
  have hdead := beginDo_deadline_le c ctx now
  subst hl
  exact Int.toNat_le_toNat (Int.ediv_le_ediv firstBackoff_pos (by omega))

lemma Stepped.left_lt {s s' : Flow} (h : Stepped c ctx s a s') (hs : s.Backs) (ha : 0 ≤ a.elapsed) :
    s'.left c < s.left c := by
  cases h with
  | retried l hl hretry =>
    have hback := hs l hl
    have hpos := firstBackoff_pos
    have hroom : s.now + a.elapsed + l.backoff < l.deadline := hretry
    simp only [left, hl, loop_withLoop hl, remaining_withLoop, Loop.next]
    -- the sleep takes one first backoff at least off the time to the deadline
    have hless : (l.deadline - (s.now + a.elapsed + l.backoff)) / firstBackoff + 1 ≤
        (l.deadline - s.now) / firstBackoff := by
      have hshift : (l.deadline - (s.now + a.elapsed + l.backoff) + firstBackoff) / firstBackoff =
          (l.deadline - (s.now + a.elapsed + l.backoff)) / firstBackoff + 1 := by
        rw [Int.add_ediv_of_dvd_right (dvd_refl _), Int.ediv_self hpos.ne']
      rw [← hshift]
      exact Int.ediv_le_ediv hpos (by omega)
    have hnonneg : 0 ≤ (l.deadline - (s.now + a.elapsed + l.backoff)) / firstBackoff :=
      Int.ediv_nonneg (by omega) hpos.le
    omega
  | ended l phase hl hrem hnew =>
    have hpos := remaining_pos hl
    simp only [left, hl]
    cases hloop : phase.loop with
    | none => exact Nat.succ_pos _
    | some l' =>
      have hfresh := fresh_left_le (hnew l' hloop)
      have hrem' := remaining_pos hloop
      have hsteps : phase.remaining - 1 + 1 ≤ s.phase.remaining - 1 := by omega
      have hmul := Nat.mul_le_mul_right ((c.retryBudget / firstBackoff).toNat + 1) hsteps
      rw [Nat.add_mul, Nat.one_mul] at hmul
      simp only
      omega

lemma phase_enter {start : ℤ} {l : Loop} (hl : (enter c req ctx start).phase.loop = some l) :
    (enter c req ctx start).phase = .getParty l ∧ l = beginDo c ctx start := by
  simp only [enter] at hl ⊢
  split_ifs at hl ⊢ <;> cases hl
  exact ⟨rfl, rfl⟩

lemma enter_backs (start : ℤ) : (enter c req ctx start).Backs := by
  intro l hl
  obtain ⟨-, rfl⟩ := phase_enter hl
  exact le_rfl

lemma enter_left_le (c : Client) (req : PaymentRequest) (ctx : Option ℤ) (start : ℤ) :
    (enter c req ctx start).left c ≤ attemptBound c := by
  rw [left]
  cases hloop : (enter c req ctx start).phase.loop with
  | none => exact Nat.zero_le _
  | some l =>
    obtain ⟨hbegin, hl⟩ := phase_enter hloop
    have hfresh := fresh_left_le hl
    simp only [hbegin, remaining, attemptBound]
    show 2 * _ + ((l.deadline - start) / firstBackoff).toNat + 1 ≤ _
    omega

lemma length_le_left : ∀ (attempts : List Attempt) {s s' : Flow}, s.Backs →
    run (step c p req ctx) s attempts = some s' → attempts.length + s'.left c ≤ s.left c
  | [], s, s', _, hrun => by
    rw [run_nil, some.injEq] at hrun
    simp [hrun]
  | a :: attempts, s, s', hs, hrun => by
    obtain ⟨t, hstep, hrest⟩ := run_cons_eq_some.mp hrun
    obtain ⟨hlimit, hstepped⟩ := step_cases hstep
    have ih := length_le_left attempts (hstepped.backs hs) hrest
    have hlt := hstepped.left_lt hs hlimit.1
    simp only [List.length_cons]
    omega

variable {s : Flow}

/-- **Every call returns**, after a number of attempts that the configuration bounds. -/
theorem attempts_le {attempts : List Attempt} {start : ℤ}
    (hrun : run (step c p req ctx) (enter c req ctx start) attempts = some s) :
    attempts.length ≤ attemptBound c := by
  have hle := length_le_left attempts (enter_backs start) hrun
  have hbound := enter_left_le c req ctx start
  omega

/-! ## Room for three attempts and no retry -/

/-- The time of a call, and no room for a retry, if the first backoff is the whole budget. -/
structure OneAttemptEach (c : Client) (start : ℤ) (s : Flow) : Prop where
  time : s.now ≤ start + (3 - s.phase.remaining) * c.attemptTimeout
  few : s.phase.remaining ≤ 3
  deadline : ∀ l, s.phase.loop = some l → l.deadline ≤ s.now + c.retryBudget
  backs : s.Backs

lemma OneAttemptEach.step (hbudget : c.retryBudget ≤ firstBackoff) {start : ℤ} {s s' : Flow}
    (hs : OneAttemptEach c start s) (h : s.step c p req ctx a = some s') :
    OneAttemptEach c start s' := by
  obtain ⟨⟨hpos, hlimit⟩, hstepped⟩ := step_cases h
  have hbacks := hstepped.backs hs.backs
  cases hstepped with
  | retried l hl hretry =>
    have hdead := hs.deadline l hl
    have hback := hs.backs l hl
    have hroom : s.now + a.elapsed + l.backoff < l.deadline := hretry
    omega
  | ended l phase hl hrem hnew =>
    have hle := hlimit.trans (attemptLimit_le c ctx s.now)
    have htime := hs.time
    have hfew := hs.few
    have hsteps : ((phase.remaining : ℕ) : ℤ) + 1 ≤ s.phase.remaining := by exact_mod_cast hrem
    have hmul : (3 - (s.phase.remaining : ℤ)) * c.attemptTimeout + c.attemptTimeout ≤
        (3 - (phase.remaining : ℤ)) * c.attemptTimeout := by
      have h := mul_le_mul_of_nonneg_right
        (show (3 - (s.phase.remaining : ℤ)) + 1 ≤ 3 - (phase.remaining : ℤ) by omega)
        c.attemptTimeout_pos.le
      rwa [add_mul, one_mul] at h
    refine ⟨?_, hrem.le.trans hfew, fun l' hl' => ?_, hbacks⟩
    · show s.now + a.elapsed ≤ _
      linarith
    · rw [hnew l' hl']
      exact beginDo_deadline_le c ctx _

lemma enter_oneAttemptEach (c : Client) (req : PaymentRequest) (ctx : Option ℤ) (start : ℤ) :
    OneAttemptEach c start (enter c req ctx start) where
  time := by
    have hfew : (enter c req ctx start).phase.remaining ≤ 3 := by
      simp only [enter]
      split_ifs <;> simp [remaining]
    have hnonneg : 0 ≤ (3 - ((enter c req ctx start).phase.remaining : ℤ)) * c.attemptTimeout :=
      mul_nonneg (by omega) c.attemptTimeout_pos.le
    show start ≤ _
    linarith
  few := by
    simp only [enter]
    split_ifs <;> simp [remaining]
  deadline := by
    intro l hl
    obtain ⟨-, rfl⟩ := phase_enter hl
    exact beginDo_deadline_le c ctx start
  backs := enter_backs start

/-! ## A slow switch

Attempts that fail at once leave the backoffs; the last attempt of each step is made as late as they
allow, takes its full time and succeeds. -/

@[simp] lemma Phase.withLoop_withLoop (phase : Phase) (l l' : Loop) :
    (phase.withLoop l).withLoop l' = phase.withLoop l' := by
  cases phase <;> rfl

def refused : Attempt := ⟨0, false, .failed "connection refused"⟩

lemma step_refused {l : Loop} (hl : s.phase.loop = some l) (hretry : l.MayRetry s.now) :
    s.step c p req none refused = some ⟨s.now + l.backoff,
    s.phase.withLoop (l.next maxBackoff)⟩ := by
  have hlimit : 0 ≤ refused.elapsed ∧ refused.elapsed ≤ attemptLimit c none s.now :=
    ⟨le_rfl, c.attemptTimeout_pos.le⟩
  have hended : s.phase.ended c p req none (s.now + refused.elapsed)
      (!(refused.cancelled || expired none (s.now + refused.elapsed)))
      (!refused.cancelled && decide (refused.elapsed = attemptLimit c none s.now))
      refused.outcome = none := by
    have hretry' : l.MayRetry (s.now + 0) := by rwa [add_zero]
    cases hphase : s.phase with
    | getParty l' | requestQuote payee q l' | sendTransfer payee t l' =>
      rw [hphase, loop] at hl
      cases hl
      simp [ended, attemptEnd, refused, expired, hretry]
    | returned r => rw [hphase, loop] at hl; cases hl
  rw [step, if_pos hlimit, hl]
  simp only [map_some, hended]
  rw [show s.now + refused.elapsed = s.now from add_zero _]

lemma run_refused {l l' : Loop} {last : ℤ} (hl : s.phase.loop = some l)
    (hwait : Relation.ReflTransGen (Retried maxBackoff) (s.now, l) (last, l')) :
    ∃ attempts, run (step c p req none) s attempts = some ⟨last, s.phase.withLoop l'⟩ := by
  generalize hy : (last, l') = y at hwait
  induction hwait generalizing last l' with
  | refl =>
    cases hy
    refine ⟨[], ?_⟩
    rw [run_nil]
    cases hphase : s.phase with
    | getParty l' | requestQuote payee q l' | sendTransfer payee t l' =>
      rw [hphase, loop] at hl
      cases hl
      rw [withLoop, ← hphase]
    | returned r => rw [hphase, loop] at hl; cases hl
  | @tail x y hreach hretried ih =>
    have hbefore := ih rfl
    obtain ⟨attempts, hrun⟩ := hbefore
    obtain ⟨hmay, rfl⟩ := hretried
    cases hy
    refine ⟨attempts ++ [refused], ?_⟩
    have hloop : (s.phase.withLoop x.2).loop = some x.2 := loop_withLoop hl x.2
    rw [run_append, hrun, bind_some, run_cons, step_refused hloop hmay]
    simp

/-- The steps can each be kept waiting for a third of `x`. -/
def CanWait (c : Client) (x : ℤ) : Prop :=
  ∀ t, ∃ (last : ℤ) (l : Loop),
    Relation.ReflTransGen (Retried maxBackoff) (t, beginDo c none t) (last, l) ∧ x ≤ 3 * (last - t)

lemma canWait_zero (c : Client) : CanWait c 0 := fun t => ⟨t, _, .refl, by omega⟩

lemma canWait_budget (h : firstBackoff < c.retryBudget) : CanWait c c.retryBudget := by
  intro t
  obtain ⟨last, l, hreach, -, -, -, hthird⟩ :=
    exists_last_start firstBackoff_pos firstBackoff_le_max h t
  exact ⟨last, l, hreach, hthird⟩

lemma enter_somePayment (c : Client) (start : ℤ) :
    enter c somePayment none start = ⟨start, .getParty (beginDo c none start)⟩ := by
  rfl

def slow (c : Client) (body : String) : Attempt := ⟨c.attemptTimeout, false, .answered 200 body⟩

variable {body : String}

lemma run_wait_slow {x : ℤ} (hwait : CanWait c x) (t : ℤ) {phase : Phase} {next : ℤ → Phase}
    (hended : ∀ (l : Loop) (now : ℤ) (live timedOut : Bool),
    (phase.withLoop l).ended c p req none now
      live timedOut (.answered 200 body) = some (next now))
    (hl : phase.loop = some (beginDo c none t)) :
    ∃ attempts t', run (step c p req none) ⟨t, phase⟩ attempts = some ⟨t', next t'⟩ ∧
      x + 3 * c.attemptTimeout ≤ 3 * (t' - t) := by
  obtain ⟨last, l, hreach, hlong⟩ := hwait t
  have hwaiting : ∃ attempts, run (step c p req none) ⟨t, phase⟩ attempts =
      some ⟨last, phase.withLoop l⟩ := run_refused hl hreach
  obtain ⟨attempts, hrun⟩ := hwaiting
  have hslow : step c p req none ⟨last, phase.withLoop l⟩ (slow c body) =
      some ⟨last + c.attemptTimeout, next (last + c.attemptTimeout)⟩ := by
    have hlimit : 0 ≤ (slow c body).elapsed ∧ (slow c body).elapsed ≤ attemptLimit c none last :=
      ⟨c.attemptTimeout_pos.le, le_rfl⟩
    rw [step, if_pos hlimit, loop_withLoop hl l]
    simp [slow, hended]
  refine ⟨attempts ++ [slow c body], last + c.attemptTimeout, ?_, by omega⟩
  rw [run_append, hrun, bind_some, run_cons, hslow]
  rfl

/-- The second step of a call, once the payee is found. -/
def quoting (c : Client) (p : Platform) (party : Party) (now : ℤ) : Phase :=
  .requestQuote party (quoteRequest c p somePayment now) (beginDo c none now)

/-- The third step, after a quote without a body. -/
def transferring (c : Client) (p : Platform) (party : Party) (now : ℤ) : Phase :=
  .sendTransfer party (transferRequest c p somePayment party ⟨⟨"", ""⟩, "", "", "", "", ""⟩ now)
    (beginDo c none now)

lemma getParty_ended {party : Party} (hbody : body ≠ "")
    (hdecode : p.decodeParties body = .ok party) (hfsp : party.fspID ≠ "") (l l' : Loop) (now : ℤ)
    (live timedOut : Bool) :
    ((getParty l).withLoop l').ended c p somePayment none now live timedOut
      (.answered 200 body) = some (quoting c p party now) := by
  simp [withLoop, ended, attemptEnd, unmarshal, hbody, hdecode, getPartyEnd, hfsp,
    afterGetParty, quoting]

lemma quoting_ended (party : Party) (t : ℤ) (l : Loop) (now : ℤ) (live timedOut : Bool) :
    ((quoting c p party t).withLoop l).ended c p somePayment none now live timedOut
      (.answered 200 "") = some (transferring c p party now) := by
  simp [withLoop, ended, attemptEnd, unmarshal, requestQuoteEnd, afterRequestQuote,
    quoting, transferring]

lemma transferring_ended (party : Party) (t : ℤ) : ∃ res,
    ∀ (l : Loop) (now : ℤ) (live timedOut : Bool),
      ((transferring c p party t).withLoop l).ended c p somePayment none now live timedOut
        (.answered 200 "") = some (.returned res) := by
  obtain ⟨res, hres⟩ := afterSendTransfer_returned p somePayment party
    (sendTransferEnd p (transferRequest c p somePayment party ⟨⟨"", ""⟩, "", "", "", "", ""⟩ t)
      (.ok ⟨"", "", "", ""⟩))
  refine ⟨res, fun l now live timedOut => ?_⟩
  rw [← hres]
  simp [withLoop, ended, attemptEnd, unmarshal, transferring]

/-- **A call can be kept for as long as its steps wait**, and three attempts. -/
lemma exists_slow_run {x : ℤ} (hwait : CanWait c x) {party : Party} (hbody : body ≠ "")
    (hdecode : p.decodeParties body = .ok party) (hfsp : party.fspID ≠ "") :
    ∃ attempts s, run (step c p somePayment none) (enter c somePayment none 0) attempts = some s ∧
      x + 3 * c.attemptTimeout ≤ s.now := by
  obtain ⟨as₁, t₁, hrun₁, hlong₁⟩ :=
    run_wait_slow hwait 0 (getParty_ended (c := c) hbody hdecode hfsp (beginDo c none 0)) rfl
  obtain ⟨as₂, t₂, hrun₂, hlong₂⟩ := run_wait_slow hwait t₁ (quoting_ended (p := p) party t₁) rfl
  obtain ⟨res, hreturned⟩ := transferring_ended (c := c) (p := p) party t₂
  obtain ⟨as₃, t₃, hrun₃, hlong₃⟩ := run_wait_slow hwait t₂ hreturned rfl
  refine ⟨as₁ ++ (as₂ ++ as₃), ⟨t₃, .returned res⟩, ?_, ?_⟩
  · rw [enter_somePayment, run_append, hrun₁, bind_some, run_append, hrun₂, bind_some, hrun₃]
  · show x + 3 * c.attemptTimeout ≤ t₃
    omega

/-! ## The budget and the flow -/

/-- **Whether the budget bounds the flow**: every call returns within `RetryBudget` and one
`AttemptTimeout`, whatever the switch does, if and only if no step is ever retried and the budget
has room for two attempts. -/
theorem transfer_within_budget_iff (c : Client) {body : String} {party : Party} (hbody : body ≠ "")
    (hdecode : p.decodeParties body = .ok party) (hfsp : party.fspID ≠ "") :
    (∀ (req : PaymentRequest) (ctx : Option ℤ) (start : ℤ) (attempts : List Attempt) (s : Flow),
      run (step c p req ctx) (enter c req ctx start) attempts = some s →
        attempts.length ≤ attemptBound c ∧ s.now ≤ start + c.retryBudget + c.attemptTimeout) ↔
    c.retryBudget ≤ firstBackoff ∧ 2 * c.attemptTimeout ≤ c.retryBudget := by
  have hpos := c.attemptTimeout_pos
  constructor
  · intro hbound
    have hrun : ∀ x, CanWait c x → x + 3 * c.attemptTimeout ≤ c.retryBudget + c.attemptTimeout := by
      intro x hwait
      obtain ⟨attempts, s, hrun, hlong⟩ := exists_slow_run hwait hbody hdecode hfsp
      have h := (hbound somePayment none 0 attempts s hrun).2
      omega
    constructor
    · by_contra hretry
      have h := hrun _ (canWait_budget (not_le.mp hretry))
      omega
    · have h := hrun _ (canWait_zero c)
      omega
  · rintro ⟨hbudget, htwo⟩ req ctx start attempts s hrun
    refine ⟨attempts_le hrun, ?_⟩
    have hs : OneAttemptEach c start s := run_invariant_always (fun _ _ _ hs h => hs.step hbudget h)
      (enter_oneAttemptEach c req ctx start) hrun
    have hthree : (3 - (s.phase.remaining : ℤ)) * c.attemptTimeout ≤ 3 * c.attemptTimeout :=
      mul_le_mul_of_nonneg_right (by omega) hpos.le
    have htime := hs.time
    linarith

end Budget

/-! ## Two configurations -/

/-- Settings that leave no room for a retry. -/
def impatientConfig : Config :=
  { handlerConfig with attemptTimeout := 40 * millisecond, retryBudget := 90 * millisecond }

def impatientClient : Client where
  toConfig := { handlerClient.toConfig with
    attemptTimeout := 40 * millisecond, retryBudget := 90 * millisecond }
  attemptTimeout_pos := by decide
  attemptTimeout_le := by decide

/-- The two conditions can be met: 40 ms and 90 ms. -/
theorem impatient_within_budget : new impatientConfig = .ok impatientClient ∧
      ∀ (req : PaymentRequest) (ctx : Option ℤ) (start : ℤ) (attempts : List Attempt) (s : Flow),
        run (step impatientClient plainPlatform req ctx) (enter impatientClient req ctx start)
          attempts = some s → attempts.length ≤ attemptBound impatientClient ∧
            s.now ≤ start + impatientClient.retryBudget + impatientClient.attemptTimeout := by
  have hdecode : plainPlatform.decodeParties "payeefsp" = .ok ⟨"payeefsp", "Operator"⟩ := rfl
  exact ⟨rfl, (transfer_within_budget_iff impatientClient (by decide) hdecode (by decide)).mpr
    (by decide)⟩

/-- The first attempt of every step times out, and the second is slow. -/
def slowSwitch : List Attempt :=
  [⟨8 * second, false, .failed "context deadline exceeded"⟩,
    ⟨8 * second, false, .answered 200 "payeefsp"⟩,
    ⟨8 * second, false, .failed "context deadline exceeded"⟩, ⟨8 * second, false, .answered 200 ""⟩,
    ⟨8 * second, false, .failed "context deadline exceeded"⟩, ⟨8 * second, false, .answered 202 ""⟩]

/-- A call that succeeds takes 48.3 s, where budget and one attempt are 28 s. -/
theorem slow_switch_exceeds_budget : new handlerConfig = .ok handlerClient ∧
      ∃ s, run (step handlerClient plainPlatform somePayment none)
          (enter handlerClient somePayment none 0) slowSwitch = some s ∧
        (∃ r, s.phase = .returned (.ok r)) ∧ s.now = 48300 * millisecond ∧
        handlerClient.retryBudget + handlerClient.attemptTimeout < s.now := by
  refine ⟨rfl, ?_⟩
  exact ⟨_, rfl, ⟨_, rfl⟩, rfl, by decide⟩

end H2Fleet.Mojaloop
