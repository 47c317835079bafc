import H2Fleet.Core.Locks
import H2Fleet.Core.Run
import H2Fleet.Infra.Reply

/-!
# One webhook delivery

`attemptWebhookDelivery`, `recordDeliveryOutcome` and `RetryWebhookDelivery`, for one row of
`infra.webhook_deliveries`: its first attempt, started by the fan-out that has inserted the row, and
any number of retries.  A retry reads the status, a POST takes up to five seconds, and its outcome
is written by an UPDATE that asks for nothing but the id.

**What goes wrong.**  Two attempts can be under way at once.  The one that fails last writes
`failed` over `delivered`, and a retry that has read `pending` posts again after the other has
delivered.

**What is counted.**  `attempts` is increased when an outcome is written, so it lags behind the
POSTs.  It is increased without a POST when the request could not be built, and an outcome whose
UPDATE fails is only logged.
-/

namespace H2Fleet.Infra

/-! ## The row -/

inductive DeliveryStatus where
  | pending
  | delivered
  | failed
  deriving DecidableEq

/-- The columns of `infra.webhook_deliveries` that an attempt writes. -/
structure Delivery where
  status : DeliveryStatus
  attempts : ℕ
  lastError : Option String
  deliveredAt : Option ℤ
  deriving DecidableEq

/-- What a POST comes to: an error of the client, or an answer. -/
inductive PostResult where
  | error (text : String)
  | response (code : ℕ) (status : String)

/-- The outcome that `attemptWebhookDelivery` records. -/
def PostResult.outcome : PostResult → Bool × String
  | .error text => (false, text)
  | .response code status =>
    if 200 ≤ code ∧ code < 300 then (true, "") else (false, "receiver returned " ++ status)

def recordDeliveryOutcome (now : ℤ) (outcome : Bool × String) (d : Delivery) : Delivery :=
  if outcome.1 then ⟨.delivered, d.attempts + 1, none, some now⟩
  else { d with status := .failed, attempts := d.attempts + 1, lastError := some outcome.2 }

/-! ## Calls -/

/-- `retry`: the attempt belongs to a call of `RetryWebhookDelivery`. -/
inductive DeliveryCall where
  /-- The SELECT of `RetryWebhookDelivery` is next. -/
  | loading
  | attempting (retry : Bool)
  | posting (retry : Bool)
  /-- The UPDATE of `recordDeliveryOutcome` is next. -/
  | recording (retry : Bool) (outcome : Bool × String)
  | reloading
  | answered (reply : Reply) (status : Option DeliveryStatus)
  /-- The fan-out goes on to the next subscription. -/
  | returned

open DeliveryCall

def DeliveryCall.afterwards (retry : Bool) : DeliveryCall := if retry then .reloading else .returned

/-- The attempt has loaded the row, and its outcome is not written yet. -/
def DeliveryCall.underway : DeliveryCall → Option Unit
  | .attempting _ | .posting _ | .recording _ _ => some ()
  | _ => none

def DeliveryCall.waiting : DeliveryCall → ℤ
  | .recording _ _ => 1
  | _ => 0

/-- Not stored: `everDelivered`, that the row was `delivered`; `late`, that a POST was started after
that; `finished`, how many have come to an end. -/
structure DeliverySystem where
  row : Delivery
  calls : List DeliveryCall
  everDelivered : Bool
  late : Bool
  finished : ℕ

namespace DeliverySystem

open Option

def init : DeliverySystem := ⟨⟨.pending, 0, none, none⟩, [.attempting false], false, false, 0⟩

variable (s : DeliverySystem)

def setCall (i : ℕ) (c : DeliveryCall) : DeliverySystem :=
  { s with calls := s.calls.set i c }

/-- `unbuildable` is the error of `NewRequestWithContext`; an outcome may be lost. -/
inductive Event where
  | retryWebhookDelivery
  | load (i : ℕ)
  | send (i : ℕ) (unbuildable : Option String)
  | finish (i : ℕ) (result : PostResult)
  | record (i : ℕ) (now : ℤ)
  | loseOutcome (i : ℕ)
  | reload (i : ℕ)

def recorded (now : ℤ) (outcome : Bool × String) : DeliverySystem :=
  { s with
    row := recordDeliveryOutcome now outcome s.row
    everDelivered := s.everDelivered || outcome.1 }

def advance : Event → DeliveryCall → Option DeliverySystem
  | .load i, .loading =>
    some (s.setCall i (if s.row.status = .delivered then
        .answered (.conflict "delivery already succeeded") none
      else .attempting true))
  | .send i none, .attempting retry =>
    some ({ s with late := s.late || s.everDelivered }.setCall i (.posting retry))
  | .send i (some text), .attempting retry => some (s.setCall i (.recording retry (false, text)))
  | .finish i result, .posting retry =>
    some ({ s with finished := s.finished + 1 }.setCall i (.recording retry result.outcome))
  | .record i now, .recording retry outcome =>
    some ((s.recorded now outcome).setCall i (.afterwards retry))
  | .loseOutcome i, .recording retry _ => some (s.setCall i (.afterwards retry))
  | .reload i, .reloading => some (s.setCall i (.answered .ok (some s.row.status)))
  | _, _ => none

def Event.index : Event → Option ℕ
  | .retryWebhookDelivery => none
  | .load i | .send i _ | .finish i _ | .record i _ | .loseOutcome i | .reload i => some i

def step (e : Event) : Option DeliverySystem :=
  match e.index with
  | none => some { s with calls := s.calls ++ [.loading] }
  | some i => (s.calls[i]?).bind (s.advance e)

def waiting : ℤ := (s.calls.map DeliveryCall.waiting).sum

/-- **The promise.**  Once delivered, the row stays delivered and nothing is posted, and `attempts`
counts the POSTs that have come to an end, up to the outcomes still to be written. -/
structure Kept : Prop where
  delivered : s.everDelivered = true → s.row.status = .delivered
  quiet : s.late = false
  attempts : s.row.attempts + s.waiting = s.finished

/-- No retry loads the row while another attempt is underway; requests can be built, and outcomes
are written. -/
def Apart : Event → Prop
  | .load _ => ∀ c ∈ s.calls, c.underway = none
  | .send _ unbuildable => unbuildable = none
  | .loseOutcome _ => False
  | _ => True

instance (e) : Decidable (s.Apart e) := by
  unfold Apart; split <;> infer_instance

/-! ## Attempts one at a time -/

/-- One attempt is underway at a time, on a row not delivered. -/
structure Sound : Prop where
  kept : s.Kept
  alone : Exclusive underway s.calls
  undelivered : ∀ c ∈ s.calls, c.underway = some () → s.everDelivered = false

variable {s t : DeliverySystem} {i : ℕ}

lemma waiting_setCall (s : DeliverySystem) {c : DeliveryCall} (h : s.calls[i]? = some c)
    (c' : DeliveryCall) : (s.setCall i c').waiting = s.waiting - c.waiting + c'.waiting :=
  sum_set DeliveryCall.waiting h

@[simp] lemma waiting_afterwards (retry : Bool) : (afterwards retry).waiting = 0 := by
  cases retry <;> rfl

/-- An attempt that goes on: nobody else has come in. -/
lemma Sound.calls_set (hs : s.Sound) {c c' : DeliveryCall} (h : s.calls[i]? = some c)
    (hold : c'.underway = some () → c.underway = some ()) :
    Exclusive underway (s.calls.set i c') ∧
      ∀ d ∈ s.calls.set i c', d.underway = some () → s.everDelivered = false := by
  refine ⟨hs.alone.set h fun _ hk => .inl (hold hk), forall_mem_set hs.undelivered fun hk => ?_⟩
  exact hs.undelivered c (List.mem_of_getElem? h) (hold hk)

lemma Sound.setCall (hs : s.Sound) {c c' : DeliveryCall} (h : s.calls[i]? = some c)
    (hwait : c'.waiting = c.waiting) (hold : c'.underway = some () → c.underway = some ()) :
    (s.setCall i c').Sound := by
  obtain ⟨halone, hundelivered⟩ := hs.calls_set h hold
  refine ⟨⟨hs.kept.delivered, hs.kept.quiet, ?_⟩, halone, hundelivered⟩
  rw [s.waiting_setCall h, hwait, sub_add_cancel]
  exact hs.kept.attempts

lemma Sound.load (hs : s.Sound) (h : s.calls[i]? = some .loading)
    (hfree : ∀ c ∈ s.calls, c.underway = none) (hopen : s.row.status ≠ .delivered) :
    (s.setCall i (.attempting true)).Sound := by
  have hever : s.everDelivered = false := by
    by_contra hne
    exact hopen (hs.kept.delivered (by simpa using hne))
  refine ⟨⟨hs.kept.delivered, hs.kept.quiet, ?_⟩, hs.alone.set h fun k _ => .inr fun c hc => ?_,
    fun _ _ _ => hever⟩
  · rw [s.waiting_setCall h]
    exact (sub_add_cancel s.waiting 0).symm ▸ hs.kept.attempts
  · rw [hfree c hc]
    exact nofun

variable {retry : Bool}

lemma Sound.send (hs : s.Sound) (h : s.calls[i]? = some (.attempting retry)) :
    ({ s with late := s.late || s.everDelivered }.setCall i (.posting retry)).Sound := by
  have hever := hs.undelivered _ (List.mem_of_getElem? h) rfl
  have hsame : (s.late || s.everDelivered) = s.late := by simp [hever]
  rw [hsame]
  exact hs.setCall h rfl fun _ => rfl

lemma Sound.finish (hs : s.Sound) (result : PostResult) (h : s.calls[i]? = some (.posting retry)) :
    ({ s with finished := s.finished + 1 }.setCall i (.recording retry result.outcome)).Sound := by
  have hold : (recording retry result.outcome).underway = some () →
      (posting retry).underway = some () := fun _ => rfl
  obtain ⟨halone, hundelivered⟩ := hs.calls_set h hold
  refine ⟨⟨hs.kept.delivered, hs.kept.quiet, ?_⟩, halone, hundelivered⟩
  have hwait :=
    waiting_setCall { s with finished := s.finished + 1 } h (.recording retry result.outcome)
  have hkept := hs.kept.attempts
  rw [hwait]
  show (s.row.attempts : ℤ) + (s.waiting - 0 + 1) = (s.finished + 1 : ℕ)
  push_cast
  omega

@[simp] lemma underway_afterwards (retry : Bool) : (afterwards retry).underway = none := by
  cases retry <;> rfl

lemma Sound.record (hs : s.Sound) {outcome : Bool × String} (now : ℤ)
    (h : s.calls[i]? = some (.recording retry outcome)) :
    ((s.recorded now outcome).setCall i (.afterwards retry)).Sound := by
  have hever := hs.undelivered _ (List.mem_of_getElem? h) rfl
  -- this attempt was the only one, so none is underway now
  have hnone : ∀ c ∈ s.calls.set i (afterwards retry), c.underway ≠ some () :=
    hs.alone.released h rfl (by simp)
  refine ⟨⟨fun hdelivered => ?_, hs.kept.quiet, ?_⟩, .of_free fun _ => hnone,
    fun c hc hcu => absurd hcu (hnone c hc)⟩
  · have hok : outcome.1 = true := by
      rcases (Bool.or_eq_true _ _).mp hdelivered with hold | hok
      · rw [hever] at hold
        cases hold
      · exact hok
    show (recordDeliveryOutcome now outcome s.row).status = .delivered
    rw [recordDeliveryOutcome, if_pos hok]
  · have hwait := (s.recorded now outcome).waiting_setCall h (.afterwards retry)
    have hkept := hs.kept.attempts
    have hattempts : (recordDeliveryOutcome now outcome s.row).attempts = s.row.attempts + 1 := by
      rw [recordDeliveryOutcome]
      split_ifs <;> rfl
    rw [hwait, waiting_afterwards]
    show ((recordDeliveryOutcome now outcome s.row).attempts : ℤ) + (s.waiting - 1 + 0) = s.finished
    rw [hattempts]
    push_cast
    omega

lemma Sound.step (hs : s.Sound) {e : Event} (hok : s.Apart e) (h : step s e = some t) :
    t.Sound := by
  cases e with
  | retryWebhookDelivery =>
    cases h
    refine ⟨⟨hs.kept.delivered, hs.kept.quiet, ?_⟩, hs.alone.concat nofun,
      forall_mem_concat hs.undelivered nofun⟩
    have hwait : waiting { s with calls := s.calls ++ [.loading] } = s.waiting := by
      simp [waiting, DeliveryCall.waiting]
    rw [hwait]
    exact hs.kept.attempts
  | load i =>
    obtain ⟨c, hc, hstep⟩ := bind_eq_some_iff.mp h
    cases c with
    | loading =>
      simp only [advance, Option.some.injEq] at hstep
      split_ifs at hstep with hdelivered <;> rw [← hstep]
      · exact hs.setCall hc rfl nofun
      · exact hs.load hc hok hdelivered
    | _ => cases hstep
  | send i unbuildable =>
    obtain ⟨c, hc, hstep⟩ := bind_eq_some_iff.mp h
    cases hok
    cases c with
    | attempting retry =>
      cases hstep
      exact hs.send hc
    | _ => cases hstep
  | finish i result =>
    obtain ⟨c, hc, hstep⟩ := bind_eq_some_iff.mp h
    cases c with
    | posting retry =>
      cases hstep
      exact hs.finish result hc
    | _ => cases hstep
  | record i now =>
    obtain ⟨c, hc, hstep⟩ := bind_eq_some_iff.mp h
    cases c with
    | recording retry outcome =>
      cases hstep
      exact hs.record now hc
    | _ => cases hstep
  | loseOutcome i => exact False.elim hok
  | reload i =>
    obtain ⟨c, hc, hstep⟩ := bind_eq_some_iff.mp h
    cases c with
    | reloading =>
      cases hstep
      exact hs.setCall hc rfl nofun
    | _ => cases hstep

lemma sound_init : init.Sound where
  kept := ⟨nofun, rfl, rfl⟩
  alone := Exclusive.nil.concat fun _ _ _ hb => absurd hb List.not_mem_nil
  undelivered _ _ _ := rfl

/-- **When a delivered webhook stays delivered**: in any run whose attempts are apart, the promise
holds in every state. -/
theorem delivered_stays_delivered {es : List Event} (hapart : Meets step Apart init es) :
    Throughout step Kept init es := by
  have hstep : ∀ s e t, Sound s → s.Apart e → step s e = some t → Sound t :=
    fun _ _ _ hs hok h => hs.step hok h
  exact hapart.throughout (fun _ hs => hs.kept) hstep sound_init

/-- The first attempt fails, a retry delivers, and the next is answered 409. -/
def redelivered : List Event := [.send 0 none, .finish 0 (.response 503 "503 Service Unavailable"),
  .record 0 0, .retryWebhookDelivery, .load 1, .send 1 none, .retryWebhookDelivery,
  .finish 1 (.response 204 "204 No Content"), .record 1 60, .reload 1, .load 2]

theorem redelivered_stays_delivered :
    ∃ t, run step init redelivered = some t ∧ t.row = ⟨.delivered, 2, none, some 60⟩ ∧
      Throughout step Kept init redelivered := by
  obtain ⟨t, ht, hrow⟩ : ∃ t, run step init redelivered = some t ∧
      t.row = ⟨.delivered, 2, none, some 60⟩ := by decide +kernel
  exact ⟨t, ht, hrow, delivered_stays_delivered (by decide +kernel)⟩

/-- A retry overtakes the first attempt, which is not answered in time. -/
def overtaken : List Event := [.send 0 none, .retryWebhookDelivery, .load 1, .send 1 none,
  .finish 1 (.response 200 "200 OK"), .record 1 1, .finish 0 (.error "context deadline exceeded"),
  .record 0 5]

/-- **A delivered webhook is failed again**: the first attempt writes its timeout. -/
theorem delivered_overwritten :
    ((run step init (overtaken.take 6)).map fun s => s.row.status) = some .delivered ∧
      ((run step init overtaken).map fun s => s.row.status) = some .failed := by
  decide +kernel

end DeliverySystem

end H2Fleet.Infra
