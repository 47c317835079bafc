import H2Fleet.Core.Locks
import H2Fleet.Core.Run
import Mathlib.Data.Rat.Defs

/-!
# Transaction ids of chargers

A `ChargePointHandler` serves one connection.  It counts transactions from 1 and keeps the session
of each open one.  The charger goes on across connections: a message that was composed before a
reconnect arrives at a handler that never answered its id, or has answered it for something else.
-/

namespace H2Fleet.Infra.Charging

/-- A row of `infra.charging_sessions`, with the connection and the id of its StartTransaction. -/
structure Session where
  key : ℕ × ℕ
  meterStart : ℚ
  kwh : Option ℚ
  meterStop : Option ℚ
  completed : Bool
  deriving DecidableEq

/-- The messages about a session; `MeterValues` may have no sample with a register. -/
inductive Body where
  | meterValues (sample : Option (ℚ × ℚ))
  | stopTransaction (meterStop : ℚ)

def Body.stops : Body → Bool
  | .meterValues _ => false
  | .stopTransaction _ => true

/-- A message as composed; `owner` is the session it means. -/
structure Message where
  tx : ℕ
  owner : Option ℕ
  body : Body

/-- The rows, what was composed, and for each connection the next of `_tx_ids` and the
`_transactions`. -/
structure ChargePoint where
  sessions : List Session
  messages : List Message
  next : ℕ → ℕ
  transactions : ℕ × ℕ → Option ℕ

inductive Event where
  | startTransaction (conn : ℕ) (accepted : Bool) (meterStart : ℚ)
  | compose (tx : ℕ) (body : Body)
  | deliver (conn k : ℕ)

namespace ChargePoint

open List

def empty : ChargePoint := ⟨[], [], fun _ => 1, fun _ => none⟩

/-- The session of the latest StartTransaction that answered `t`. -/
def latest (s : ChargePoint) (t : ℕ) : Option ℕ :=
  ((range s.sessions.length).filter fun i => (s.sessions[i]?).any (·.key.2 = t)).getLast?

/-- An UPDATE of the session under a key, `AND status = 'active'`. -/
def update (s : ChargePoint) (key : ℕ × ℕ) (f : Session → Session) : List Session :=
  match s.transactions key with
  | none => s.sessions
  | some i => s.sessions.modify i fun x => if x.completed then x else f x

/-- `on_meter_values` and `on_stop_transaction`. -/
def receive (kwhFactor : ℚ) (s : ChargePoint) (key : ℕ × ℕ) : Body → ChargePoint
  | .meterValues none => s
  | .meterValues (some (register, factor)) =>
    { s with sessions := s.update key fun x =>
      { x with kwh := some ((register - x.meterStart) * factor) } }
  | .stopTransaction meterStop =>
    { s with
      sessions := s.update key fun x => { x with
        meterStop := some meterStop, completed := true
        kwh := some ((meterStop - x.meterStart) * kwhFactor) }
      transactions := Function.update s.transactions key none }

/-- **One step.**  Composed messages arrive on any connection, any number of times. -/
def step (kwhFactor : ℚ) (s : ChargePoint) : Event → Option ChargePoint
  | .startTransaction _ false _ => some s
  | .startTransaction conn true meterStart =>
    let key := (conn, s.next conn)
    some { s with
      sessions := s.sessions ++ [⟨key, meterStart, none, none, false⟩]
      next := Function.update s.next conn (s.next conn + 1)
      transactions := Function.update s.transactions key (some s.sessions.length) }
  | .compose t body => some { s with messages := s.messages ++ [⟨t, s.latest t, body⟩] }
  | .deliver conn k => s.messages[k]?.map fun m => s.receive kwhFactor (conn, m.tx) m.body

/-! ## The invariant -/

structure SessionsOk (s : ChargePoint) : Prop where
  ids : Exclusive (fun x : Session => some x.key) s.sessions
  fresh : ∀ x ∈ s.sessions, x.key.2 < s.next x.key.1
  known : ∀ key i, s.transactions key = some i ↔
    ∃ x : Session, s.sessions[i]? = some x ∧ x.key = key ∧ x.completed = false
  messages : ∀ m ∈ s.messages, ∀ o, m.owner = some o → ∃ x : Session, s.sessions[o]? = some x ∧
    x.key.2 = m.tx

variable {kwhFactor : ℚ} {s s' : ChargePoint} {key : ℕ × ℕ} {i : ℕ}

namespace SessionsOk

lemma start (h : s.SessionsOk) (c : ℕ) (meterStart : ℚ)
    (hs' : s.step kwhFactor (.startTransaction c true meterStart) = some s') : s'.SessionsOk := by
  cases hs'
  have hnew : ∀ x ∈ s.sessions, x.key ≠ (c, s.next c) := by
    intro x hx hkey
    have hfresh := h.fresh x hx
    rw [hkey] at hfresh
    exact lt_irrefl _ hfresh
  constructor
  · exact h.ids.concat fun k hk x hx hxk => hnew x hx (Option.some.inj (hxk.trans hk.symm))
  · refine forall_mem_concat (fun x hx => ?_) (by simp)
    have hfresh := h.fresh x hx
    simp only [Function.update_apply]
    split_ifs with hconn
    · rw [hconn] at hfresh
      omega
    · exact hfresh
  · intro key i
    simp only [Function.update_apply]
    split_ifs with hkey
    · subst hkey
      constructor
      · rintro ⟨⟩
        exact ⟨_, getElem?_concat_length, rfl, rfl⟩
      · rintro ⟨x, hx, hkey, -⟩
        rcases getElem?_append_cases hx with ⟨rfl, -⟩ | hx
        · rfl
        · exact absurd hkey (hnew x (mem_of_getElem? hx))
    · rw [h.known]
      refine ⟨fun ⟨x, hx, hrest⟩ => ⟨x, getElem?_append_old hx, hrest⟩, fun ⟨x, hx, hrest⟩ => ?_⟩
      rcases getElem?_append_cases hx with ⟨-, rfl⟩ | hx
      · exact absurd hrest.1.symm hkey
      · exact ⟨x, hx, hrest⟩
  · intro m hm o ho
    obtain ⟨x, hx, htx⟩ := h.messages m hm o ho
    exact ⟨x, getElem?_append_old hx, htx⟩

lemma update_eq (h : s.SessionsOk) (f : Session → Session) :
    s.update key f = s.sessions.map fun x => if x.key = key ∧
    x.completed = false then f x else x := by
  refine ext_getElem? fun i => ?_
  rw [update, getElem?_map]
  cases hx : s.sessions[i]? with
  | none => cases s.transactions key <;> simp [getElem?_eq_none_iff.mp hx]
  | some x =>
    have hknown := h.known key i
    simp only [hx, Option.some.injEq, exists_eq_left'] at hknown
    cases hkey : s.transactions key with
    | none =>
      rw [hkey] at hknown
      simp [hx, ← hknown]
    | some j =>
      rw [hkey, Option.some.injEq] at hknown
      by_cases hj : j = i
      · simp [hj, hx, hknown.mp hj]
      · simp [hj, hx, ← hknown]

lemma update_eq_self (h : s.SessionsOk) {f : Session → Session} : s.update key f = s.sessions ↔
    ∀ x ∈ s.sessions, x.key = key → x.completed = false → f x = x := by
  rw [h.update_eq]
  nth_rewrite 2 [← map_id s.sessions]
  rw [map_inj_left]
  refine forall₂_congr fun x _ => ?_
  split_ifs with hx
  · simp [hx]
  · simpa using fun hkey hopen => absurd ⟨hkey, hopen⟩ hx

/-- **What a message does**: it rewrites rows of its key; a StopTransaction takes the key out. -/
lemma receive_eq (h : s.SessionsOk) (kwhFactor : ℚ) (key : ℕ × ℕ) (b : Body) :
    ∃ g : Session → Session, s.receive kwhFactor key b = { s with
      sessions := s.sessions.map g
      transactions :=
        if b.stops then Function.update s.transactions key none else s.transactions } ∧
    ∀ x, (g x).key = x.key ∧ (g x).completed = (x.completed || b.stops && decide (x.key = key)) ∧
      (x.key ≠ key → g x = x) := by
  rcases b with (_ | _) | meterStop
  · exact ⟨id, by simp [receive, Body.stops], by simp [Body.stops]⟩
  · refine ⟨_, by rw [receive, h.update_eq]; rfl, fun x => ?_⟩
    split_ifs with hx <;> simp_all [Body.stops]
  · refine ⟨_, by rw [receive, h.update_eq]; rfl, fun x => ?_⟩
    split_ifs with hx <;> simp_all [Body.stops]

lemma receive (h : s.SessionsOk) (b : Body) : (s.receive kwhFactor key b).SessionsOk := by
  obtain ⟨g, heq, hg⟩ := h.receive_eq kwhFactor key b
  rw [heq]
  constructor
  · exact h.ids.map fun x => congrArg some (hg x).1
  · intro x' hx'
    obtain ⟨x, hx, rfl⟩ := mem_map.mp hx'
    rw [(hg x).1]
    exact h.fresh x hx
  · intro key' i
    have hknown := h.known key' i
    cases hx : s.sessions[i]? <;> by_cases hkey : key' = key <;> cases hb : b.stops <;>
      simp_all [getElem?_map]
  · intro m hm o ho
    obtain ⟨x, hx, htx⟩ := h.messages m hm o ho
    exact ⟨g x, by simp [hx], by rw [(hg x).1, htx]⟩

lemma step {e : Event} (h : s.SessionsOk) (hstep : s.step kwhFactor e = some s') :
    s'.SessionsOk := by
  cases e with
  | startTransaction c accepted meterStart =>
    cases accepted with
    | false =>
      cases hstep
      exact h
    | true => exact h.start c meterStart hstep
  | compose t body =>
    cases hstep
    refine { h with messages := forall_mem_concat h.messages fun o ho => ?_ }
    obtain ⟨-, ho⟩ := mem_filter.mp (mem_of_getLast? ho)
    cases hx : s.sessions[o]? with
    | none => simp [hx] at ho
    | some x => exact ⟨x, rfl, by simpa [hx] using ho⟩
  | deliver c k =>
    obtain ⟨m, -, rfl⟩ := Option.map_eq_some_iff.mp hstep
    exact h.receive m.body

lemma empty : empty.SessionsOk :=
  ⟨.nil, by simp [ChargePoint.empty], by simp [ChargePoint.empty], by simp [ChargePoint.empty]⟩

end SessionsOk

/-! ## Messages and sessions -/

/-- No open session under the key, no sample, or its energy is stored. -/
def Redundant (s : ChargePoint) (key : ℕ × ℕ) : Body → Prop
  | .meterValues none => True
  | .meterValues (some (register, factor)) => ∀ x ∈ s.sessions, x.key = key → x.completed = false →
      x.kwh = some ((register - x.meterStart) * factor)
  | .stopTransaction _ => ∀ x ∈ s.sessions, x.key = key → x.completed = true

lemma SessionsOk.redundant_iff (h : s.SessionsOk) (kwhFactor : ℚ) (b : Body) :
    (s.receive kwhFactor key b).sessions = s.sessions ↔ s.Redundant key b := by
  rcases b with (_ | ⟨register, factor⟩) | meterStop
  · exact ⟨fun _ => trivial, fun _ => rfl⟩
  · refine h.update_eq_self.trans (forall₄_congr fun x _ _ _ => ?_)
    cases x
    simp [eq_comm]
  · refine h.update_eq_self.trans (forall₃_congr fun x _ _ => ?_)
    rw [← Bool.not_eq_false]
    -- the UPDATE completes an open session, so it changes it
    refine ⟨fun hsame hopen => ?_, fun hclosed hopen => absurd hopen hclosed⟩
    have hcompleted := congrArg Session.completed (hsame hopen)
    rw [hopen] at hcompleted
    cases hcompleted

/-- **When a message does what it should**: it changes no session but the one it means, and a
StopTransaction leaves that completed. -/
theorem charging_message_iff {es : List Event} (hrun : run (step kwhFactor) empty es = some s)
    {m : Message} (hm : m ∈ s.messages) (c : ℕ) :
    let t := s.receive kwhFactor (c, m.tx) m.body
    ((∀ i, t.sessions[i]? ≠ s.sessions[i]? → m.owner = some i) ∧
      (m.body.stops = true → ∀ o x, m.owner = some o → t.sessions[o]? = some x →
      x.completed = true)) ↔
    (∃ o x, m.owner = some o ∧ s.sessions[o]? = some x ∧ x.key.1 = c) ∨
      s.Redundant (c, m.tx) m.body ∧
      (m.body.stops = true → ∀ o x, m.owner = some o → s.sessions[o]? = some x →
      x.completed = true) := by
  intro t
  have h : s.SessionsOk := run_invariant_always (fun s e s' h hs => h.step hs) .empty hrun
  rw [← h.redundant_iff kwhFactor]
  obtain ⟨g, heq, hg⟩ := h.receive_eq kwhFactor (c, m.tx) m.body
  have ht : ∀ i : ℕ, t.sessions[i]? = (s.sessions[i]?).map g := by simp [t, heq]
  have hchanged : ∀ i : ℕ, t.sessions[i]? ≠ s.sessions[i]? → ∃ x, s.sessions[i]? = some x ∧
    x.key = (c, m.tx) := by
    intro i hne
    rw [ht] at hne
    cases hx : s.sessions[i]? with
    | none => simp [hx] at hne
    | some x =>
      refine ⟨x, rfl, not_not.mp fun hkey => hne ?_⟩
      rw [hx, Option.map_some, (hg x).2.2 hkey]
  constructor
  · rintro ⟨hown, hstop⟩
    by_cases hsame : t.sessions = s.sessions
    · rw [hsame] at hstop
      exact .inr ⟨hsame, hstop⟩
    · obtain ⟨i, hi⟩ := not_forall.mp fun hall => hsame (ext_getElem? hall)
      obtain ⟨x, hx, hkey⟩ := hchanged i hi
      exact .inl ⟨i, x, hown i hi, hx, by rw [hkey]⟩
  · rintro (⟨o, x, howner, hx, hconn⟩ | ⟨hsame, hstop⟩)
    · obtain ⟨x', hx', htx⟩ := h.messages m hm o howner
      cases hx.symm.trans hx'
      have hkey : x.key = (c, m.tx) := Prod.ext hconn htx
      constructor
      · intro i hi
        obtain ⟨y, hy, hykey⟩ := hchanged i hi
        rw [howner, h.ids i o y x _ hy hx (congrArg some hykey) (congrArg some hkey)]
      · intro hstops o' y ho' hy
        cases howner.symm.trans ho'
        rw [ht, hx] at hy
        cases hy
        simp [(hg x).2.1, hkey, hstops]
    · refine ⟨fun i hi => absurd (by rw [hsame]) hi, ?_⟩
      rw [hsame]
      exact hstop

def started : List Event := [.startTransaction 0 true 100, .compose 1 (.stopTransaction 150)]

theorem charging_message_first : ∃ s m, run (step 1) empty started = some s ∧ m ∈ s.messages ∧
    m.owner = some 0 ∧ (s.receive 1 (0, m.tx) m.body).sessions.map (·.completed) = [true] ∧
      ∀ i, (s.receive 1 (0, m.tx) m.body).sessions[i]? ≠ s.sessions[i]? → m.owner = some i := by
  refine ⟨_, _, rfl, mem_cons_self, rfl, rfl, ?_⟩
  have hrun : run (step 1) empty started = some _ := rfl
  exact ((charging_message_iff hrun mem_cons_self 0).mpr (.inl ⟨0, _, rfl, rfl, rfl⟩)).1

/-- **After a reconnect a StopTransaction ends another session**, and its own stays active. -/
theorem stop_ends_another_session : ∃ s, run (step 1) empty
    (started ++ [.startTransaction 1 true 200, .deliver 1 0]) = some s ∧
    s.messages.map (·.owner) = [some 0] ∧
      s.sessions.map (·.completed) = [false, true] := by
  decide +kernel

/-! ## The energy of a session -/

/-- What a charger can say of the unit of its register. -/
inductive EnergyUnit where
  | wh
  | kwh
  | unstated
  deriving DecidableEq

def EnergyUnit.text : EnergyUnit → Option String
  | .wh => some "Wh"
  | .kwh => some "kWh"
  | .unstated => none

def energyRegisterKwhFactor (unit : Option String) (defaultFactor : ℚ) : ℚ :=
  if (unit.getD "").toLower = "kwh" then 1 else defaultFactor

/-- A reading of the register, in Wh, and the unit it is reported in. -/
structure Reading where
  register : ℚ
  unit : EnergyUnit

def Reading.value (r : Reading) : ℚ := if r.unit = .kwh then r.register / 1000 else r.register

def Reading.factor (r : Reading) : ℚ := energyRegisterKwhFactor r.unit.text (1 / 1000)

def stored (s : ChargePoint) (key : ℕ × ℕ) (i : ℕ) : List Body → List (Option ℚ)
  | [] => []
  | b :: bodies =>
    let s' := s.receive (1 / 1000) key b
    (s'.sessions[i]?).bind Session.kwh :: s'.stored key i bodies

end ChargePoint

end H2Fleet.Infra.Charging
