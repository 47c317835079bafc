import H2Fleet.Core.Run
import H2Fleet.Core.Slots

/-!
# Workflows that wait for signals, timers and activities

A durable workflow as its server drives it.  The program is a machine over phases; in a phase it
waits for signals, for a timer or for the result of an activity.  What the environment decides is
when a signal is delivered, when the timer fires, and how often and when an activity is executed.

* **Signals start runs.**  A signal that finds no open run starts one and is its first signal.  A
  run that returns takes the signals it has not received with it.
* **The selector is ordered.**  Of the signals a phase listens to, it takes the first one in its
  list that is there; the timer only if there is none.
* **Activities run at least once.**  While a phase waits for an activity, any number of attempts can
  be started.  An attempt writes when it likes, also after the workflow has gone on, or never; the
  workflow goes on when it has heard of a write, or when it gives up.
-/

namespace H2Fleet

open List

/-- A program over phases `Φ`, signals `S` and activities `A`; `none` if it returns. -/
structure Workflow (Φ S A : Type*) where
  start : Φ
  /-- The channels of the phase's selector, in order. -/
  listens : Φ → List S
  receive : Φ → S → Option Φ
  /-- The phase after the timer of this phase, if it has set one. -/
  timer : Φ → Option Φ
  /-- The activity that the phase waits for. -/
  activity : Φ → Option A
  completed : Φ → Option Φ
  failed : Φ → Option Φ

structure OpenRun (Φ S : Type*) where
  phase : Φ
  /-- Signals delivered to the run and not received. -/
  buffer : List S
  /-- The activity of the phase has been executed. -/
  executed : Bool

/-- The runs of a program under one workflow id. -/
structure Execution (Φ S A : Type*) where
  current : Option (OpenRun Φ S)
  /-- Attempts whose write has not come. -/
  attempts : List A
  /-- The number of runs that have returned. -/
  finished : ℕ

inductive Move where
  | take
  | timer
  | attempt
  | lose (j : ℕ)
  | complete
  | fail

variable {Φ S A : Type*}

/-- The signal that the selector of the phase takes. -/
def Workflow.ready [DecidableEq S] (w : Workflow Φ S A) (r : OpenRun Φ S) : Option S :=
  (w.listens r.phase).find? fun sg => decide (sg ∈ r.buffer)

namespace Execution

open Option

def fresh : Execution Φ S A := ⟨none, [], 0⟩

def Closed (x : Execution Φ S A) : Prop := x.current = none ∧ 0 < x.finished

instance [DecidableEq Φ] [DecidableEq S] (x : Execution Φ S A) : Decidable x.Closed :=
  inferInstanceAs (Decidable (x.current = none ∧ 0 < x.finished))

/-- On to the next phase with the signals left, or to the end. -/
def goTo (x : Execution Φ S A) (buffer : List S) : Option Φ → Execution Φ S A
  | some φ => { x with current := some ⟨φ, buffer, false⟩ }
  | none => { x with current := none, finished := x.finished + 1 }

lemma closed_goTo_none (x : Execution Φ S A) (buffer : List S) : (x.goTo buffer none).Closed :=
  ⟨rfl, Nat.succ_pos _⟩

/-- `SignalWithStart`. -/
def deliver (w : Workflow Φ S A) (x : Execution Φ S A) (sg : S) : Execution Φ S A :=
  match x.current with
  | some r => { x with current := some { r with buffer := r.buffer ++ [sg] } }
  | none => { x with current := some ⟨w.start, [sg], false⟩ }

def move [DecidableEq S] (w : Workflow Φ S A) (x : Execution Φ S A) : Move →
    Option (Execution Φ S A)
  | .take =>
    x.current.bind fun r => (w.ready r).map fun sg =>
      x.goTo (r.buffer.erase sg) (w.receive r.phase sg)
  | .timer =>
    x.current.bind fun r =>
      if w.ready r = none then (w.timer r.phase).map fun φ => x.goTo r.buffer (some φ) else none
  | .attempt =>
    x.current.bind fun r => (w.activity r.phase).map fun a =>
      { x with attempts := x.attempts ++ [a] }
  | .lose j => some { x with attempts := x.attempts.eraseIdx j }
  | .complete =>
    x.current.bind fun r => (w.activity r.phase).bind fun _ =>
      if r.executed then some (x.goTo r.buffer (w.completed r.phase)) else none
  | .fail =>
    x.current.bind fun r => (w.activity r.phase).map fun _ => x.goTo r.buffer (w.failed r.phase)

/-- The attempt at `j` writes: the activity, and the execution after it. -/
def write [DecidableEq A] (w : Workflow Φ S A) (x : Execution Φ S A) (j : ℕ) :
    Option (A × Execution Φ S A) :=
  (x.attempts[j]?).map fun a =>
    (a, { x with
      attempts := x.attempts.eraseIdx j
      current := x.current.map fun r =>
        { r with executed := r.executed || decide (w.activity r.phase = some a) } })

/-! ## The cases of a step -/

inductive Moved [DecidableEq S] (w : Workflow Φ S A) (x : Execution Φ S A) :
    Move → Execution Φ S A → Prop where
  | take {r : OpenRun Φ S} {sg : S} (hrun : x.current = some r) (hready : w.ready r = some sg) :
      Moved w x .take (x.goTo (r.buffer.erase sg) (w.receive r.phase sg))
  | timer {r : OpenRun Φ S} {φ : Φ} (hrun : x.current = some r) (hready : w.ready r = none)
      (htimer : w.timer r.phase = some φ) : Moved w x .timer (x.goTo r.buffer (some φ))
  | attempt {r : OpenRun Φ S} {a : A} (hrun : x.current = some r)
      (hactivity : w.activity r.phase = some a) :
      Moved w x .attempt { x with attempts := x.attempts ++ [a] }
  | lose (j : ℕ) : Moved w x (.lose j) { x with attempts := x.attempts.eraseIdx j }
  | complete {r : OpenRun Φ S} {a : A} (hrun : x.current = some r)
      (hactivity : w.activity r.phase = some a) (hexecuted : r.executed = true) :
      Moved w x .complete (x.goTo r.buffer (w.completed r.phase))
  | fail {r : OpenRun Φ S} {a : A} (hrun : x.current = some r)
      (hactivity : w.activity r.phase = some a) :
      Moved w x .fail (x.goTo r.buffer (w.failed r.phase))

lemma move_moved [DecidableEq S] {w : Workflow Φ S A} {x y : Execution Φ S A} {m : Move}
    (h : x.move w m = some y) : Moved w x m y := by
  cases m with
  | take =>
    obtain ⟨r, hrun, h⟩ := bind_eq_some_iff.mp h
    obtain ⟨sg, hready, rfl⟩ := map_eq_some_iff.mp h
    exact .take hrun hready
  | timer =>
    obtain ⟨r, hrun, h⟩ := bind_eq_some_iff.mp h
    split_ifs at h with hready
    obtain ⟨φ, htimer, rfl⟩ := map_eq_some_iff.mp h
    exact .timer hrun hready htimer
  | attempt =>
    obtain ⟨r, hrun, h⟩ := bind_eq_some_iff.mp h
    obtain ⟨a, hactivity, rfl⟩ := map_eq_some_iff.mp h
    exact .attempt hrun hactivity
  | lose j =>
    cases h
    exact .lose j
  | complete =>
    obtain ⟨r, hrun, h⟩ := bind_eq_some_iff.mp h
    obtain ⟨a, hactivity, h⟩ := bind_eq_some_iff.mp h
    split_ifs at h with hexecuted
    cases h
    exact .complete hrun hactivity hexecuted
  | fail =>
    obtain ⟨r, hrun, h⟩ := bind_eq_some_iff.mp h
    obtain ⟨a, hactivity, rfl⟩ := map_eq_some_iff.mp h
    exact .fail hrun hactivity

lemma mem_of_ready [DecidableEq S] {w : Workflow Φ S A} {r : OpenRun Φ S} {sg : S}
    (h : w.ready r = some sg) : sg ∈ w.listens r.phase ∧ sg ∈ r.buffer :=
  ⟨mem_of_find?_eq_some h, by simpa using find?_some h⟩

/-! ## What a program stays within -/

/-- Every phase has `P`, every buffered signal `D`, every attempt `Q`. -/
structure Within (x : Execution Φ S A) (P : Φ → Prop) (D : S → Prop) (Q : A → Prop) : Prop where
  phase : ∀ r ∈ x.current, P r.phase
  buffer : ∀ r ∈ x.current, ∀ sg ∈ r.buffer, D sg
  attempts : ∀ a ∈ x.attempts, Q a

end Execution

/-- The program stays in phases with `P` under signals with `D`, and its activities have `Q`. -/
structure Workflow.Keeps (w : Workflow Φ S A) (P : Φ → Prop) (D : S → Prop) (Q : A → Prop) :
    Prop where
  start : P w.start
  receive : ∀ φ sg φ', P φ → sg ∈ w.listens φ → D sg → w.receive φ sg = some φ' → P φ'
  timer : ∀ φ φ', P φ → w.timer φ = some φ' → P φ'
  activity : ∀ φ a, P φ → w.activity φ = some a → Q a
  completed : ∀ φ φ', P φ → w.completed φ = some φ' → P φ'
  failed : ∀ φ φ', P φ → w.failed φ = some φ' → P φ'

namespace Execution

variable {w : Workflow Φ S A} {x y : Execution Φ S A} {P P' : Φ → Prop} {D D' : S → Prop}
  {Q Q' : A → Prop}

lemma within_fresh : (fresh : Execution Φ S A).Within P D Q :=
  ⟨by simp [fresh], by simp [fresh], by simp [fresh]⟩

lemma Within.mono (h : x.Within P D Q) (hP : ∀ φ, P φ → P' φ) (hD : ∀ sg, D sg → D' sg)
    (hQ : ∀ a, Q a → Q' a) : x.Within P' D' Q' :=
  ⟨fun r hr => hP _ (h.phase r hr), fun r hr sg hsg => hD sg (h.buffer r hr sg hsg),
    fun a ha => hQ a (h.attempts a ha)⟩

lemma Within.goTo (h : x.Within P D Q) {buffer : List S} {next : Option Φ}
    (hbuffer : ∀ sg ∈ buffer, D sg) (hnext : ∀ φ ∈ next, P φ) :
    (x.goTo buffer next).Within P D Q := by
  cases next with
  | none => exact ⟨nofun, nofun, h.attempts⟩
  | some φ =>
    refine ⟨?_, ?_, h.attempts⟩
    · rintro r ⟨⟩
      exact hnext φ rfl
    · rintro r ⟨⟩
      exact hbuffer

lemma Within.deliver (hw : w.Keeps P D Q) (h : x.Within P D Q) {sg : S} (hsg : D sg) :
    (x.deliver w sg).Within P D Q := by
  rw [Execution.deliver]
  cases hrun : x.current with
  | none =>
    refine ⟨?_, ?_, h.attempts⟩
    · rintro r ⟨⟩
      exact hw.start
    · rintro r ⟨⟩ sg' hsg'
      rw [mem_singleton.mp hsg']
      exact hsg
  | some r =>
    refine ⟨?_, ?_, h.attempts⟩
    · rintro r' ⟨⟩
      exact h.phase r hrun
    · rintro r' ⟨⟩ sg' hsg'
      rcases mem_append.mp hsg' with hsg' | hsg'
      · exact h.buffer r hrun sg' hsg'
      · rw [mem_singleton.mp hsg']
        exact hsg

/-- **A run stays within what its program keeps.** -/
theorem Within.move [DecidableEq S] (hw : w.Keeps P D Q) (h : x.Within P D Q) {m : Move}
    (hm : x.move w m = some y) : y.Within P D Q := by
  cases move_moved hm with
  | @take r sg hrun hready =>
    obtain ⟨hlistens, hbuffer⟩ := mem_of_ready hready
    have hsg := h.buffer r hrun sg hbuffer
    exact h.goTo (fun sg' hsg' => h.buffer r hrun sg' (mem_of_mem_erase hsg'))
      fun φ hφ => hw.receive _ sg φ (h.phase r hrun) hlistens hsg hφ
  | @timer r φ hrun hready htimer =>
    refine h.goTo (h.buffer r hrun) ?_
    rintro φ' ⟨⟩
    exact hw.timer _ φ (h.phase r hrun) htimer
  | @attempt r a hrun hactivity =>
    refine ⟨h.phase, h.buffer, fun b hb => ?_⟩
    rcases mem_append.mp hb with hb | hb
    · exact h.attempts b hb
    · rw [mem_singleton.mp hb]
      exact hw.activity _ a (h.phase r hrun) hactivity
  | lose j =>
    exact ⟨h.phase, h.buffer, fun a ha => h.attempts a (mem_of_mem_eraseIdx ha)⟩
  | @complete r a hrun hactivity hexecuted =>
    exact h.goTo (h.buffer r hrun) fun φ hφ => hw.completed _ φ (h.phase r hrun) hφ
  | @fail r a hrun hactivity =>
    exact h.goTo (h.buffer r hrun) fun φ hφ => hw.failed _ φ (h.phase r hrun) hφ

lemma Within.write [DecidableEq A] (h : x.Within P D Q) {j : ℕ} {a : A}
    (hj : x.write w j = some (a, y)) : Q a ∧ y.Within P D Q := by
  obtain ⟨b, hb, heq⟩ := Option.map_eq_some_iff.mp hj
  obtain ⟨rfl, rfl⟩ := Prod.mk.inj heq
  refine ⟨h.attempts b (mem_of_getElem? hb), ?_, ?_,
    fun c hc => h.attempts c (mem_of_mem_eraseIdx hc)⟩
  · intro r hr
    obtain ⟨r', hr', rfl⟩ := Option.map_eq_some_iff.mp hr
    exact h.phase r' hr'
  · intro r hr
    obtain ⟨r', hr', rfl⟩ := Option.map_eq_some_iff.mp hr
    exact h.buffer r' hr'

end Execution

end H2Fleet
