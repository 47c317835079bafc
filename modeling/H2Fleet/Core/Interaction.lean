import H2Fleet.Core.Run

/-!
# Programs that ask, side by side

A request handler is a program that asks one thing after another: a statement of the database, a
call of another service, the clock.  `Prog A α` is such a program, over queries `q` with answers in
`A q`; it is a tree that branches over the answers, so a handler written in `do`-notation is its own
model.  What the queries mean is left to a `Service`, which answers them one at a time, in any
interleaving of any number of programs, with everything the environment decides in the event.

* **`Prog.Safe pre post`** — whatever the answers, every query the program asks meets `pre` at the
  history of that moment, and what it returns meets `post`.
* **`Pool.Obeys`** — the calls of a pool, if their programs are safe, in every state of every run:
  safety of one program at a time, whatever the others do.
-/

namespace H2Fleet

open List

open Function

/-- A program over queries with the answers `A`. -/
inductive Prog {Q : Type} (A : Q → Type) (α : Type) : Type where
  | done (a : α)
  | ask (q : Q) (k : A q → Prog A α)

/-- A query and its answer. -/
abbrev Exchange {Q : Type} (A : Q → Type) := (q : Q) × A q

variable {Q : Type} {A : Q → Type} {α β : Type}

namespace Prog

protected def bind : Prog A α → (α → Prog A β) → Prog A β
  | done a, f => f a
  | ask q k, f => ask q fun x => (k x).bind f

instance : Monad (Prog A) where
  pure := done
  bind := Prog.bind

/-- Ask and return the answer. -/
def query (q : Q) : Prog A (A q) := ask q done

@[simp] lemma bind_ask (q : Q) (k : A q → Prog A α) (f : α → Prog A β) :
    ask q k >>= f = ask q fun x => k x >>= f := rfl

/-! ## Safety -/

/-- Every query meets `pre` and every result meets `post`, at the history they are reached with. -/
def Safe (pre : List (Exchange A) → Q → Prop) (post : List (Exchange A) → α → Prop) :
    List (Exchange A) → Prog A α → Prop
  | h, done a => post h a
  | h, ask q k => pre h q ∧ ∀ x, Safe pre post (⟨q, x⟩ :: h) (k x)

section Safe

variable {pre : List (Exchange A) → Q → Prop} {post post' : List (Exchange A) → α → Prop}
  {h : List (Exchange A)}

@[simp] lemma safe_pure (a : α) : Safe pre post h (pure a) ↔ post h a := Iff.rfl

@[simp] lemma safe_ask (q : Q) (k : A q → Prog A α) :
    Safe pre post h (ask q k) ↔ pre h q ∧ ∀ x, Safe pre post (⟨q, x⟩ :: h) (k x) := Iff.rfl

lemma safe_bind {post : List (Exchange A) → β → Prop} (p : Prog A α) (f : α → Prog A β) :
    Safe pre post h (p >>= f) ↔ Safe pre (fun h a => Safe pre post h (f a)) h p := by
  induction p generalizing h with
  | done a => rfl
  | ask q k ih =>
    rw [bind_ask, safe_ask, safe_ask]
    exact and_congr_right fun _ => forall_congr' fun x => ih x

/-- A program promises less, too, read with the history it began with. -/
lemma Safe.mono {p : Prog A α} (hp : Safe pre post h p)
    (hpost : ∀ h' a, h <:+ h' → post h' a → post' h' a) : Safe pre post' h p := by
  induction p generalizing h with
  | done a => exact hpost h a suffix_rfl hp
  | ask q k ih =>
    refine ⟨hp.1, fun x => ih x (hp.2 x) fun h' a hsuf => hpost h' a ?_⟩
    exact (suffix_cons _ _).trans hsuf

/-- **The rule for a sequence**: what the first promises the second starts from. -/
lemma Safe.bind {post : List (Exchange A) → β → Prop} {mid : List (Exchange A) → α → Prop}
    {p : Prog A α} {f : α → Prog A β} (hp : Safe pre mid h p)
    (hf : ∀ h' a, h <:+ h' → mid h' a → Safe pre post h' (f a)) : Safe pre post h (p >>= f) :=
  (safe_bind p f).mpr (hp.mono hf)

end Safe

/-! ## What a program asks -/

/-- Every query is of the kind `S`. -/
def Asks (S : Q → Prop) : Prog A α → Prop
  | done _ => True
  | ask q k => S q ∧ ∀ x, Asks S (k x)

section Asks

variable {S : Q → Prop}

@[simp] lemma asks_pure (a : α) : Asks S (pure a : Prog A α) := trivial

@[simp] lemma asks_query (q : Q) : Asks S (query q : Prog A (A q)) ↔ S q :=
  ⟨fun h => h.1, fun h => ⟨h, fun _ => trivial⟩⟩

lemma Asks.bind {p : Prog A α} {f : α → Prog A β} (hp : Asks S p) (hf : ∀ a, Asks S (f a)) :
    Asks S (p >>= f) := by
  induction p with
  | done a => exact hf a
  | ask q k ih => exact ⟨hp.1, fun x => ih x (hp.2 x)⟩

/-- A program that asks only queries which are always allowed is safe. -/
lemma Asks.safe {pre : List (Exchange A) → Q → Prop} {p : Prog A α} (hp : Asks S p)
    (hpre : ∀ h q, S q → pre h q) (h : List (Exchange A)) :
    Safe pre (fun h' _ => ∃ new, h' = new ++ h ∧ ∀ ex ∈ new, S ex.1) h p := by
  induction p generalizing h with
  | done a => exact ⟨[], rfl, by simp⟩
  | ask q k ih =>
    refine ⟨hpre h q hp.1, fun x => (ih x (hp.2 x) _).mono ?_⟩
    rintro h' a - ⟨new, rfl, hnew⟩
    refine ⟨new ++ [⟨q, x⟩], by simp, fun ex hex => ?_⟩
    rcases mem_append.mp hex with hex | hex
    · exact hnew ex hex
    · rw [mem_singleton] at hex
      rw [hex]
      exact hp.1

end Asks

end Prog

/-- Every query of the history met `pre` when it was asked. -/
def Lawful (pre : List (Exchange A) → Q → Prop) : List (Exchange A) → Prop
  | [] => True
  | ex :: h => pre h ex.1 ∧ Lawful pre h

lemma Lawful.of_mem {pre : List (Exchange A) → Q → Prop} {ex : Exchange A} :
    ∀ {h : List (Exchange A)}, Lawful pre h → ex ∈ h → ∃ old, old <:+ h ∧ pre old ex.1
  | e :: h, hl, hex => by
    rcases mem_cons.mp hex with rfl | hex
    · exact ⟨h, suffix_cons _ _, hl.1⟩
    · obtain ⟨old, hsuf, hpre⟩ := hl.2.of_mem hex
      exact ⟨old, hsuf.trans (suffix_cons _ _), hpre⟩

/-! ## Calls side by side -/

/-- What a call has asked and been told, and what is left of its program. -/
structure Call (A : Q → Type) (α : Type) where
  hist : List (Exchange A)
  prog : Prog A α

def Call.Returned (c : Call A α) : Prop := ∃ a, c.prog = .done a

structure Pool (σ : Type) (A : Q → Type) (α : Type) where
  shared : σ
  calls : ℕ → Option (Call A α)

def Pool.Quiet {σ : Type} (p : Pool σ A α) : Prop := ∀ c call, p.calls c = some call → call.Returned

inductive PoolEvent (E X V : Type) where
  | start (c : ℕ) (e : E)
  | next (c : ℕ) (x : X)
  | ambient (v : V)

/-- Programs for the entry points `E`, the answers to their queries, and the environment. -/
structure Service (σ : Type) {Q : Type} (A : Q → Type) (α E X V : Type) where
  program : E → Prog A α
  answer : σ → (q : Q) → X → Option (σ × A q)
  ambient : σ → V → Option σ

namespace Service

variable {σ E X V : Type} (S : Service σ A α E X V)

/-- One call starts, one call gets its next answer, or the environment moves. -/
def step (p : Pool σ A α) : PoolEvent E X V → Option (Pool σ A α)
  | .start c e =>
    match p.calls c with
    | none => some { p with calls := update p.calls c (some ⟨[], S.program e⟩) }
    | some _ => none
  | .next c x =>
    match p.calls c with
    | some ⟨h, .ask q k⟩ =>
      match S.answer p.shared q x with
      | some (s, a) => some ⟨s, update p.calls c (some ⟨⟨q, a⟩ :: h, k a⟩)⟩
      | none => none
    | _ => none
  | .ambient v =>
    match S.ambient p.shared v with
    | some s => some { p with shared := s }
    | none => none

/-- The steps, with everything a step changes. -/
inductive Move (p : Pool σ A α) : PoolEvent E X V → Pool σ A α → Prop
  | start (c : ℕ) (e : E) (hfree : p.calls c = none) :
      Move p (.start c e) { p with calls := update p.calls c (some ⟨[], S.program e⟩) }
  | next (c : ℕ) (x : X) (h : List (Exchange A)) (q : Q) (k : A q → Prog A α) (s : σ) (a : A q)
      (hcall : p.calls c = some ⟨h, .ask q k⟩) (hanswer : S.answer p.shared q x = some (s, a)) :
      Move p (.next c x) ⟨s, update p.calls c (some ⟨⟨q, a⟩ :: h, k a⟩)⟩
  | ambient (v : V) (s : σ) (hs : S.ambient p.shared v = some s) :
      Move p (.ambient v) { p with shared := s }

variable {S}

lemma step_move {p p' : Pool σ A α} {ev : PoolEvent E X V} (h : S.step p ev = some p') :
    S.Move p ev p' := by
  cases ev with
  | start c e =>
    cases hc : p.calls c with
    | none =>
      simp only [step, hc, Option.some.injEq] at h
      exact h ▸ .start c e hc
    | some call => simp [step, hc] at h
  | next c x =>
    simp only [step] at h
    split at h
    · rename_i hist q k hc
      split at h
      · rename_i s a ha
        rw [Option.some.injEq] at h
        exact h ▸ .next c x hist q k s a hc ha
      · cases h
    · cases h
  | ambient v =>
    cases hs : S.ambient p.shared v with
    | none => simp [step, hs] at h
    | some s =>
      simp only [step, hs, Option.some.injEq] at h
      exact h ▸ .ambient v s hs

end Service

/-- A condition on the query that an event answers, in the shared state. -/
def Pool.Answering {σ E X V : Type} (ok : σ → Q → X → Prop) (p : Pool σ A α) :
    PoolEvent E X V → Prop
  | .next c x =>
    match p.calls c with
    | some ⟨_, .ask q _⟩ => ok p.shared q x
    | _ => True
  | _ => True

instance {σ E X V : Type} (ok : σ → Q → X → Prop) [∀ s q x, Decidable (ok s q x)] (p : Pool σ A α)
    (ev : PoolEvent E X V) : Decidable (p.Answering ok ev) := by
  unfold Pool.Answering; (repeat' split) <;> infer_instance

lemma Pool.answering_next {σ E X V : Type} {ok : σ → Q → X → Prop} {p : Pool σ A α} {c : ℕ} {x : X}
    {h : List (Exchange A)} {q : Q} {k : A q → Prog A α} (hc : p.calls c = some ⟨h, .ask q k⟩) :
    p.Answering ok (.next c x : PoolEvent E X V) ↔ ok p.shared q x := by
  simp [Pool.Answering, hc]

lemma update_call_cases {calls : ℕ → Option (Call A α)} {c d : ℕ} {new call : Call A α}
    (h : update calls c (some new) d = some call) :
    (d = c ∧ call = new) ∨ (d ≠ c ∧ calls d = some call) := by
  by_cases hd : d = c
  · rw [hd, update_self, Option.some.injEq] at h
    exact .inl ⟨hd, h.symm⟩
  · rw [update_of_ne hd] at h
    exact .inr ⟨hd, h⟩

/-- A call keeps its place, its history grows, and one that has returned stays. -/
lemma Service.step_call {σ E X V : Type} {S : Service σ A α E X V} {p p' : Pool σ A α}
    {ev : PoolEvent E X V} (h : S.step p ev = some p') {d : ℕ} {call : Call A α}
    (hd : p.calls d = some call) :
    ∃ call', p'.calls d = some call' ∧ call.hist <:+ call'.hist ∧
    (call.Returned → call' = call) := by
  cases Service.step_move h with
  | start c e hfree =>
    have hne : d ≠ c := by
      rintro rfl
      rw [hfree] at hd
      cases hd
    exact ⟨call, by simp [update_of_ne hne, hd], suffix_rfl, fun _ => rfl⟩
  | next c x hist q k s a hcall hanswer =>
    by_cases hne : d = c
    · subst hne
      cases hcall.symm.trans hd
      refine ⟨_, update_self .., suffix_cons _ _, ?_⟩
      rintro ⟨b, hb⟩
      cases hb
    · exact ⟨call, by simp [update_of_ne hne, hd], suffix_rfl, fun _ => rfl⟩
  | ambient v s hs => exact ⟨call, hd, suffix_rfl, fun _ => rfl⟩

/-- Only calls below `n` start. -/
def PoolEvent.Below {E X V : Type} (n : ℕ) : PoolEvent E X V → Prop
  | .start c _ => c < n
  | _ => True

instance {E X V : Type} (n : ℕ) (ev : PoolEvent E X V) : Decidable (ev.Below n) := by
  unfold PoolEvent.Below; split <;> infer_instance

/-- A condition on all calls is one on those that have been started. -/
lemma Service.meets_of_below {σ E X V : Type} {S : Service σ A α E X V}
    {ok : Pool σ A α → PoolEvent E X V → ℕ → Call A α → Prop} {n : ℕ} :
    ∀ {p : Pool σ A α} {evs : List (PoolEvent E X V)}, (∀ ev ∈ evs, ev.Below n) →
      (∀ d, n ≤ d → p.calls d = none) →
      Meets S.step (fun p ev => ∀ d < n, ∀ call ∈ p.calls d, ok p ev d call) p evs →
      Meets S.step (fun p ev => ∀ d, ∀ call ∈ p.calls d, ok p ev d call) p evs
  | _, [], _, _, _ => trivial
  | p, ev :: evs, hbelow, hnone, hok => by
    have hold : ∀ d, n ≤ d → ∀ call ∈ p.calls d, False := fun d hd call hcall => by
      rw [hnone d hd] at hcall
      cases hcall
    refine ⟨fun d call hcall => ?_, fun p' hstep => ?_⟩
    · by_cases hd : d < n
      · exact hok.1 d hd call hcall
      · exact (hold d (not_lt.mp hd) call hcall).elim
    · refine Service.meets_of_below (fun ev' hev => hbelow ev' (mem_cons_of_mem _ hev))
        (fun d hd => ?_) (hok.2 p' hstep)
      cases Service.step_move hstep with
      | start c e hfree =>
        have hc : c < n := hbelow _ mem_cons_self
        simp [update_of_ne (show d ≠ c by omega), hnone d hd]
      | next c x hist q k s a hcall hanswer =>
        have hne : d ≠ c := fun heq => hold d hd _ (heq ▸ hcall)
        simp [update_of_ne hne, hnone d hd]
      | ambient v s hs => exact hnone d hd

/-- The calls of the pool have asked lawfully and will go on to. -/
def Pool.Obeys {σ : Type} (pre : List (Exchange A) → Q → Prop)
    (post : List (Exchange A) → α → Prop) (p : Pool σ A α) : Prop :=
  ∀ c call, p.calls c = some call → Lawful pre call.hist ∧ Prog.Safe pre post call.hist call.prog

section Obeys

variable {σ E X V : Type} {S : Service σ A α E X V} {pre : List (Exchange A) → Q → Prop}
  {post : List (Exchange A) → α → Prop}

/-- **The step rule**, for a program that starts. -/
lemma Pool.Obeys.step_of_start {p p' : Pool σ A α} {ev : PoolEvent E X V}
    (hprog : ∀ c e, ev = .start c e → Prog.Safe pre post [] (S.program e)) (hp : p.Obeys pre post)
    (h : S.step p ev = some p') : p'.Obeys pre post := by
  cases Service.step_move h with
  | start c e hfree =>
    intro d call hd
    rcases update_call_cases hd with ⟨-, rfl⟩ | ⟨-, hd⟩
    · exact ⟨trivial, hprog c e rfl⟩
    · exact hp d call hd
  | next c x hist q k s a hcall hanswer =>
    intro d call hd
    rcases update_call_cases hd with ⟨-, rfl⟩ | ⟨-, hd⟩
    · obtain ⟨hlaw, hpre, hsafe⟩ := hp c _ hcall
      exact ⟨⟨hpre, hlaw⟩, hsafe a⟩
    · exact hp d call hd
  | ambient v s hs => exact hp

lemma Pool.Obeys.step (hprog : ∀ e, Prog.Safe pre post [] (S.program e)) {p p' : Pool σ A α}
    {ev : PoolEvent E X V} (hp : p.Obeys pre post) (h : S.step p ev = some p') :
    p'.Obeys pre post :=
  hp.step_of_start (fun _ e _ => hprog e) h

/-- **The run rule**: safety of every program is safety of every pool. -/
theorem Pool.Obeys.of_run (hprog : ∀ e, Prog.Safe pre post [] (S.program e)) {p p' : Pool σ A α}
    {evs : List (PoolEvent E X V)} (hp : p.Obeys pre post) (h : run S.step p evs = some p') :
    p'.Obeys pre post :=
  run_invariant_always (fun _ _ _ hs hstep => hs.step hprog hstep) hp h

lemma Pool.Obeys.returned {p : Pool σ A α} (hp : p.Obeys pre post) {c : ℕ} {call : Call A α}
    (hc : p.calls c = some call) (hret : call.Returned) : ∃ a, post call.hist a := by
  obtain ⟨a, ha⟩ := hret
  have hsafe := (hp c call hc).2
  rw [ha] at hsafe
  exact ⟨a, hsafe⟩

end Obeys

end H2Fleet
