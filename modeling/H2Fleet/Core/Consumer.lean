import H2Fleet.Core.Run
import H2Fleet.Core.Slots

/-!
# A consumer group that commits record by record

A consumer polls the records of its partitions in order, hands each one to a handler, and commits
the offset behind a record when the handler says so.  The offset committed is the record's own plus
one, whatever became of the records before it.  A commit is a request that takes effect later, in
order, or never; after a restart or a rebalance the group goes on from its committed offset, and the
requests of the time before are void.

The handler has a `World` of its own (the tables and services it writes to) and gets an `Answer` of
the environment with each record.
-/

namespace H2Fleet

/-- What the loop does after a record: commit, leave it as failed, or pass over it. -/
inductive Verdict where
  | commit
  | fail
  | skip
  deriving DecidableEq

/-- The body of a consumer loop for records with values in `V`. -/
structure Handler (V : Type) where
  World : Type
  Answer : Type
  handle : World → V → Answer → Option (World × Verdict)

/-- `failed` lists the records whose handling failed and has not succeeded since. -/
structure Group (W : Type) where
  world : W
  position : ℕ → ℕ
  committed : ℕ → ℕ
  requests : List (ℕ × ℕ)
  failed : List (ℕ × ℕ)

open H2Fleet.Group

def Group.init {W : Type} (w : W) : Group W := ⟨w, fun _ => 0, fun _ => 0, [], []⟩

/-- `pass` is a record not handed to the handler, `outside` a change of the world by others. -/
inductive GroupEvent (W A : Type) where
  | outside (world : W)
  | handle (partition offset : ℕ) (answer : A)
  | pass (partition offset : ℕ)
  | applyCommit
  | dropCommit
  | rebalance (partition : ℕ)
  | restart

section Steps

variable {V : Type} (h : Handler V) (log : ℕ → ℕ → Option V) {W : Type} (s : Group W)

/-- The record at the offset is the next one of its partition. -/
def Group.Next (p o : ℕ) : Prop :=
  s.position p ≤ o ∧ ∀ k < o, s.position p ≤ k → (log p k).isNone

instance (p o : ℕ) : Decidable (s.Next log p o) :=
  inferInstanceAs (Decidable (_ ∧ _))

namespace Group

def moveTo (p o : ℕ) : Group W :=
  { s with position := Function.update s.position p o }

/-- What follows the handler's verdict on a record. -/
def conclude (p o : ℕ) (w : W) : Verdict → Group W
  | .commit =>
    { s with
      world := w
      requests := s.requests ++ [(p, o + 1)]
      failed := s.failed.filter fun f => f ≠ (p, o) }
  | .fail => { s with world := w, failed := s.failed ++ [(p, o)] }
  | .skip => { s with world := w }

def handle (s : Group h.World) (p o : ℕ) (a : h.Answer) : Option (Group h.World) :=
  if s.Next log p o then
    (log p o).bind fun v =>
      (h.handle s.world v a).map fun r => (s.moveTo p (o + 1)).conclude p o r.1 r.2
  else none

def pass (p o : ℕ) : Option (Group W) :=
  if s.Next log p o ∧ (log p o).isSome then some (s.moveTo p (o + 1)) else none

def applyCommit : Option (Group W) :=
  match s.requests with
  | r :: requests =>
    some { s with committed := Function.update s.committed r.1 r.2, requests := requests }
  | [] => none

def rebalance (p : ℕ) : Group W :=
  { s.moveTo p (s.committed p) with requests := s.requests.filter fun r => r.1 ≠ p }

def restart : Group W :=
  { s with position := s.committed, requests := [] }

def step (s : Group h.World) : GroupEvent h.World h.Answer → Option (Group h.World)
  | .outside w => some { s with world := w }
  | .handle p o a => s.handle h log p o a
  | .pass p o => s.pass log p o
  | .applyCommit => s.applyCommit
  | .dropCommit => if s.requests ≠ [] then some { s with requests := s.requests.tail } else none
  | .rebalance p => some (s.rebalance p)
  | .restart => some s.restart

/-- No record before the offset stands failed in the partition. -/
def Clear (p o : ℕ) : Prop := ∀ f ∈ s.failed, f.1 = p → o ≤ f.2
  deriving Decidable

def verdict (s : Group h.World) (p o : ℕ) (a : h.Answer) : Option Verdict :=
  (log p o).bind fun v => (h.handle s.world v a).map Prod.snd

/-- A record that is committed has no failed record before it. -/
def Careful (s : Group h.World) : GroupEvent h.World h.Answer → Prop
  | .handle p o a => s.verdict h log p o a = some .commit → s.Clear p o
  | _ => True

end Group

instance (s : Group h.World) (e : GroupEvent h.World h.Answer) : Decidable (s.Careful h log e) := by
  unfold Careful; split <;> infer_instance

end Steps

/-! ## The invariant -/

variable {V : Type} {h : Handler V} {log : ℕ → ℕ → Option V}

/-- Every offset committed, or asked to be, is before the position and every failed record. -/
structure Group.Inv {W : Type} (s : Group W) : Prop where
  committed_le : ∀ p, s.committed p ≤ s.position p
  request_le : ∀ r ∈ s.requests, r.2 ≤ s.position r.1
  failed_committed : ∀ f ∈ s.failed, s.committed f.1 ≤ f.2
  failed_request : ∀ f ∈ s.failed, ∀ r ∈ s.requests, r.1 = f.1 → r.2 ≤ f.2

namespace Group.Inv

open List Option Function

variable {W : Type} {s : Group W}

lemma init (w : W) : (init w).Inv where
  committed_le _ := le_rfl
  request_le _ hr := nomatch hr
  failed_committed _ hf := nomatch hf
  failed_request _ hf := nomatch hf

lemma outside (hs : s.Inv) (w : W) : ({ s with world := w } : Group W).Inv := { hs with }

lemma moveTo (hs : s.Inv) {p o : ℕ} (ho : s.position p ≤ o) : (s.moveTo p o).Inv := by
  have hmono : s.position ≤ (s.moveTo p o).position := le_update_self_iff.mpr ho
  exact { hs with
    committed_le := fun q => (hs.committed_le q).trans (hmono q)
    request_le := fun r hr => (hs.request_le r hr).trans (hmono r.1) }

lemma filter_failed (hs : s.Inv) (w : W) (keep : ℕ × ℕ → Bool) :
    ({ s with world := w, failed := s.failed.filter keep } : Group W).Inv :=
  { hs with
    failed_committed := fun f hf => hs.failed_committed f (mem_of_mem_filter hf)
    failed_request := fun f hf => hs.failed_request f (mem_of_mem_filter hf) }

lemma conclude (hs : s.Inv) {p o : ℕ} {v : Verdict} (w : W) (ho : s.position p ≤ o)
    (hclear : v = .commit → s.Clear p o) : ((s.moveTo p (o + 1)).conclude p o w v).Inv := by
  have hmoved := hs.moveTo (ho.trans o.le_succ)
  cases v with
  | commit =>
    have hfiltered := hmoved.filter_failed w fun f => f ≠ (p, o)
    refine { hfiltered with
      request_le := forall_mem_concat hfiltered.request_le ?_
      failed_request :=
        fun f hf => forall_mem_concat (hfiltered.failed_request f hf) fun hfp => ?_ }
    · simp [Group.moveTo, Group.conclude]
    · obtain ⟨hmem, hne⟩ := mem_filter.mp hf
      have hle : o ≤ f.2 := hclear rfl f hmem hfp.symm
      have hne' : f.2 ≠ o := by
        rintro rfl
        exact of_decide_eq_true hne (Prod.ext hfp.symm rfl)
      omega
  | fail =>
    refine { hmoved with
      failed_committed := forall_mem_concat hmoved.failed_committed ((hs.committed_le p).trans ho)
      failed_request := forall_mem_concat hmoved.failed_request fun r hr hrp => ?_ }
    have := hs.request_le r hr
    rw [hrp] at this
    exact this.trans ho
  | skip => exact hmoved.outside w

lemma applyCommit {s' : Group W} (hs : s.Inv) (hstep : s.applyCommit = some s') : s'.Inv := by
  cases hreq : s.requests with
  | nil => simp [Group.applyCommit, hreq] at hstep
  | cons r rest =>
    simp only [Group.applyCommit, hreq] at hstep
    cases hstep
    have hrest : ∀ q ∈ rest, q ∈ s.requests := fun q hq => hreq ▸ mem_cons_of_mem r hq
    have hr : r ∈ s.requests := hreq ▸ mem_cons_self
    refine ⟨fun p => ?_, fun q hq => hs.request_le q (hrest q hq), fun f hf => ?_,
      fun f hf q hq => hs.failed_request f hf q (hrest q hq)⟩
    · by_cases hp : p = r.1
      · subst hp
        simpa using hs.request_le r hr
      · simpa [hp] using hs.committed_le p
    · by_cases hp : f.1 = r.1
      · simpa [hp] using hs.failed_request f hf r hr hp.symm
      · simpa [hp] using hs.failed_committed f hf

lemma rebalance (hs : s.Inv) (p : ℕ) : (s.rebalance p).Inv where
  committed_le q := by
    by_cases hq : q = p
    · subst hq
      simp [Group.rebalance, Group.moveTo]
    · simpa [Group.rebalance, Group.moveTo, hq] using hs.committed_le q
  request_le r hr := by
    obtain ⟨hmem, hne⟩ := mem_filter.mp hr
    have hp : r.1 ≠ p := of_decide_eq_true hne
    simpa [Group.rebalance, Group.moveTo, hp] using hs.request_le r hmem
  failed_committed := hs.failed_committed
  failed_request f hf r hr := hs.failed_request f hf r (mem_of_mem_filter hr)

lemma restart (hs : s.Inv) : s.restart.Inv where
  committed_le _ := le_rfl
  request_le _ hr := nomatch hr
  failed_committed := hs.failed_committed
  failed_request _ _ _ hr := nomatch hr

lemma dropCommit (hs : s.Inv) : ({ s with requests := s.requests.tail } : Group W).Inv :=
  { hs with
    request_le := fun r hr => hs.request_le r (mem_of_mem_tail hr)
    failed_request := fun f hf r hr => hs.failed_request f hf r (mem_of_mem_tail hr) }

end Group.Inv

lemma Group.Inv.step {s s' : Group h.World} {e : GroupEvent h.World h.Answer} (hs : s.Inv)
    (hok : s.Careful h log e) (hstep : s.step h log e = some s') : s'.Inv := by
  cases e with
  | outside w =>
    cases hstep
    exact hs.outside w
  | handle p o a =>
    simp only [Group.step, handle, Option.ite_none_right_eq_some, Option.bind_eq_some_iff,
      Option.map_eq_some_iff] at hstep
    obtain ⟨hnext, v, hv, r, hr, rfl⟩ := hstep
    refine hs.conclude r.1 hnext.1 fun hcommit => hok ?_
    simp [verdict, hv, hr, hcommit]
  | pass p o =>
    simp only [Group.step, pass, Option.ite_none_right_eq_some, Option.some.injEq] at hstep
    obtain ⟨hnext, rfl⟩ := hstep
    exact hs.moveTo (hnext.1.1.trans o.le_succ)
  | applyCommit => exact hs.applyCommit hstep
  | dropCommit =>
    simp only [Group.step, Option.ite_none_right_eq_some, Option.some.injEq] at hstep
    obtain ⟨-, rfl⟩ := hstep
    exact hs.dropCommit
  | rebalance p =>
    cases hstep
    exact hs.rebalance p
  | restart =>
    cases hstep
    exact hs.restart

/-- **No committed offset is past a failed record**, in any run of careful steps. -/
theorem committed_le_failed {w : h.World} {es : List (GroupEvent h.World h.Answer)}
    {s : Group h.World} (hok : Meets (step h log) (Careful h log) (init w) es)
    (hrun : run (step h log) (init w) es = some s) : ∀ f ∈ s.failed, s.committed f.1 ≤ f.2 := by
  have hs : s.Inv := run_invariant (fun _ _ _ => Inv.step) (Inv.init w) hok hrun
  exact hs.failed_committed

end H2Fleet
