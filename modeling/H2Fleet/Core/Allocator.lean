import H2Fleet.Core.Run
import H2Fleet.Core.Slots

/-!
# Numbers handed out by a table

A table that gives every new row the number after the largest one it holds, under a unique index on
the numbers.  A transaction evaluates the query for the largest committed number, inserts its row
and commits; others do the same in between.  An INSERT whose number or key is held by an open
transaction waits for that transaction to end, one whose number has been committed in the meantime
is tried again, a bounded number of times.  A row can have a key, for which there is one row: an
INSERT with a key that is there takes the number of that row.
-/

namespace H2Fleet

/-- `read n` has found the number `n` and not inserted its row. -/
inductive AllocPc where
  | begun
  | read (n : ℕ)
  | inserted (n : ℕ)
  | done (n : ℕ)
  | failed

/-- The number of the row a transaction has inserted and not committed. -/
def AllocPc.pending : AllocPc → Option ℕ
  | .inserted n => some n
  | _ => none

structure AllocCall (K : Type) where
  key : Option K
  attempt : ℕ
  pc : AllocPc

structure Allocator (K : Type) where
  rows : List (Option K × ℕ)
  calls : List (AllocCall K)

inductive AllocEvent (K : Type) where
  | start (key : Option K)
  | read (i : ℕ)
  | insert (i : ℕ)
  | commit (i : ℕ)
  | crash (i : ℕ)

/-- A step of a transaction that has begun. -/
def AllocEvent.continues {K : Type} : AllocEvent K → Bool
  | .start _ => false
  | _ => true

namespace Allocator

open List Option

variable {K : Type}

def init : Allocator K := ⟨[], []⟩

def numbers (s : Allocator K) : List ℕ := s.rows.map Prod.snd

/-- `COALESCE(MAX(n), base) + 1`. -/
def candidate (base : ℕ) (s : Allocator K) : ℕ := s.numbers.max?.getD base + 1

def setCall (s : Allocator K) (i : ℕ) (c : AllocCall K) : Allocator K :=
  { s with calls := s.calls.set i c }

/-- The next attempt of a call whose number was taken. -/
def retry (attempts : ℕ) (c : AllocCall K) : AllocCall K :=
  if c.attempt + 1 < attempts then { c with attempt := c.attempt + 1, pc := .begun }
  else { c with pc := .failed }

variable [DecidableEq K]

def owned (s : Allocator K) (key : Option K) : Option ℕ :=
  key.bind fun k => (s.rows.find? fun r => r.1 = some k).map Prod.snd

/-- An open transaction holds the number or the key. -/
def Waits (s : Allocator K) (key : Option K) (n : ℕ) : Prop :=
  ∃ d ∈ s.calls, d.pc.pending = some n ∨
    (d.pc.pending.isSome = true ∧ key.isSome = true ∧ d.key = key)

instance (s : Allocator K) (key : Option K) (n : ℕ) : Decidable (s.Waits key n) :=
  inferInstanceAs (Decidable (∃ _ ∈ _, _))

def step (base attempts : ℕ) (s : Allocator K) : AllocEvent K → Option (Allocator K)
  | .start key => some { s with calls := s.calls ++ [⟨key, 0, .begun⟩] }
  | .read i => s.calls[i]?.bind fun c =>
    match c.pc with
    | .begun => some (s.setCall i { c with pc := .read (s.candidate base) })
    | _ => none
  | .insert i => s.calls[i]?.bind fun c =>
    match c.pc with
    | .read n =>
      match s.owned c.key with
      | some m => some (s.setCall i { c with pc := .done m })
      | none =>
        if s.Waits c.key n then none
        else if n ∈ s.numbers then some (s.setCall i (retry attempts c))
        else some (s.setCall i { c with pc := .inserted n })
    | _ => none
  | .commit i => s.calls[i]?.bind fun c =>
    match c.pc with
    | .inserted n =>
      some ({ s with rows := s.rows ++ [(c.key, n)] }.setCall i { c with pc := .done n })
    | _ => none
  | .crash i => s.calls[i]?.bind fun c =>
    match c.pc with
    | .done _ | .failed => none
    | _ => some (s.setCall i { c with pc := .failed })

/-! ## The invariant -/

/-- A number that was read is at most the next one, and one inserted is the next one. -/
def PcOk (base rows : ℕ) : AllocPc → Prop
  | .read n => base < n ∧ n ≤ base + rows + 1
  | .inserted n => n = base + rows + 1
  | _ => True

omit [DecidableEq K] in
/-- **The numbers are consecutive**, and one open transaction at most holds the next. -/
structure Contiguous (base : ℕ) (s : Allocator K) : Prop where
  numbers : s.numbers = range' (base + 1) s.rows.length
  pcs : ∀ c ∈ s.calls, PcOk base s.rows.length c.pc
  one : ∀ {i j : ℕ} {c d : AllocCall K}, s.calls[i]? = some c → s.calls[j]? = some d →
    c.pc.pending.isSome = true → d.pc.pending.isSome = true → i = j

section Invariant

variable {base attempts : ℕ} {s s' : Allocator K}

omit [DecidableEq K] in
lemma Contiguous.init : (Allocator.init : Allocator K).Contiguous base where
  numbers := rfl
  pcs := by simp [Allocator.init]
  one := by simp [Allocator.init]

omit [DecidableEq K] in
lemma Contiguous.mem_numbers (h : s.Contiguous base) (n : ℕ) :
    n ∈ s.numbers ↔ base < n ∧ n ≤ base + s.rows.length := by
  rw [h.numbers, mem_range'_1]
  omega

omit [DecidableEq K] in
lemma Contiguous.candidate (h : s.Contiguous base) :
    s.candidate base = base + s.rows.length + 1 := by
  rw [Allocator.candidate]
  cases hmax : s.numbers.max? with
  | none =>
    rw [max?_eq_none_iff, h.numbers, range'_eq_nil_iff] at hmax
    rw [hmax]
    rfl
  | some m =>
    obtain ⟨hm, hle⟩ := max?_eq_some_iff.mp hmax
    rw [h.mem_numbers] at hm
    have hlast := hle (base + s.rows.length) ((h.mem_numbers _).mpr (by omega))
    simp only [getD_some]
    omega

omit [DecidableEq K] in
lemma Contiguous.release (h : s.Contiguous base) (i : ℕ) {c : AllocCall K}
    (hpc : PcOk base s.rows.length c.pc) (hpending : c.pc.pending = none) :
    (s.setCall i c).Contiguous base where
  numbers := h.numbers
  pcs := forall_mem_set h.pcs hpc
  one {j k d e} hj hk hd he := by
    rcases getElem?_set_cases hj with ⟨-, rfl⟩ | ⟨-, hj⟩
    · rw [hpending] at hd
      cases hd
    · rcases getElem?_set_cases hk with ⟨-, rfl⟩ | ⟨-, hk⟩
      · rw [hpending] at he
        cases he
      · exact h.one hj hk hd he

/-- **What an INSERT does**: it finds the key, meets a taken number, or gets the next. -/
lemma insert_cases {i : ℕ} (h : s.step base attempts (.insert i) = some s') :
    ∃ c n, s.calls[i]? = some c ∧ c.pc = .read n ∧
    ((∃ m, s' = s.setCall i { c with pc := .done m }) ∨
        s' = s.setCall i (retry attempts c) ∨
        (¬ s.Waits c.key n ∧ n ∉ s.numbers ∧ s' = s.setCall i { c with pc := .inserted n })) := by
  obtain ⟨c, hc, h⟩ := bind_eq_some_iff.mp h
  split at h
  · rename_i n hpc
    refine ⟨c, n, hc, hpc, ?_⟩
    cases howned : s.owned c.key with
    | some m =>
      simp only [howned, some.injEq] at h
      exact .inl ⟨m, h.symm⟩
    | none =>
      simp only [howned] at h
      split_ifs at h with hwaits htaken
      · exact .inr (.inl (some.inj h).symm)
      · exact .inr (.inr ⟨hwaits, htaken, (some.inj h).symm⟩)
  · cases h

lemma Contiguous.insert (h : s.Contiguous base) {i : ℕ}
    (hstep : s.step base attempts (.insert i) = some s') : s'.Contiguous base := by
  obtain ⟨c, n, hc, hpc, ⟨m, rfl⟩ | rfl | ⟨hwaits, hnew, rfl⟩⟩ := insert_cases hstep
  · exact h.release i trivial rfl
  · refine h.release i ?_ ?_
    · rw [retry]
      split_ifs <;> trivial
    · rw [retry]
      split_ifs <;> rfl
  · -- a number that was the next one at some time and is not taken is the next one now
    have hread : PcOk base s.rows.length c.pc := h.pcs c (mem_of_getElem? hc)
    have hn : n = base + s.rows.length + 1 := by
      rw [hpc] at hread
      rw [h.mem_numbers] at hnew
      have := hread.1
      have := hread.2
      omega
    -- nobody else holds it, so nobody else holds any
    have hfree : ∀ {j : ℕ} {d : AllocCall K}, s.calls[j]? = some d → d.pc.pending.isSome = true →
        False := by
      intro j d hd hpending
      obtain ⟨m, hm⟩ := isSome_iff_exists.mp hpending
      have hdok := h.pcs d (mem_of_getElem? hd)
      have hdpc : d.pc = .inserted m := by
        cases hd' : d.pc <;> simp_all [AllocPc.pending]
      rw [hdpc] at hdok
      refine hwaits ⟨d, mem_of_getElem? hd, .inl ?_⟩
      rw [hm, hn, show m = base + s.rows.length + 1 from hdok]
    refine ⟨h.numbers, forall_mem_set h.pcs hn, fun {j k d e} hj hk hd he => ?_⟩
    rcases getElem?_set_cases hj with ⟨rfl, -⟩ | ⟨-, hj⟩
    · rcases getElem?_set_cases hk with ⟨rfl, -⟩ | ⟨-, hk⟩
      · rfl
      · exact (hfree hk he).elim
    · exact (hfree hj hd).elim

omit [DecidableEq K] in
/-- The row committed has the next number, and no open transaction holds one. -/
lemma Contiguous.commit (h : s.Contiguous base) {i n : ℕ} {c : AllocCall K}
    (hc : s.calls[i]? = some c) (hpc : c.pc = .inserted n) :
    ({ s with rows := s.rows ++ [(c.key, n)] }.setCall i { c with pc := .done n } :
      Allocator K).Contiguous base := by
  have hn : n = base + s.rows.length + 1 := by
    have hok := h.pcs c (mem_of_getElem? hc)
    rwa [hpc] at hok
  have hfree : ∀ {j : ℕ} {d : AllocCall K}, j ≠ i → s.calls[j]? = some d → d.pc.pending = none := by
    intro j d hj hd
    by_contra hpending
    refine hj (h.one hd hc (isSome_iff_ne_none.mpr hpending) ?_)
    rw [hpc]
    rfl
  refine ⟨?_, fun d hd => ?_, fun {j k d e} hj hk hd he => ?_⟩
  · have hold := h.numbers
    simp only [Allocator.numbers] at hold
    simp only [Allocator.numbers, setCall, map_append, map_cons, map_nil,
      length_append, length_singleton, range'_1_concat, hold, hn]
    congr 2
    omega
  · obtain ⟨j, hj⟩ := mem_iff_getElem?.mp hd
    rcases getElem?_set_cases hj with ⟨-, rfl⟩ | ⟨hne, hj⟩
    · trivial
    · have hok := h.pcs d (mem_of_getElem? hj)
      have hnone := hfree hne hj
      simp only [setCall, length_append, length_singleton]
      cases hd' : d.pc with
      | read m =>
        rw [hd'] at hok
        exact ⟨hok.1, hok.2.trans (by omega)⟩
      | inserted m =>
        rw [hd'] at hnone
        cases hnone
      | begun | done | failed => trivial
  · rcases getElem?_set_cases hj with ⟨-, rfl⟩ | ⟨hji, hj⟩
    · cases hd
    · rw [hfree hji hj] at hd
      cases hd

lemma Contiguous.step (h : s.Contiguous base) {e : AllocEvent K}
    (hstep : s.step base attempts e = some s') : s'.Contiguous base := by
  cases e with
  | start key =>
    rw [Allocator.step] at hstep
    cases hstep
    refine ⟨h.numbers, forall_mem_concat h.pcs trivial, fun {j k d e} hj hk hd he => ?_⟩
    rcases getElem?_append_cases hj with ⟨-, rfl⟩ | hj
    · cases hd
    · rcases getElem?_append_cases hk with ⟨-, rfl⟩ | hk
      · cases he
      · exact h.one hj hk hd he
  | read i =>
    obtain ⟨c, hc, hstep⟩ := bind_eq_some_iff.mp hstep
    split at hstep
    · cases hstep
      refine h.release i ?_ rfl
      rw [h.candidate]
      constructor <;> omega
    · cases hstep
  | insert i => exact h.insert hstep
  | commit i =>
    obtain ⟨c, hc, hstep⟩ := bind_eq_some_iff.mp hstep
    split at hstep
    · rename_i n hpc
      cases hstep
      exact h.commit hc hpc
    · cases hstep
  | crash i =>
    obtain ⟨c, hc, hstep⟩ := bind_eq_some_iff.mp hstep
    split at hstep
    · cases hstep
    · cases hstep
    · cases hstep
      exact h.release i trivial rfl

/-! ## An allocation without interruption -/

def allocation (key : Option K) (i : ℕ) : List (AllocEvent K) :=
  [.start key, .read i, .insert i, .commit i]

/-- **Nobody interrupts**: a new key gets the next number. -/
lemma Contiguous.allocate (h : s.Contiguous base) (attempts : ℕ) {key : Option K}
    (hnew : s.owned key = none) (hquiet : ∀ d ∈ s.calls, d.pc.pending = none) :
    run (Allocator.step base attempts) s (allocation key s.calls.length) =
      some ⟨s.rows ++ [(key, base + s.rows.length + 1)],
        s.calls ++ [⟨key, 0, .done (base + s.rows.length + 1)⟩]⟩ := by
  have hcandidate : ∀ cs, (⟨s.rows, cs⟩ : Allocator K).candidate base = base + s.rows.length + 1 :=
    fun _ => h.candidate
  have howned : ∀ cs, (⟨s.rows, cs⟩ : Allocator K).owned key = none := fun _ => hnew
  have hfresh : ∀ cs, base + s.rows.length + 1 ∉ (⟨s.rows, cs⟩ : Allocator K).numbers := by
    intro cs hmem
    have := (h.mem_numbers _).mp hmem
    omega
  have hwaits : ∀ n, ¬ (⟨s.rows, s.calls ++ [⟨key, 0, .read n⟩]⟩ : Allocator K).Waits key n := by
    rintro n ⟨d, hd, hheld⟩
    have hnone : d.pc.pending = none := forall_mem_concat hquiet rfl d hd
    simp [hnone] at hheld
  simp [allocation, run, Allocator.step, setCall, set_append_right _ _ le_rfl, hcandidate, howned,
    if_neg (hwaits _), if_neg (hfresh _)]

end Invariant

end Allocator

end H2Fleet
