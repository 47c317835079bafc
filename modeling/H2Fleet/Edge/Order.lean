import H2Fleet.Core.Fifo
import H2Fleet.Edge.Agent

/-!
# The order of the forwarder

The loop of `run` in `forwarder.rs` from the start of the process to its stop, without crashes and
without errors of the spool: records come in, a full batch or the timer makes a `flush`, the tick
makes a `drain_spool`.  The comments promise that the spool is replayed first in, first out, and
that no newer record is forwarded before it.  A record is known by its place in the source.

**What breaks the order.**  The broker answers for each record on its own.  A record that is refused
goes to the spool, or stays in it, while one behind it in the same call is confirmed; when it is
sent again it comes too late.
-/

namespace H2Fleet.Edge

open List Fifo EdgeRecord Spooled

/-! ## The loop -/

structure Forwarding where
  fwd : Forwarder
  batch : List EdgeRecord
  received : ℕ
  calls : List (List ℕ)
  stopped : Bool

open Forwarding

/-- What the `select!` of `run` takes.  `leave`: the shutdown flag is set and the channel empty. -/
inductive Occasion where
  | recv (record : SpoolRecord) (confirm : ℕ → Bool) (later : ℤ)
  | timer (confirm : ℕ → Bool) (later : ℤ)
  | tick (now later : ℤ) (confirm : ℕ → Bool) (leave : Bool)
  | closed (confirm : ℕ → Bool) (later : ℤ)

/-- The start of `run`, with what `Spool::open` found. -/
def Forwarding.start (found : Spool) : Forwarding where
  fwd := (⟨found, false, 0, []⟩ : Forwarder).counted
  batch := []
  received := found.queue.length
  calls := []
  stopped := false

section Loop

variable (crc32 : Bytes → UInt32) (batchMax : ℕ)

/-- `flush`, up to the checkpoint of the offset. -/
def Forwarding.flush (s : Forwarding) (confirm : ℕ → Bool) (later : ℤ) : Forwarding :=
  if s.batch = [] then s
  else if s.fwd.spool.queue = [] then
    let results := answers confirm s.batch.length
    let failed := (produceBatch s.batch results).2
    let sent := (delivered s.batch results).map offset
    if failed = [] then
      { s with
        batch := []
        calls := s.calls ++ [sent]
        fwd := { s.fwd with
          kafkaOk := true, lastKafkaOk := later, confirmed := s.fwd.confirmed ++ sent } }
    else
      { s with
        batch := []
        calls := s.calls ++ [sent]
        fwd := { s.fwd with
          kafkaOk := false
          confirmed := s.fwd.confirmed ++ sent
          spool := (s.fwd.spool.append crc32 (failed.map spooled) .ok).1 } }
  else
    -- older records are spooled: nothing is sent
    { s with
      batch := []
      fwd := { s.fwd with
        spool := (s.fwd.spool.append crc32 (s.batch.map spooled) .ok).1 } }

/-- `drain_spool`, with the call it makes. -/
def Forwarding.drain (s : Forwarding) (now later : ℤ) (confirm : ℕ → Bool) : Forwarding :=
  if s.fwd.drainDue batchMax now then
    { s with
      fwd := drainSpool batchMax s.fwd ⟨now, later, confirm, .ok⟩
      calls := s.calls ++ [(delivered (s.fwd.spool.peek batchMax)
        (s.fwd.results batchMax confirm)).filterMap origin] }
  else s

def Forwarding.push (s : Forwarding) (record : SpoolRecord) : Forwarding :=
  { s with
    batch := s.batch ++ [⟨record.key, record.value, s.received⟩]
    received := s.received + 1 }

def Forwarding.step (s : Forwarding) : Occasion → Option Forwarding
  | .recv record confirm later =>
    if s.stopped then none
    else if batchMax ≤ (s.push record).batch.length then
      some ((s.push record).flush crc32 confirm later)
    else some (s.push record)
  | .timer confirm later => if s.stopped then none else some (s.flush crc32 confirm later)
  | .tick now later confirm leave =>
    if s.stopped then none
    else some { s.drain batchMax now later confirm with stopped := leave && s.batch.isEmpty }
  | .closed confirm later =>
    if s.stopped then none else some { s.flush crc32 confirm later with stopped := true }

end Loop

/-! ## The condition -/

/-- In a flush, no record is confirmed behind one that is refused. -/
def Forwarding.FlushInStep (s : Forwarding) (confirm : ℕ → Bool) : Prop :=
  s.fwd.spool.queue = [] → ConfirmedPrefix (answers confirm s.batch.length)

/-- A record refused in a drain before a confirmed one leaves the spool, or was confirmed. -/
def Forwarding.DrainInStep (batchMax : ℕ) (s : Forwarding) (now : ℤ) (confirm : ℕ → Bool) : Prop :=
  s.fwd.drainDue batchMax now →
    ∀ i j, i < j → j < (s.fwd.spool.peek batchMax).length → confirm i = false → confirm j = true →
      i < (produceBatch (s.fwd.spool.peek batchMax) (s.fwd.results batchMax confirm)).1 ∨
        ∃ e n, (s.fwd.spool.peek batchMax)[i]? = some e ∧ e.origin = some n ∧ Confirmed s.calls n

/-- **The condition on a step.**  What the last call leaves behind is not sent again. -/
def InStep (batchMax : ℕ) (s : Forwarding) : Occasion → Prop
  | .recv record confirm _ =>
    batchMax ≤ (s.push record).batch.length → (s.push record).FlushInStep confirm
  | .timer confirm _ => s.FlushInStep confirm
  | .tick now _ confirm leave =>
    (leave && s.batch.isEmpty) = false → s.DrainInStep batchMax now confirm
  | .closed _ _ => True

/-! ## The records of a call by number -/

variable {results : List Bool} {i a : ℕ} {l : List ℕ}

section Numbers

variable {α β : Type*}

lemma delivered_map (f : α → β) (batch : List α) (results : List Bool) :
    delivered (batch.map f) results = (delivered batch results).map f := by
  simp only [delivered, zip_map_left, filter_map, map_map]
  rfl

lemma produceBatch_map (f : α → β) (batch : List α) (results : List Bool) :
    produceBatch (batch.map f) results =
      ((produceBatch batch results).1, (produceBatch batch results).2.map f) := by
  simp only [produceBatch, zip_map_left, filter_map, map_map, length_map]
  rfl

lemma failed_sublist {batch : List α} (hlen : results.length = batch.length) :
    (produceBatch batch results).2.Sublist batch := by
  have h := (filter_sublist (l := batch.zip results) (p := fun x => !x.2)).map Prod.fst
  rwa [map_fst_zip hlen.ge] at h

lemma mem_delivered {batch : List α} {x : α} (hx : batch[i]? = some x)
    (h : results[i]? = some true) : x ∈ delivered batch results :=
  mem_map.mpr ⟨(x, true), mem_filter.mpr
    ⟨mem_iff_getElem?.mpr ⟨i, getElem?_zip_eq_some.mpr ⟨hx, h⟩⟩, rfl⟩, rfl⟩

lemma lt_iff_of_sorted (hl : l.Pairwise (· < ·)) {j b : ℕ} (ha : l[i]? = some a)
    (hb : l[j]? = some b) : i < j ↔ a < b := by
  obtain ⟨hi, rfl⟩ := List.getElem?_eq_some_iff.mp ha
  obtain ⟨hj, rfl⟩ := List.getElem?_eq_some_iff.mp hb
  have hmono := pairwise_iff_getElem.mp hl
  refine ⟨fun h => hmono i j hi hj h, fun h => ?_⟩
  by_contra hle
  rcases (not_lt.mp hle).eq_or_lt with heq | hlt
  · subst heq
    exact lt_irrefl _ h
  · exact lt_asymm h (hmono j i hj hi hlt)

lemma eq_of_sorted (hl : l.Pairwise (· < ·)) {j : ℕ} (hi : l[i]? = some a) (hj : l[j]? = some a) :
    i = j := by
  have hij := (lt_iff_of_sorted hl hi hj).not.mpr (lt_irrefl a)
  have hji := (lt_iff_of_sorted hl hj hi).not.mpr (lt_irrefl a)
  omega

end Numbers

/-! ## The line -/

/-- The forwarder in step: `nums` are the records of the spool. -/
structure Forwarding.InLine (s : Forwarding) (nums : List ℕ) : Prop where
  queue : s.fwd.spool.queue.map origin = nums.map some
  line : Line s.calls (nums ++ s.batch.map offset)
  pending_lt : ∀ a ∈ nums ++ s.batch.map offset, a < s.received
  confirmed_lt : ∀ b, Confirmed s.calls b → b < s.received

lemma Forwarding.inLine_start (found : Spool) :
    (start found).InLine (range found.queue.length) where
  queue := by
    apply ext_getElem?
    intro i
    simp only [start, Forwarder.counted, getElem?_map, getElem?_mapIdx, Option.map_map]
    by_cases hi : i < found.queue.length
    · simp [hi]
    · simp [hi]
  line :=
    { sorted := by simpa [start] using pairwise_lt_range
      inOrder := fun a b _ ha => absurd ha not_confirmed_nil
      behind := fun a _ _ b hb => absurd hb not_confirmed_nil }
  pending_lt := by simp [start]
  confirmed_lt b hb := absurd hb not_confirmed_nil

section Steps

variable {crc32 : Bytes → UInt32} {batchMax : ℕ} {s : Forwarding} {nums : List ℕ}

lemma Forwarding.InLine.push (h : s.InLine nums) (record : SpoolRecord) :
    (s.push record).InLine nums where
  queue := h.queue
  line := by
    simpa [Forwarding.push] using h.line.push h.pending_lt h.confirmed_lt
  pending_lt a ha := by
    simp only [Forwarding.push, map_append, map_cons, map_nil] at ha ⊢
    rw [← append_assoc, mem_append, mem_singleton] at ha
    rcases ha with ha | rfl
    · exact (h.pending_lt a ha).trans (Nat.lt_succ_self _)
    · exact Nat.lt_succ_self _
  confirmed_lt b hb := (h.confirmed_lt b hb).trans (Nat.lt_succ_self _)

/-! ## A flush -/

lemma spooled_origin (rs : List EdgeRecord) :
    (rs.map spooled).map origin = (rs.map offset).map some := by
  simp [spooled]

@[simp] lemma Forwarding.flush_received (confirm : ℕ → Bool) (later : ℤ) :
    (s.flush crc32 confirm later).received = s.received := by
  simp only [flush]
  split_ifs <;> rfl

@[simp] lemma Forwarding.flush_stopped (confirm : ℕ → Bool) (later : ℤ) :
    (s.flush crc32 confirm later).stopped = s.stopped := by
  simp only [flush]
  split_ifs <;> rfl

lemma Forwarding.flush_sending (hbatch : s.batch ≠ []) (hqueue : s.fwd.spool.queue = [])
    (confirm : ℕ → Bool) (later : ℤ) :
    (s.flush crc32 confirm later).batch = [] ∧
    (s.flush crc32 confirm later).calls = s.calls ++
      [delivered (s.batch.map offset) (answers confirm s.batch.length)] ∧
    (s.flush crc32 confirm later).fwd.spool.queue.map origin =
      (produceBatch (s.batch.map offset) (answers confirm s.batch.length)).2.map some := by
  rw [delivered_map, produceBatch_map, ← spooled_origin]
  unfold flush
  rw [if_neg hbatch, if_pos hqueue]
  dsimp only
  split_ifs with hfailed
  · simp [hfailed, hqueue]
  · simp [Spool.append, hqueue]

lemma Forwarding.flush_holding (hbatch : s.batch ≠ []) (hqueue : s.fwd.spool.queue ≠ [])
    (confirm : ℕ → Bool) (later : ℤ) :
    (s.flush crc32 confirm later).batch = [] ∧
    (s.flush crc32 confirm later).calls = s.calls ∧
    (s.flush crc32 confirm later).fwd.spool.queue.map origin =
      s.fwd.spool.queue.map origin ++ (s.batch.map offset).map some := by
  unfold flush
  rw [if_neg hbatch, if_neg hqueue, ← spooled_origin]
  simp [Spool.append]

lemma not_lt_of_confirmedPrefix (hl : l.Pairwise (· < ·)) (hpre : ConfirmedPrefix results) {b : ℕ}
    (ha : a ∈ (produceBatch l results).2) (hb : b ∈ delivered l results) : ¬ a < b := by
  intro hab
  obtain ⟨⟨a', r⟩, hmem, rfl⟩ := mem_map.mp ha
  obtain ⟨hzip, hfalse⟩ := mem_filter.mp hmem
  obtain ⟨i, hi⟩ := mem_iff_getElem?.mp hzip
  obtain ⟨hai, hri⟩ := getElem?_zip_eq_some.mp hi
  obtain ⟨j, hbj, hrj⟩ := exists_of_mem_delivered hb
  have hij : i < j := (lt_iff_of_sorted hl hai hbj).mpr hab
  obtain ⟨hi', hri'⟩ := List.getElem?_eq_some_iff.mp hri
  obtain ⟨hj', hrj'⟩ := List.getElem?_eq_some_iff.mp hrj
  have := pairwise_iff_getElem.mp hpre i j hi' hj' hij hrj'
  simp_all

variable {confirm : ℕ → Bool}

namespace Forwarding

lemma InLine.flush (h : s.InLine nums) (later : ℤ) (hok : s.FlushInStep confirm) :
    ∃ nums', (s.flush crc32 confirm later).InLine nums' := by
  by_cases hbatch : s.batch = []
  · refine ⟨nums, ?_⟩
    rwa [Forwarding.flush, if_pos hbatch]
  by_cases hqueue : s.fwd.spool.queue = []
  · obtain ⟨hb, hc, hq⟩ := @flush_sending crc32 s hbatch hqueue confirm later
    have hnums : nums = [] := by
      have := h.queue
      rw [hqueue] at this
      simpa using this.symm
    have hlen : (answers confirm s.batch.length).length = (s.batch.map offset).length := by
      simp
    have hline := h.line
    have hlt := h.pending_lt
    rw [hnums, nil_append] at hline hlt
    have hsub := failed_sublist hlen
    refine ⟨_, hq, ?_, ?_, ?_⟩
    · rw [hb, hc, map_nil, append_nil]
      refine Line.send [] (by rwa [append_nil]) (delivered_subset _ _)
        (by rwa [append_nil]) fun a _ ha _ _ b hb' => ?_
      exact not_lt_of_confirmedPrefix hline.sorted (hok hqueue) ha hb'
    · rw [hb, map_nil, append_nil, flush_received]
      exact fun a ha => hlt a (hsub.subset ha)
    · rw [hc, flush_received]
      intro b hb'
      rcases confirmed_append.mp hb' with hb' | hb'
      · exact h.confirmed_lt b hb'
      · exact hlt b (delivered_subset _ _ hb')
  · obtain ⟨hb, hc, hq⟩ := @flush_holding crc32 s hbatch hqueue confirm later
    refine ⟨nums ++ s.batch.map offset, ?_, ?_, ?_, ?_⟩
    · rw [hq, h.queue, map_append]
    · rw [hb, hc, map_nil, append_nil]
      exact h.line
    · rw [hb, map_nil, append_nil, flush_received]
      exact h.pending_lt
    · rw [hc, flush_received]
      exact h.confirmed_lt

/-! ## A drain -/

@[simp] lemma drain_batch (now later : ℤ) (confirm : ℕ → Bool) :
    (s.drain batchMax now later confirm).batch = s.batch := by
  unfold drain
  split_ifs <;> rfl

@[simp] lemma drain_received (now later : ℤ) (confirm : ℕ → Bool) :
    (s.drain batchMax now later confirm).received = s.received := by
  unfold drain
  split_ifs <;> rfl

lemma drain_due (h : s.fwd.spool.queue.map origin = nums.map some) {now : ℤ}
    (hdue : s.fwd.drainDue batchMax now) (later : ℤ) (confirm : ℕ → Bool) :
    (s.drain batchMax now later confirm).calls = s.calls ++
      [delivered (nums.take batchMax) (s.fwd.results batchMax confirm)] ∧
    (s.drain batchMax now later confirm).fwd.spool.queue.map origin =
      (nums.drop (produceBatch (s.fwd.spool.peek batchMax)
        (s.fwd.results batchMax confirm)).1).map some := by
  have hchunk : (s.fwd.spool.peek batchMax).map origin = (nums.take batchMax).map some := by
    rw [Spool.peek, map_take, map_take, h]
  unfold drain
  rw [if_pos hdue]
  refine ⟨?_, ?_⟩
  · have hsent := delivered_map origin (s.fwd.spool.peek batchMax)
      (s.fwd.results batchMax confirm)
    rw [hchunk, delivered_map] at hsent
    have hid : ∀ l : List Spooled, l.filterMap origin = (l.map origin).filterMap id := by
      intro l
      rw [filterMap_map]
      rfl
    rw [hid, ← hsent, filterMap_map]
    simp
  · rw [(drainSpool_due batchMax s.fwd (a := ⟨now, later, confirm, .ok⟩) hdue).1, map_drop, h,
      map_drop]

lemma getElem_peek (h : s.fwd.spool.queue.map origin = nums.map some)
    (ha : (nums.take batchMax)[i]? = some a) :
    ∃ e, (s.fwd.spool.peek batchMax)[i]? = some e ∧ e.origin = some a := by
  have hget := congrArg (fun l : List (Option ℕ) => (l.take batchMax)[i]?) h
  simp only [← map_take, getElem?_map, ha, Option.map_some] at hget
  exact Option.map_eq_some_iff.mp hget

lemma getElem_results {r : Bool} : (s.fwd.results batchMax confirm)[i]? = some r ↔
      i < (s.fwd.spool.peek batchMax).length ∧ confirm i = r := by
  simp [Forwarder.results, answers, getElem?_eq_some_iff]

lemma InLine.drain (h : s.InLine nums) {now : ℤ} (later : ℤ)
    (hok : s.DrainInStep batchMax now confirm) :
    ∃ nums', (s.drain batchMax now later confirm).InLine nums' := by
  by_cases hdue : s.fwd.drainDue batchMax now
  · obtain ⟨hc, hq⟩ := drain_due h.queue hdue later confirm
    have hsplit : nums ++ s.batch.map offset =
        nums.take batchMax ++ (nums.drop batchMax ++ s.batch.map offset) := by
      rw [← append_assoc, take_append_drop]
    have hsorted := h.line.sorted
    refine ⟨_, hq, ?_, ?_, ?_⟩
    · rw [hc, drain_batch]
      refine Line.send (nums.drop batchMax ++ s.batch.map offset) (hsplit ▸ h.line)
        (delivered_subset _ _) ?_ fun a hchunk hpend hnot hconf b hb hab => ?_
      · rw [← hsplit]
        exact (drop_sublist _ _).append_right _
      · -- `a` is refused at place `i`, `b` confirmed at place `j`
        have hnums := (pairwise_append.mp hsorted).1
        have htake := hnums.sublist (take_sublist batchMax nums)
        obtain ⟨i, hi⟩ := mem_iff_getElem?.mp hchunk
        obtain ⟨j, hj, hrj⟩ := exists_of_mem_delivered hb
        have hij := (lt_iff_of_sorted htake hi hj).mpr hab
        obtain ⟨hjlen, hconfj⟩ := getElem_results.mp hrj
        have hconfi : confirm i = false := by
          by_contra htrue
          exact hnot (mem_delivered hi
            (getElem_results.mpr ⟨hij.trans hjlen, by simpa using htrue⟩))
        obtain ⟨e, he, horigin⟩ := getElem_peek h.queue hi
        rcases hok hdue i j hij hjlen hconfi hconfj with hlt | ⟨e', n, he', hn, hconf'⟩
        · rcases mem_append.mp hpend with hpend | hpend
          · obtain ⟨k, hk⟩ := mem_iff_getElem?.mp hpend
            rw [getElem?_drop] at hk
            rw [getElem?_take] at hi
            split_ifs at hi
            have := eq_of_sorted hnums hi hk
            omega
          · exact lt_irrefl a ((pairwise_append.mp hsorted).2.2 a (take_subset _ _ hchunk) a hpend)
        · rw [he, Option.some.injEq] at he'
          rw [← he', horigin, Option.some.injEq] at hn
          exact hconf (hn ▸ hconf')
    · rw [drain_batch, drain_received]
      exact fun a ha => h.pending_lt a (((drop_sublist _ _).append_right _).subset ha)
    · rw [hc, drain_received]
      intro b hb
      rcases confirmed_append.mp hb with hb | hb
      · exact h.confirmed_lt b hb
      · exact h.pending_lt b (mem_append_left _ (take_subset _ _ (delivered_subset _ _ hb)))
  · refine ⟨nums, ?_⟩
    rwa [Forwarding.drain, if_neg hdue]

/-! ## Every step -/

/-- The forwarder runs and is in step, or it has stopped. -/
def Kept (s : Forwarding) : Prop :=
  (s.stopped = true ∧ FirstInOrder s.calls) ∨ (s.stopped = false ∧ ∃ nums, s.InLine nums)

lemma Kept.firstInOrder (h : s.Kept) : FirstInOrder s.calls := by
  rcases h with ⟨-, h⟩ | ⟨-, nums, h⟩
  · exact h
  · exact h.line.inOrder

lemma Kept.step {s' : Forwarding} {o : Occasion} (h : s.Kept) (hok : InStep batchMax s o)
    (hs : s.step crc32 batchMax o = some s') : s'.Kept := by
  rcases h with ⟨hstop, -⟩ | ⟨hrun, nums, hline⟩
  · cases o <;> simp [Forwarding.step, hstop] at hs
  cases o with
  | recv record confirm later =>
    simp only [Forwarding.step, hrun, Bool.false_eq_true, if_false] at hs
    split at hs
    · rename_i hfull
      cases hs
      exact .inr ⟨by simpa [push] using hrun, (hline.push record).flush later (hok hfull)⟩
    · cases hs
      exact .inr ⟨hrun, nums, hline.push record⟩
  | timer confirm later =>
    simp only [Forwarding.step, hrun, Bool.false_eq_true, if_false] at hs
    cases hs
    exact .inr ⟨by simpa using hrun, hline.flush later hok⟩
  | tick now later confirm leave =>
    simp only [Forwarding.step, hrun, Bool.false_eq_true, if_false] at hs
    cases hs
    cases hleave : (leave && s.batch.isEmpty) with
    | true =>
      refine .inl ⟨rfl, ?_⟩
      by_cases hdue : s.fwd.drainDue batchMax now
      · rw [(drain_due hline.queue hdue later confirm).1]
        exact hline.line.firstInOrder_send fun a ha =>
          mem_append_left _ (take_subset _ _ (delivered_subset _ _ ha))
      · rw [Forwarding.drain, if_neg hdue]
        exact hline.line.inOrder
    | false =>
      obtain ⟨nums', hline'⟩ := hline.drain later (hok hleave)
      exact .inr ⟨rfl, nums', { hline' with }⟩
  | closed confirm later =>
    simp only [Forwarding.step, hrun, Bool.false_eq_true, if_false] at hs
    cases hs
    refine .inl ⟨rfl, ?_⟩
    by_cases hbatch : s.batch = []
    · rw [Forwarding.flush, if_pos hbatch]
      exact hline.line.inOrder
    by_cases hqueue : s.fwd.spool.queue = []
    · rw [(flush_sending hbatch hqueue confirm later).2.1]
      exact hline.line.firstInOrder_send fun a ha => mem_append_right _ (delivered_subset _ _ ha)
    · rw [(flush_holding hbatch hqueue confirm later).2.1]
      exact hline.line.inOrder

lemma kept_start (found : Spool) : (start found).Kept :=
  .inr ⟨rfl, _, inLine_start found⟩

end Forwarding

end Steps

/-- **First confirmations follow the source**, in every run whose steps meet the condition. -/
theorem confirmed_in_order (crc32 : Bytes → UInt32) (batchMax : ℕ) (found : Spool)
    (occasions : List Occasion)
    (h : Meets (step crc32 batchMax) (InStep batchMax) (start found) occasions) :
    Throughout (step crc32 batchMax) (fun s => FirstInOrder s.calls) (start found) occasions :=
  h.throughout (fun _ hs => hs.firstInOrder) (fun _ _ _ hs hok hstep => hs.step hok hstep)
    (kept_start found)

/-- Of a batch of two the first is refused, the second confirmed. -/
def refuseFirst : ℕ → Bool := fun i => i == 1

/-- Two records; both are confirmed. -/
theorem confirmed_in_order_two : Throughout (step ieeeCrc32 2) (fun s => FirstInOrder s.calls)
      (start ⟨[], 0, ⟨[], []⟩, true⟩)
      [.recv ⟨none, [1]⟩ (fun _ => true) 1, .recv ⟨none, [2]⟩ (fun _ => true) 2] :=
  confirmed_in_order ieeeCrc32 2 _ _ (by
    refine ⟨nofun, fun s hs => ⟨fun _ _ => ?_, fun _ _ => trivial⟩⟩
    cases hs
    decide)

/-- **The second record is confirmed first**: the drain sends the first one later. -/
theorem refused_record_is_overtaken :
    ¬ Throughout (step ieeeCrc32 2) (fun s => FirstInOrder s.calls)
      (start ⟨[], 0, ⟨[], []⟩, true⟩)
      [.recv ⟨none, [1]⟩ refuseFirst 1, .recv ⟨none, [2]⟩ refuseFirst 2,
        .tick 10 11 (fun _ => true) false] := by
  intro h
  obtain ⟨t, ht, hcalls⟩ :
      ∃ t, run (step ieeeCrc32 2) (start ⟨[], 0, ⟨[], []⟩, true⟩)
        [.recv ⟨none, [1]⟩ refuseFirst 1, .recv ⟨none, [2]⟩ refuseFirst 2,
          .tick 10 11 (fun _ => true) false] = some t ∧ t.calls = [[1], [0]] := by
    decide +kernel
  have horder := h.last ht
  rw [hcalls] at horder
  have := horder 0 1 (by decide) ⟨[0], by decide, by decide⟩ ⟨[1], by decide, by decide⟩
  cases this

end H2Fleet.Edge
