import H2Fleet.Core.Run
import H2Fleet.Edge.Spool

/-!
# Draining the spool

`produce_batch` and `drain_spool` of the forwarder.  A drain attempt sends a chunk from the front of
the spool to the broker, which answers for each record on its own; the spool is then told **how
many** were confirmed, and drops that many from its front.
-/

namespace H2Fleet.Edge

open List

/-! ## Producing -/

section Produce

variable {α : Type*}

/-- `produce_batch`: the number of confirmed records and the others. -/
def produceBatch (batch : List α) (results : List Bool) : ℕ × List α :=
  (((batch.zip results).filter fun p => p.2).length,
    ((batch.zip results).filter fun p => !p.2).map Prod.fst)

def delivered (batch : List α) (results : List Bool) : List α :=
  ((batch.zip results).filter fun p => p.2).map Prod.fst

def answers (confirm : ℕ → Bool) (n : ℕ) : List Bool := (range n).map confirm

@[simp] lemma length_answers (confirm : ℕ → Bool) (n : ℕ) : (answers confirm n).length = n := by
  simp [answers]

/-- No confirmation behind a refusal. -/
def ConfirmedPrefix (results : List Bool) : Prop :=
  results.Pairwise fun a b => b = true → a = true
  deriving Decidable

lemma delivered_subset (batch : List α) (results : List Bool) :
    delivered batch results ⊆ batch := by
  intro x hx
  obtain ⟨p, hp, rfl⟩ := mem_map.mp hx
  exact (of_mem_zip (mem_filter.mp hp).1).1

variable {batch : List α} {results : List Bool}

lemma exists_of_mem_delivered {x : α} (hx : x ∈ delivered batch results) :
    ∃ j : ℕ, batch[j]? = some x ∧ results[j]? = some true := by
  obtain ⟨⟨y, b⟩, hp, rfl⟩ := mem_map.mp hx
  obtain ⟨hmem, htrue⟩ := mem_filter.mp hp
  obtain ⟨j, hj⟩ := mem_iff_getElem?.mp hmem
  have hj' := getElem?_zip_eq_some.mp hj
  exact ⟨j, hj'.1, by rw [hj'.2]; exact congrArg some htrue⟩

lemma delivered_or_failed (hlen : results.length = batch.length) {x : α} (hx : x ∈ batch) :
    x ∈ delivered batch results ∨ x ∈ (produceBatch batch results).2 := by
  obtain ⟨i, hi, rfl⟩ := mem_iff_getElem.mp hx
  have hmem : (batch[i], results[i]) ∈ batch.zip results := by
    rw [← getElem_zip (h := by simp; omega)]
    exact getElem_mem _
  cases hr : results[i] with
  | true =>
    rw [hr] at hmem
    exact .inl (mem_map.mpr ⟨_, mem_filter.mpr ⟨hmem, rfl⟩, rfl⟩)
  | false =>
    rw [hr] at hmem
    exact .inr (mem_map.mpr ⟨_, mem_filter.mpr ⟨hmem, rfl⟩, rfl⟩)

lemma produceBatch_le (batch : List α) (results : List Bool) :
    (produceBatch batch results).1 ≤ batch.length := by
  refine (length_filter_le _ _).trans ?_
  rw [length_zip]
  exact min_le_left _ _

lemma refused_of_none (hlen : results.length = batch.length)
    (h : (produceBatch batch results).1 = 0) : ∀ b ∈ results, b = false := by
  intro b hb
  rw [produceBatch, length_eq_zero_iff, filter_eq_nil_iff] at h
  rw [← map_snd_zip hlen.le] at hb
  obtain ⟨p, hp, rfl⟩ := mem_map.mp hb
  exact Bool.eq_false_iff.mpr (h p hp)

/-- **In order, the records confirmed are the first ones.** -/
lemma delivered_eq_take : ∀ (batch : List α) (results : List Bool), results.length = batch.length →
    ConfirmedPrefix results → delivered batch results = batch.take (produceBatch batch results).1
  | [], _, _, _ => by simp [delivered]
  | x :: batch, [], hlen, _ => by simp at hlen
  | x :: batch, true :: results, hlen, h => by
    have ih := delivered_eq_take batch results (Nat.succ.inj hlen) (pairwise_cons.mp h).2
    simpa [delivered, produceBatch] using ih
  | x :: batch, false :: results, hlen, h => by
    have hrest := (pairwise_cons.mp h).1
    have hnone : (batch.zip results).filter (fun p => p.2) = [] := by
      refine filter_eq_nil_iff.mpr fun p hp htrue => ?_
      exact absurd (hrest p.2 (of_mem_zip hp).2 htrue) (by simp)
    simp [delivered, produceBatch, hnone]

/-- **Out of order, a refused record is among the first ones.** -/
lemma exists_refused_of_not_inOrder : ∀ (batch : List α) (results : List Bool),
    results.length = batch.length → ¬ ConfirmedPrefix results →
      ∃ i, i < (produceBatch batch results).1 ∧ results[i]? = some false
  | _, [], _, h => absurd Pairwise.nil h
  | [], _ :: _, hlen, _ => by simp at hlen
  | x :: batch, true :: results, hlen, h => by
    have hrest : ¬ ConfirmedPrefix results := fun hp =>
      h (pairwise_cons.mpr ⟨fun _ _ _ => rfl, hp⟩)
    obtain ⟨i, hi, hfalse⟩ := exists_refused_of_not_inOrder batch results (Nat.succ.inj hlen) hrest
    exact ⟨i + 1, by simpa [produceBatch] using hi, by simpa using hfalse⟩
  | x :: batch, false :: results, hlen, h => by
    refine ⟨0, Nat.pos_of_ne_zero fun hzero => h ?_, rfl⟩
    have hall := refused_of_none (Nat.succ.inj hlen)
      (show (produceBatch batch results).1 = 0 by simpa [produceBatch] using hzero)
    refine pairwise_cons.mpr ⟨fun b hb htrue => ?_, ?_⟩
    · exact absurd (hall b hb) (by simp [htrue])
    · exact pairwise_of_forall_mem_list fun a _ b hb htrue =>
        absurd (hall b hb) (by simp [htrue])

end Produce

/-! ## The drain -/

/-- The part that drains.  `confirmed` records what the broker confirmed. -/
structure Forwarder where
  spool : Spool
  kafkaOk : Bool
  lastKafkaOk : ℤ
  confirmed : List ℕ

open Forwarder

/-- `drain_spool` goes on: there is something to send, and the uplink did not just fail. -/
def Forwarder.drainDue (batchMax : ℕ) (f : Forwarder) (now : ℤ) : Prop :=
  f.spool.queue ≠ [] ∧ (f.kafkaOk = true ∨ 5 ≤ now - f.lastKafkaOk) ∧ f.spool.peek batchMax ≠ []
  deriving Decidable

/-- The broker's answers for the chunk of an attempt. -/
def Forwarder.results (batchMax : ℕ) (f : Forwarder) (confirm : ℕ → Bool) : List Bool :=
  answers confirm (f.spool.peek batchMax).length

lemma Forwarder.length_results (batchMax : ℕ) (f : Forwarder) (confirm : ℕ → Bool) :
    (f.results batchMax confirm).length = (f.spool.peek batchMax).length :=
  length_answers _ _

/-- The produce call of `drain_spool`, up to the number to acknowledge. -/
def Forwarder.drainProduce (batchMax : ℕ) (f : Forwarder) (confirm : ℕ → Bool) (later : ℤ) :
    Forwarder × ℕ :=
  let chunk := f.spool.peek batchMax
  let (ok, failed) := produceBatch chunk (f.results batchMax confirm)
  let confirmed := f.confirmed ++
    (delivered chunk (f.results batchMax confirm)).filterMap Spooled.origin
  if failed = [] then
    ({ f with kafkaOk := true, lastKafkaOk := later, confirmed := confirmed }, chunk.length)
  else ({ f with kafkaOk := false, confirmed := confirmed }, ok)

/-- The acknowledgement at the end of `drain_spool`. -/
def Forwarder.drainAck (f : Forwarder) (n : ℕ) (io : CompactIO) : Forwarder :=
  if 0 < n then { f with spool := (f.spool.ack n io).1 } else f

/-- The clock before and after, the broker's answers, and how a compaction ends. -/
structure Attempt where
  now : ℤ
  later : ℤ
  confirm : ℕ → Bool
  io : CompactIO

def drainSpool (batchMax : ℕ) (f : Forwarder) (a : Attempt) : Forwarder :=
  if f.drainDue batchMax a.now then
    (f.drainProduce batchMax a.confirm a.later).1.drainAck
      (f.drainProduce batchMax a.confirm a.later).2 a.io
  else f

/-- In this attempt no record is confirmed behind one that is refused. -/
def InOrder (batchMax : ℕ) (f : Forwarder) (a : Attempt) : Prop :=
  f.drainDue batchMax a.now → ConfirmedPrefix (f.results batchMax a.confirm)

section Spec

variable (batchMax : ℕ) (f : Forwarder)

lemma Forwarder.drainProduce_count (confirm : ℕ → Bool) (later : ℤ) :
    (f.drainProduce batchMax confirm later).2 =
      (produceBatch (f.spool.peek batchMax) (f.results batchMax confirm)).1 := by
  simp only [drainProduce]
  split_ifs with h
  · simp only [produceBatch, map_eq_nil_iff, filter_eq_nil_iff, Bool.not_eq_true,
      Bool.not_eq_false'] at h ⊢
    rw [filter_eq_self.mpr h, length_zip, f.length_results, min_self]
  · rfl

lemma Forwarder.drainProduce_spool (confirm : ℕ → Bool) (later : ℤ) :
    (f.drainProduce batchMax confirm later).1.spool = f.spool := by
  simp only [drainProduce]
  split_ifs <;> rfl

lemma Forwarder.drainProduce_confirmed (confirm : ℕ → Bool) (later : ℤ) :
    (f.drainProduce batchMax confirm later).1.confirmed = f.confirmed ++
      (delivered (f.spool.peek batchMax) (f.results batchMax confirm)).filterMap
      Spooled.origin := by
  simp only [drainProduce]
  split_ifs <;> rfl

lemma Forwarder.drainAck_queue (n : ℕ) (io : CompactIO) :
    (f.drainAck n io).spool.queue = f.spool.queue.drop n := by
  rw [drainAck]
  split_ifs with h
  · exact f.spool.ack_queue n io
  · rw [Nat.eq_zero_of_not_pos h, drop_zero]

@[simp] lemma Forwarder.drainAck_confirmed (n : ℕ) (io : CompactIO) :
    (f.drainAck n io).confirmed = f.confirmed := by
  rw [drainAck]
  split_ifs <;> rfl

/-- **What an attempt does**: as many records leave the queue as were confirmed. -/
lemma drainSpool_due {a : Attempt} (h : f.drainDue batchMax a.now) :
    (drainSpool batchMax f a).spool.queue = f.spool.queue.drop
        (produceBatch (f.spool.peek batchMax) (f.results batchMax a.confirm)).1 ∧
      (drainSpool batchMax f a).confirmed = f.confirmed ++
        (delivered (f.spool.peek batchMax) (f.results batchMax a.confirm)).filterMap
          Spooled.origin := by
  rw [drainSpool, if_pos h, drainAck_queue, drainAck_confirmed,
    drainProduce_count, drainProduce_spool, drainProduce_confirmed]
  exact ⟨rfl, rfl⟩

end Spec

/-! ## Runs of drain attempts -/

/-- The records of the spool, counted from its front. -/
def Forwarder.counted (f : Forwarder) : Forwarder :=
  { f with
    spool := { f.spool with queue := f.spool.queue.mapIdx fun i e => { e with origin := some i } }
    confirmed := [] }

/-- Of `n` records, those no longer in the spool were confirmed. -/
def DropsConfirmed (n : ℕ) (f : Forwarder) : Prop :=
  ∀ i < n, some i ∉ f.spool.queue.map Spooled.origin → i ∈ f.confirmed

instance (n : ℕ) (f : Forwarder) : Decidable (DropsConfirmed n f) :=
  inferInstanceAs (Decidable (∀ i < n, _ → _))

/-- The spool holds the records from the `k`-th on; the others were confirmed. -/
structure DrainedTo (n k : ℕ) (f : Forwarder) : Prop where
  length : k + f.spool.queue.length = n
  origin : ∀ (j : ℕ) e, f.spool.queue[j]? = some e → e.origin = some (k + j)
  confirmed : ∀ i, i ∈ f.confirmed ↔ i < k

def Lost (n : ℕ) (f : Forwarder) : Prop :=
  ∃ i < n, some i ∉ f.spool.queue.map Spooled.origin ∧ i ∉ f.confirmed

lemma DrainedTo.counted (f : Forwarder) : DrainedTo f.spool.queue.length 0 f.counted where
  length := by simp [Forwarder.counted]
  origin j e he := by
    simp only [Forwarder.counted, getElem?_mapIdx] at he
    obtain ⟨e', -, rfl⟩ := Option.map_eq_some_iff.mp he
    simp
  confirmed i := by simp [Forwarder.counted]

section Steps

variable {batchMax n k : ℕ} {f : Forwarder} {a : Attempt}

lemma DrainedTo.mem_origin_iff (h : DrainedTo n k f) (i : ℕ) :
    some i ∈ f.spool.queue.map Spooled.origin ↔ k ≤ i ∧ i < n := by
  have hlen := h.length
  constructor
  · intro hi
    obtain ⟨e, he, heq⟩ := mem_map.mp hi
    obtain ⟨j, hj, hje⟩ := mem_iff_getElem.mp he
    have horigin := h.origin j e (by rw [getElem?_eq_getElem hj, hje])
    rw [heq, Option.some.injEq] at horigin
    omega
  · rintro ⟨hki, hin⟩
    have hj : i - k < f.spool.queue.length := by omega
    have horigin := h.origin (i - k) _ (getElem?_eq_getElem hj)
    refine mem_map.mpr ⟨_, getElem_mem hj, ?_⟩
    rw [horigin, Nat.add_sub_cancel' hki]

lemma DrainedTo.dropsConfirmed (h : DrainedTo n k f) : DropsConfirmed n f := by
  intro i hi hnot
  rw [h.mem_origin_iff] at hnot
  rw [h.confirmed]
  omega

lemma Lost.not_dropsConfirmed (h : Lost n f) : ¬ DropsConfirmed n f := by
  obtain ⟨i, hi, hqueue, hconf⟩ := h
  exact fun hall => hconf (hall i hi hqueue)

lemma DrainedTo.inOrder (h : DrainedTo n k f) (hdue : f.drainDue batchMax a.now)
    (horder : ConfirmedPrefix (f.results batchMax a.confirm)) :
    ∃ k', DrainedTo n k' (drainSpool batchMax f a) := by
  obtain ⟨hqueue, hconf⟩ := drainSpool_due batchMax f hdue
  rw [delivered_eq_take _ _ (f.length_results batchMax _) horder] at hconf
  have hle := produceBatch_le (f.spool.peek batchMax) (f.results batchMax a.confirm)
  generalize (produceBatch (f.spool.peek batchMax) (f.results batchMax a.confirm)).1 = ok at *
  have htake : (f.spool.peek batchMax).take ok = f.spool.queue.take ok := by
    rw [Spool.peek, length_take] at hle
    rw [Spool.peek, take_take, min_eq_left (by omega)]
  rw [htake] at hconf
  have hok : ok ≤ f.spool.queue.length := by
    rw [Spool.peek, length_take] at hle
    omega
  have hlen := h.length
  refine ⟨k + ok, ?_, fun j e he => ?_, fun i => ?_⟩
  · rw [hqueue, length_drop]
    omega
  · rw [hqueue, getElem?_drop] at he
    rw [h.origin _ e he, Nat.add_assoc]
  · rw [hconf, mem_append, h.confirmed, mem_filterMap]
    constructor
    · rintro (hi | ⟨e, he, horigin⟩)
      · omega
      · obtain ⟨j, hj, hje⟩ := mem_take_iff_getElem.mp he
        rw [h.origin j e (by rw [getElem?_eq_getElem (by omega), hje]),
          Option.some.injEq] at horigin
        omega
    · intro hi
      by_cases hk : i < k
      · exact .inl hk
      · have hj : i - k < f.spool.queue.length := by omega
        refine .inr ⟨f.spool.queue[i - k], ?_, ?_⟩
        · exact mem_take_iff_getElem.mpr ⟨i - k, by omega, rfl⟩
        · rw [h.origin _ _ (getElem?_eq_getElem hj), Nat.add_sub_cancel' (by omega)]

lemma DrainedTo.lost (h : DrainedTo n k f) (hdue : f.drainDue batchMax a.now)
    (horder : ¬ ConfirmedPrefix (f.results batchMax a.confirm)) :
    Lost n (drainSpool batchMax f a) := by
  obtain ⟨hqueue, hconf⟩ := drainSpool_due batchMax f hdue
  obtain ⟨i, hi, hfalse⟩ := exists_refused_of_not_inOrder (f.spool.peek batchMax) _
    (f.length_results batchMax _) horder
  have hle := produceBatch_le (f.spool.peek batchMax) (f.results batchMax a.confirm)
  generalize (produceBatch (f.spool.peek batchMax) (f.results batchMax a.confirm)).1 = ok at *
  have hlen := h.length
  rw [Spool.peek, length_take] at hle
  refine ⟨k + i, by omega, ?_, ?_⟩
  · rw [hqueue]
    intro hmem
    obtain ⟨e, he, horigin⟩ := mem_map.mp hmem
    obtain ⟨j, hj⟩ := mem_iff_getElem?.mp he
    rw [getElem?_drop] at hj
    rw [h.origin _ e hj, Option.some.injEq] at horigin
    omega
  · rw [hconf, mem_append, h.confirmed]
    rintro (hlt | hdel)
    · omega
    · -- the records an attempt confirms are counted from `k`, by their place in the chunk
      obtain ⟨e, he, horigin⟩ := mem_filterMap.mp hdel
      obtain ⟨j, hj, htrue⟩ := exists_of_mem_delivered he
      rw [Spool.peek, getElem?_take] at hj
      split_ifs at hj
      rw [h.origin j e hj, Option.some.injEq] at horigin
      have hij : i = j := by omega
      rw [hij, htrue] at hfalse
      simp at hfalse

lemma Lost.drain (h : Lost n f) : Lost n (drainSpool batchMax f a) := by
  by_cases hdue : f.drainDue batchMax a.now
  · obtain ⟨hqueue, hconf⟩ := drainSpool_due batchMax f hdue
    obtain ⟨i, hi, hnotQueue, hnotConf⟩ := h
    refine ⟨i, hi, ?_, ?_⟩
    · rw [hqueue]
      exact fun hmem => hnotQueue (map_subset _ (drop_subset _ _) hmem)
    · rw [hconf, mem_append]
      rintro (hmem | hmem)
      · exact hnotConf hmem
      · obtain ⟨e, he, horigin⟩ := mem_filterMap.mp hmem
        exact hnotQueue (mem_map.mpr ⟨e, take_subset _ _ (delivered_subset _ _ he), horigin⟩)
  · rwa [drainSpool, if_neg hdue]

end Steps

lemma Lost.drains {batchMax n : ℕ} : ∀ {attempts : List Attempt} {f : Forwarder}, Lost n f →
    Lost n (attempts.foldl (drainSpool batchMax) f)
  | [], _, h => h
  | a :: attempts, f, h => by
    rw [foldl_cons]
    exact Lost.drains h.drain

/-- From a border on, only confirmed records are dropped exactly if the run is in order. -/
lemma DrainedTo.drains_iff {batchMax n : ℕ} : ∀ {attempts : List Attempt} {k : ℕ} {f : Forwarder},
    DrainedTo n k f → (DropsConfirmed n (attempts.foldl (drainSpool batchMax) f) ↔
      Meets (fun g a => some (drainSpool batchMax g a)) (InOrder batchMax) f attempts)
  | [], _, _, h => iff_of_true h.dropsConfirmed trivial
  | a :: attempts, k, f, h => by
    have hmeets : Meets (fun g a => some (drainSpool batchMax g a)) (InOrder batchMax) f
        (a :: attempts) ↔ InOrder batchMax f a ∧
          Meets (fun g a => some (drainSpool batchMax g a)) (InOrder batchMax)
            (drainSpool batchMax f a) attempts := by
      simp [Meets]
    rw [hmeets, foldl_cons]
    by_cases hdue : f.drainDue batchMax a.now
    · by_cases horder : ConfirmedPrefix (f.results batchMax a.confirm)
      · obtain ⟨k', h'⟩ := h.inOrder hdue horder
        have hin : InOrder batchMax f a := fun _ => horder
        rw [h'.drains_iff, and_iff_right hin]
      · exact iff_of_false (h.lost hdue horder).drains.not_dropsConfirmed
          fun hall => horder (hall.1 hdue)
    · have hsame : drainSpool batchMax f a = f := if_neg hdue
      have hin : InOrder batchMax f a := fun hd => absurd hd hdue
      rw [hsame, h.drains_iff, and_iff_right hin]

/-- **Only confirmed records leave the spool, exactly when every attempt is in order.** -/
theorem drain_drops_confirmed_iff (batchMax : ℕ) (f : Forwarder) (attempts : List Attempt) :
    DropsConfirmed f.spool.queue.length (attempts.foldl (drainSpool batchMax) f.counted) ↔
      Meets (fun g a => some (drainSpool batchMax g a)) (InOrder batchMax) f.counted attempts :=
  (DrainedTo.counted f).drains_iff

/-- Two records in the spool, and an uplink that was last seen long ago. -/
def twoSpooled : Forwarder where
  spool :=
    { queue := [⟨⟨none, [1]⟩, none⟩, ⟨⟨none, [2]⟩, none⟩]
      ackedPendingCompact := 0
      disk := ⟨[⟨⟨none, [1]⟩, none⟩, ⟨⟨none, [2]⟩, none⟩], []⟩
      attached := true }
  kafkaOk := false
  lastKafkaOk := 0
  confirmed := []

/-- **A refused record is dropped**, as the second of two is confirmed. -/
theorem drain_drops_refused :
    ¬ DropsConfirmed 2 ([⟨1700000000, 1700000001, fun i => i == 1, .ok⟩].foldl (drainSpool 500)
      twoSpooled.counted) := by
  decide

end H2Fleet.Edge
