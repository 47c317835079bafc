import H2Fleet.Core.Run
import H2Fleet.Edge.Spool
import Mathlib.Data.List.TakeWhile

/-!
# What the spool recovers

Calls of `append` and `ack` one after another, each of them failing or not, and then `Spool::open`
on the bytes that are in the file.  The header of `spool.rs` promises that the agent survives
outages and restarts without losing records, and that a corrupted tail is detected and truncated.

**After a crash** in the middle of an append the file has the frames it had and the first bytes of
the new ones: those of the records in `complete` are whole, and the rest is `torn`.  A record of
more than 16 MiB and what stands behind it are cut off.  A crash in a compaction leaves the old file
or the new one.

**After an error** the process goes on with the same file.  A torn frame stays where it is, and what
is appended behind it is not found again; neither is what goes to a file that a compaction has
replaced.
-/

namespace H2Fleet.Edge

open List

section Bytes

variable {crc32 : Bytes → UInt32}

/-! ## Opening -/

/-- What `Spool::open` makes of a file: the queue, `file_bytes`, the file truncated. -/
structure Reopened where
  queue : List SpoolRecord
  fileBytes : ℕ
  file : Bytes

def reopen (crc32 : Bytes → UInt32) (file : Bytes) : Reopened :=
  let found := scan crc32 file
  ⟨found.1, found.2, file.take found.2⟩

lemma scan_le (file : Bytes) : (scan crc32 file).2 ≤ file.length := by
  induction hn : file.length using Nat.strong_induction_on generalizing file with
  | _ n ih =>
    rw [scan_eq]
    cases hr : readFrame crc32 file with
    | none => exact Nat.zero_le _
    | some found =>
      have hsize := readFrame_size hr
      have := ih (file.drop found.2).length (by rw [length_drop]; omega) _ rfl
      rw [length_drop] at this
      dsimp only
      omega

lemma fileBytes_reopen (file : Bytes) :
    (reopen crc32 file).fileBytes = (reopen crc32 file).file.length := by
  have := @scan_le crc32 file
  simp only [reopen, length_take]
  omega

/-! ## What the scan can read -/

lemma length_of_decode {p : Bytes} {rec : SpoolRecord} (h : decode p = some rec) :
    (payload rec).length ≤ p.length := by
  simp only [decode] at h
  split_ifs at h with hshort hkey hlen hhas
  · cases h
    rw [length_payload, keyBytes, Option.getD_some, length_take, length_drop,
      length_drop]
    omega
  · cases h
    rw [length_payload, keyBytes, Option.getD_none, length_nil, length_drop]
    omega

lemma readable_of_readFrame {file : Bytes} {rec : SpoolRecord} {size : ℕ}
    (h : readFrame crc32 file = some (rec, size)) : Readable rec := by
  simp only [readFrame] at h
  split_ifs at h with _ hmax _ _
  obtain ⟨rec', hdecode, heq⟩ := Option.map_eq_some_iff.mp h
  obtain rfl := (Prod.mk.inj heq).1
  have := length_of_decode hdecode
  rw [length_take] at this
  rw [Readable]
  omega

/-- **The scan finds given records exactly if it can read each, and nothing behind them.** -/
theorem scan_eq_iff (rest : Bytes) : ∀ recs : List SpoolRecord,
    (scan crc32 (recs.flatMap (encode crc32) ++ rest)).1 = recs ↔
      (∀ rec ∈ recs, Readable rec) ∧ readFrame crc32 rest = none
  | [] => by
    rw [flatMap_nil, nil_append, scan_eq]
    cases hr : readFrame crc32 rest <;> simp
  | rec :: recs => by
    by_cases hread : Readable rec
    · rw [flatMap_cons, append_assoc, scan_eq, readFrame_encode hread]
      simp [hread, scan_eq_iff rest recs]
    · refine iff_of_false (fun h => ?_) (fun h => hread (h.1 rec mem_cons_self))
      -- a record at the front of what the scan finds is readable
      rw [scan_eq] at h
      cases hr : readFrame crc32 ((rec :: recs).flatMap (encode crc32) ++ rest) with
      | none =>
        simp only [hr] at h
        cases h
      | some found =>
        simp only [hr, cons.injEq] at h
        exact hread (h.1 ▸ readable_of_readFrame hr)

/-! ## A write that is cut off -/

/-- The records whose frames are whole in the first `k` bytes. -/
def complete (crc32 : Bytes → UInt32) : List Spooled → ℕ → List Spooled
  | [], _ => []
  | e :: es, k =>
    if (e.frame crc32).length ≤ k then e :: complete crc32 es (k - (e.frame crc32).length) else []

/-- What the first `k` bytes have behind the whole frames. -/
def torn (crc32 : Bytes → UInt32) : List Spooled → ℕ → Bytes
  | [], _ => []
  | e :: es, k =>
    if (e.frame crc32).length ≤ k then torn crc32 es (k - (e.frame crc32).length)
    else (e.frame crc32).take k

lemma take_frames : ∀ (es : List Spooled) (k : ℕ), (es.flatMap (Spooled.frame crc32)).take k =
    (complete crc32 es k).flatMap (Spooled.frame crc32) ++ torn crc32 es k
  | [], k => by simp [complete, torn]
  | e :: es, k => by
    rw [complete, torn, flatMap_cons]
    split_ifs with h
    · rw [take_append, take_of_length_le h, take_frames es, flatMap_cons,
        append_assoc]
    · rw [take_append_of_le_length (not_le.mp h).le, flatMap_nil, nil_append]

lemma readFrame_torn : ∀ {es : List Spooled} {k : ℕ},
    (∀ e ∈ es, (payload e.record).length < 2 ^ 32) → readFrame crc32 (torn crc32 es k) = none
  | [], k, _ => by simp [torn, readFrame]
  | e :: es, k, h => by
    rw [forall_mem_cons] at h
    rw [torn]
    split_ifs with hk
    · exact readFrame_torn h.2
    · exact readFrame_take h.1 (not_le.mp hk)

end Bytes

/-! ## Calls -/

/-- The spool, `file_bytes`, what was acknowledged, and what was appended and is not. -/
structure Journal where
  spool : Spool
  fileBytes : ℕ
  acked : List Spooled
  unacked : List Spooled

open Journal

/-- A spool that was opened in an empty directory. -/
def Journal.empty : Journal := ⟨⟨[], 0, ⟨[], []⟩, true⟩, 0, [], []⟩

inductive Call where
  | append (es : List Spooled) (io : AppendIO)
  | ack (n : ℕ) (io : CompactIO)

def Call.Ok : Call → Prop
  | .append _ io => io = .ok
  | .ack _ io => io = .ok

/-- `ack` goes on to compact the file. -/
def Spool.CompactsAt (sp : Spool) (n : ℕ) : Prop :=
  let k := min n sp.queue.length
  0 < sp.ackedPendingCompact + k ∧
    (sp.queue.drop k = [] ∨ max (sp.queue.drop k).length 512 ≤ sp.ackedPendingCompact + k)
  deriving Decidable

def Spool.acknowledged (sp : Spool) (n : ℕ) : Spool :=
  { sp with
    queue := sp.queue.drop (min n sp.queue.length)
    ackedPendingCompact := sp.ackedPendingCompact + min n sp.queue.length }

lemma Spool.ack_eq (sp : Spool) (n : ℕ) (io : CompactIO) :
    sp.ack n io =
      if sp.CompactsAt n then (sp.acknowledged n).compact io else (sp.acknowledged n, true) := rfl

section Calls

variable (crc32 : Bytes → UInt32)

/-- How far `append` counts `file_bytes`: frame by frame. -/
def countedBytes (es : List Spooled) : AppendIO → ℕ
  | .ok => (es.flatMap (Spooled.frame crc32)).length
  | .failed written => ((complete crc32 es written).flatMap (Spooled.frame crc32)).length

def Journal.step (s : Journal) : Call → Option Journal
  | .append es io =>
    some
      { s with
        spool := (s.spool.append crc32 es io).1
        fileBytes := s.fileBytes + countedBytes crc32 es io
        unacked := if (s.spool.append crc32 es io).2 then s.unacked ++ es else s.unacked }
  | .ack n io =>
    some
      { spool := (s.spool.ack n io).1
        fileBytes :=
          if io = .ok ∧ s.spool.CompactsAt n then ((s.spool.ack n io).1.disk.bytes crc32).length
          else s.fileBytes
        acked := s.acked ++ s.unacked.take n
        unacked := s.unacked.drop n }

/-- Acknowledged, but not yet compacted away. -/
def Journal.uncompacted (s : Journal) : List Spooled :=
  s.acked.drop (s.acked.length - s.spool.ackedPendingCompact)

end Calls

/-! ## Crashes -/

section Crash

variable {crc32 : Bytes → UInt32}

namespace Journal

/-- A spool without I/O errors: the file holds what is not compacted away. -/
structure Sound (crc32 : Bytes → UInt32) (s : Journal) : Prop where
  tail : s.spool.disk.tail = []
  attached : s.spool.attached = true
  fileBytes : s.fileBytes = (s.spool.disk.bytes crc32).length
  queue : s.spool.queue = s.unacked
  pending_le : s.spool.ackedPendingCompact ≤ s.acked.length
  frames : s.spool.disk.frames = s.uncompacted ++ s.unacked

lemma sound_empty : empty.Sound crc32 :=
  ⟨rfl, rfl, rfl, rfl, le_rfl, rfl⟩

lemma Sound.append {s : Journal} (h : s.Sound crc32) (es : List Spooled) :
    ∀ s', s.step crc32 (.append es .ok) = some s' → s'.Sound crc32 := by
  intro s' hs
  cases hs
  have hdisk := @Spool.writeOut_all crc32 _ es h.attached h.tail
  refine ⟨?_, h.attached, ?_, ?_, h.pending_le, ?_⟩
  · simp only [Spool.append, hdisk]
  · simp only [Spool.append, hdisk, h.fileBytes, countedBytes, Disk.bytes, h.tail, append_nil,
      flatMap_append, length_append]
  · simp [Spool.append, h.queue]
  · simp only [Spool.append, hdisk, h.frames, uncompacted, append_assoc, if_true]

lemma Sound.ack {s : Journal} (h : s.Sound crc32) (n : ℕ) :
    ∀ s', s.step crc32 (.ack n .ok) = some s' → s'.Sound crc32 := by
  intro s' hs
  cases hs
  have htake : s.unacked.take n = s.unacked.take (min n s.unacked.length) := by
    rw [take_eq_take_iff]
    omega
  have hdrop : s.unacked.drop (min n s.unacked.length) = s.unacked.drop n := by
    rw [← h.queue, ← Spool.ack_queue s.spool n .ok, Spool.ack_eq]
    split_ifs <;> rfl
  by_cases hcompact : s.spool.CompactsAt n
  · simp only [Spool.ack_eq, if_pos hcompact, true_and]
    refine ⟨rfl, rfl, rfl, ?_, Nat.zero_le _, ?_⟩
    · simp only [Spool.compact, Spool.acknowledged, h.queue, hdrop]
    · simp [Spool.compact, Spool.acknowledged, h.queue, hdrop, uncompacted]
  · simp only [Spool.ack_eq, hcompact, and_false, if_false]
    refine ⟨h.tail, h.attached, h.fileBytes, ?_, ?_, ?_⟩
    · simp only [Spool.acknowledged, h.queue, hdrop]
    · have := h.pending_le
      simp only [Spool.acknowledged, h.queue, length_append, length_take]
      omega
    · have hle := h.pending_le
      have hcut : s.acked.length + min n s.unacked.length -
          (s.spool.ackedPendingCompact + min n s.unacked.length) =
            s.acked.length - s.spool.ackedPendingCompact := by
        omega
      simp only [Spool.acknowledged, h.frames, h.queue, uncompacted, length_append,
        length_take, hcut]
      rw [drop_append_of_le_length (by omega), append_assoc, take_append_drop]

lemma Sound.run {calls : List Call} (hcalls : ∀ c ∈ calls, c.Ok) {s t : Journal}
    (h : s.Sound crc32) (hrun : run (step crc32) s calls = some t) : t.Sound crc32 := by
  refine run_invariant (fun s c s' hs (hok : c.Ok) hstep => ?_) h (Meets.of_mem hcalls) hrun
  cases c with
  | append es io =>
    obtain rfl : io = .ok := hok
    exact hs.append es s' hstep
  | ack n io =>
    obtain rfl : io = .ok := hok
    exact hs.ack n s' hstep

/-- The file when a crash cuts the frames of an append after `k` bytes. -/
def cutFile (crc32 : Bytes → UInt32) (s : Journal) (es : List Spooled) (k : ℕ) : Bytes :=
  s.spool.disk.bytes crc32 ++ (es.flatMap (Spooled.frame crc32)).take k

/-- What ought to be in the file then. -/
def inFile (crc32 : Bytes → UInt32) (s : Journal) (es : List Spooled) (k : ℕ) : List Spooled :=
  s.uncompacted ++ s.unacked ++ complete crc32 es k

/-- Opening the file yields the records that are whole in it, in order. -/
def Recovered (crc32 : Bytes → UInt32) (s : Journal) (es : List Spooled) (k : ℕ) : Prop :=
  (reopen crc32 (s.cutFile crc32 es k)).queue = (s.inFile crc32 es k).map Spooled.record ∧
    (reopen crc32 (s.cutFile crc32 es k)).fileBytes =
    (reopen crc32 (s.cutFile crc32 es k)).file.length

end Journal

lemma flatMap_record (es : List Spooled) :
    (es.map Spooled.record).flatMap (encode crc32) = es.flatMap (Spooled.frame crc32) := by
  rw [flatMap_map]
  rfl

lemma Journal.Sound.recovered_iff {s : Journal} (h : s.Sound crc32) (es : List Spooled) (k : ℕ) :
    s.Recovered crc32 es k ↔
      (∀ e ∈ s.inFile crc32 es k, Readable e.record) ∧
      readFrame crc32 (torn crc32 es k) = none := by
  have hfile : s.cutFile crc32 es k =
      ((s.inFile crc32 es k).map Spooled.record).flatMap (encode crc32) ++ torn crc32 es k := by
    rw [flatMap_record, cutFile, Disk.bytes, h.frames, h.tail, append_nil, take_frames]
    simp [inFile]
  rw [Recovered, and_iff_left (fileBytes_reopen _), hfile, reopen]
  simp [scan_eq_iff]

/-- **What is recovered after a crash** is what ought to be, exactly if every record that is whole
in the file is readable, and the torn frame is not taken for a record. -/
theorem crash_recovers_iff {calls : List Call} (hcalls : ∀ c ∈ calls, c.Ok) {s : Journal}
    (hrun : run (step crc32) empty calls = some s) (es : List Spooled) (k : ℕ) :
    s.Recovered crc32 es k ↔
      (∀ e ∈ s.inFile crc32 es k, Readable e.record) ∧ readFrame crc32 (torn crc32 es k) = none :=
  (sound_empty.run hcalls hrun).recovered_iff es k

end Crash

def ofBytes (value : Bytes) : Spooled := ⟨⟨none, value⟩, none⟩

/-- Two records, one acknowledged, and a third whose frame is cut off. -/
theorem crash_recovers_third : ∃ s,
    run (step ieeeCrc32) empty
      [.append [ofBytes [1], ofBytes [2]] .ok, .ack 1 .ok] = some s ∧
    s.Recovered ieeeCrc32 [ofBytes [3]] 5 :=
  ⟨_, rfl, (@crash_recovers_iff ieeeCrc32 [.append [ofBytes [1], ofBytes [2]] .ok, .ack 1 .ok]
    (by simp [Call.Ok]) _ rfl _ _).mpr ⟨by decide +kernel, readFrame_torn (by decide +kernel)⟩⟩

/-- **A record of 16 MiB is not recovered, nor what comes after it.** -/
theorem large_record_is_lost : ∃ s,
    run (step ieeeCrc32) empty
      [.append [ofBytes (replicate maxPayload 0), ofBytes [2]] .ok] = some s ∧
    ¬ s.Recovered ieeeCrc32 [] 0 := by
  refine ⟨_, rfl, fun h => ?_⟩
  have hread := ((sound_empty.append _ _ rfl).recovered_iff [] 0).mp h |>.1
  have hlarge := hread (ofBytes (replicate maxPayload 0)) (by simp [inFile, Spool.append])
  simp [Readable, length_payload, keyBytes, ofBytes] at hlarge

/-! ## Errors -/

section Errors

variable {crc32 : Bytes → UInt32}

/-- The queue is what was appended and not acknowledged, and the file yields it. -/
def Journal.Keeps (crc32 : Bytes → UInt32) (s : Journal) : Prop :=
  s.spool.queue = s.unacked ∧
    (s.unacked.map Spooled.record).Sublist (reopen crc32 (s.spool.disk.bytes crc32)).queue

/-- **The condition on a call.**  An `append` that returns `Ok` writes readable records to the file
in place, behind readable frames. -/
def Aligned (s : Journal) : Call → Prop
  | .append es .ok => es ≠ [] → s.spool.attached = true ∧ s.spool.disk.tail = [] ∧
      ∀ e ∈ s.spool.disk.frames ++ es, Readable e.record
  | _ => True

instance decidableAligned (s : Journal) (c) : Decidable (Aligned s c) := by
  unfold Aligned; split <;> infer_instance

/-- The frames that the scan reaches. -/
def Disk.readablePart (d : Disk) : List Spooled := d.frames.takeWhile fun e => Readable e.record

lemma Disk.readablePart_initial (d : Disk) :
    (d.readablePart.map Spooled.record) <+: (reopen crc32 (d.bytes crc32)).queue := by
  have hsplit : d.bytes crc32 = (d.readablePart.map Spooled.record).flatMap (encode crc32) ++
      ((d.frames.dropWhile fun e => Readable e.record).flatMap
      (Spooled.frame crc32) ++ d.tail) := by
    rw [flatMap_record, ← append_assoc, ← flatMap_append, Disk.readablePart,
      takeWhile_append_dropWhile, Disk.bytes]
  have hread : ∀ rec ∈ d.readablePart.map Spooled.record, Readable rec := by
    intro rec hrec
    obtain ⟨e, he, rfl⟩ := mem_map.mp hrec
    simpa using mem_takeWhile_imp he
  rw [hsplit, reopen, scan_frames hread]
  exact prefix_append _ _

lemma Disk.readablePart_of_forall {d : Disk} (h : ∀ e ∈ d.frames, Readable e.record) :
    d.readablePart = d.frames :=
  takeWhile_eq_self_iff.mpr fun e he => by simpa using h e he

lemma Disk.readablePart_write (d : Disk) (es : List Spooled) (k : ℕ) :
    d.readablePart <+: (d.write crc32 es k).readablePart := by
  induction es generalizing d k with
  | nil => exact prefix_rfl
  | cons e es ih =>
    rw [Disk.write]
    split_ifs
    · refine IsPrefix.trans ?_ (ih _ _)
      simp only [Disk.readablePart, takeWhile_append]
      split_ifs with hall
      · exact ( takeWhile_prefix _).trans (prefix_append _ _)
      · exact prefix_rfl
    · exact prefix_rfl

/-- What was appended with `Ok` is where the scan finds it. -/
structure Journal.Reached (s : Journal) : Prop where
  queue : s.spool.queue = s.unacked
  reached : s.unacked.Sublist s.spool.disk.readablePart

variable {s : Journal}

lemma Journal.Reached.keeps (h : s.Reached) : s.Keeps crc32 :=
  ⟨h.queue, (h.reached.map _).trans s.spool.disk.readablePart_initial.sublist⟩

lemma Journal.Reached.readable (h : s.Reached) : ∀ e ∈ s.unacked, Readable e.record :=
  fun e he => by simpa using mem_takeWhile_imp (h.reached.subset he)

lemma Journal.Reached.append (h : s.Reached) {es : List Spooled} (hok : Aligned s (.append es .ok))
    : ∀ s', s.step crc32 (.append es .ok) = some s' → s'.Reached := by
  intro s' hs
  cases hs
  refine ⟨by simp [Spool.append, h.queue], ?_⟩
  by_cases hes : es = []
  · subst hes
    simpa [Spool.append, Spool.writeOut, Disk.write] using h.reached
  · obtain ⟨hatt, htail, hread⟩ := hok hes
    have hframes := Disk.readablePart_of_forall fun e he => hread e (mem_append_left _ he)
    simp only [Spool.append, Spool.writeOut_all hatt htail, if_true]
    rw [Disk.readablePart_of_forall hread]
    exact (hframes ▸ h.reached).append_right es

lemma Journal.Reached.step {s s' : Journal} {c : Call} (h : s.Reached) (hok : Aligned s c)
    (hs : s.step crc32 c = some s') : s'.Reached := by
  cases c with
  | append es io =>
    cases io with
    | ok => exact h.append hok s' hs
    | failed written =>
      cases hs
      refine ⟨h.queue, ?_⟩
      simp only [Spool.append, Bool.false_eq_true, if_false, Spool.writeOut]
      split_ifs
      · exact h.reached.trans (Disk.readablePart_write _ _ _).sublist
      · exact h.reached
  | ack n io =>
    cases hs
    refine ⟨by rw [Spool.ack_queue, h.queue], ?_⟩
    rcases Spool.ack_disk s.spool n io with hdisk | hdisk
    · rw [hdisk]
      exact (drop_sublist _ _).trans h.reached
    · -- a compaction writes what is not acknowledged, and all of it is readable
      rw [hdisk, h.queue, Disk.readablePart_of_forall fun e he =>
        h.readable e (drop_subset _ _ he)]

/-- **What is recovered after errors**, in every run whose calls meet the condition. -/
theorem errors_keep_records {calls : List Call} (h : Meets (step crc32) Aligned empty calls) :
    Throughout (step crc32) (Keeps crc32) empty calls :=
  h.throughout (fun _ (hs : Reached _) => hs.keeps)
    (fun _ _ _ hs hok hstep => hs.step hok hstep) ⟨rfl, nil_sublist _⟩

end Errors

/-- An append fails after three bytes; the compaction clears the file. -/
theorem errors_keep_records_compacted :
    Throughout (step ieeeCrc32) (Keeps ieeeCrc32) empty
      [.append [ofBytes [1]] .ok, .append [ofBytes [2]] (.failed 3), .ack 1 .ok,
        .append [ofBytes [3]] .ok] :=
  errors_keep_records (by decide +kernel)

/-- **The record behind a torn frame is lost**, though `append` returned `Ok`. -/
theorem record_behind_torn_frame_is_lost :
    ¬ Throughout (step ieeeCrc32) (Keeps ieeeCrc32) empty
      [.append [ofBytes [1]] (.failed 3), .append [ofBytes [2]] .ok] := by
  intro h
  exact absurd (h.last rfl).2 (by decide +kernel)

end H2Fleet.Edge
