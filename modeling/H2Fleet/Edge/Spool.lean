import H2Fleet.Edge.Frame

/-!
# The store-and-forward spool

`Spool` of the edge agent: the queue in memory, the file behind it, and what `append`, `ack`,
`compact` and `open` do to both, with every I/O failure they can meet.

**Identity.**  The file holds keys and values only.  To say which record of the source is where, an
entry carries its `origin`, and the file is kept as the frames written whole plus the bytes behind
them (`Disk`); `Disk.bytes` is the file itself, and all that `openDir` reads.

**The writer.**  `compact` renames a new file into place and opens it for appending.  When only the
opening fails, the writer still points to the file that was replaced: `attached` is then false.
-/

namespace H2Fleet.Edge

open List

/-- A record in the spool and the record of the source it stands for. -/
structure Spooled where
  record : SpoolRecord
  origin : Option ℕ

open Spooled

/-- The file `spool.data`: whole frames, then bytes that are none. -/
structure Disk where
  frames : List Spooled
  tail : Bytes

section Files

variable (crc32 : Bytes → UInt32)

def Spooled.frame (e : Spooled) : Bytes := encode crc32 e.record

def Disk.bytes (d : Disk) : Bytes := d.frames.flatMap (frame crc32) ++ d.tail

/-- The file after the first `k` bytes of some frames are appended. -/
def Disk.write : Disk → List Spooled → ℕ → Disk
  | d, [], _ => d
  | d, e :: es, k =>
    if d.tail = [] ∧ (e.frame crc32).length ≤ k then
      Disk.write ⟨d.frames ++ [e], []⟩ es (k - (e.frame crc32).length)
    else ⟨d.frames, d.tail ++ ((e :: es).flatMap (frame crc32)).take k⟩

end Files

/-! ## The operations -/

/-- `Spool`.  `file_bytes` is only reported, never read. -/
structure Spool where
  queue : List Spooled
  ackedPendingCompact : ℕ
  disk : Disk
  attached : Bool

/-- How `append` ends: well, or with an error after some bytes. -/
inductive AppendIO where
  | ok
  | failed (written : ℕ)
  deriving DecidableEq

/-- `compact` ends well, or in an error before the rename, opening the file, or reading its size. -/
inductive CompactIO where
  | ok
  | early
  | reopen
  | metadata
  deriving DecidableEq

section Operations

variable (crc32 : Bytes → UInt32)

/-- The file after `k` bytes of the frames of `es` went to the writer. -/
def Spool.writeOut (sp : Spool) (es : List Spooled) (k : ℕ) : Disk :=
  if sp.attached then sp.disk.write crc32 es k else sp.disk

/-- `Spool::append`; the flag says whether it returned `Ok`. -/
def Spool.append (sp : Spool) (es : List Spooled) : AppendIO → Spool × Bool
  | .ok =>
    ({ sp with
        disk := sp.writeOut crc32 es (es.flatMap (frame crc32)).length
        queue := sp.queue ++ es }, true)
  | .failed written => ({ sp with disk := sp.writeOut crc32 es written }, false)

def Spool.peek (sp : Spool) (max : ℕ) : List Spooled := sp.queue.take max

def Spool.compact (sp : Spool) : CompactIO → Spool × Bool
  | .ok => ({ sp with disk := ⟨sp.queue, []⟩, attached := true, ackedPendingCompact := 0 }, true)
  | .early => (sp, false)
  | .reopen => ({ sp with disk := ⟨sp.queue, []⟩, attached := false }, false)
  | .metadata => ({ sp with disk := ⟨sp.queue, []⟩, attached := true }, false)

def Spool.ack (sp : Spool) (n : ℕ) (io : CompactIO) : Spool × Bool :=
  let k := min n sp.queue.length
  let sp' := { sp with
    queue := sp.queue.drop k, ackedPendingCompact := sp.ackedPendingCompact + k }
  if 0 < sp'.ackedPendingCompact ∧
      (sp'.queue = [] ∨ max sp'.queue.length 512 ≤ sp'.ackedPendingCompact) then
    sp'.compact io
  else (sp', true)

/-- `Spool::open` on the file.  The `i`-th record read is the `i`-th frame written. -/
def openDir (d : Disk) : Spool :=
  let found := scan crc32 (d.bytes crc32)
  let whole := (d.frames.flatMap (frame crc32)).length
  { queue := found.1.mapIdx fun i rec => ⟨rec, (d.frames[i]?).bind origin⟩
    ackedPendingCompact := 0
    disk := ⟨d.frames.take found.1.length, d.tail.take (found.2 - whole)⟩
    attached := true }

end Operations

/-! ## What acknowledging changes -/

@[simp] lemma Spool.compact_queue (sp : Spool) (io : CompactIO) :
    (sp.compact io).1.queue = sp.queue := by
  cases io <;> rfl

lemma Spool.ack_queue (sp : Spool) (n : ℕ) (io : CompactIO) :
    (sp.ack n io).1.queue = sp.queue.drop n := by
  have hdrop : sp.queue.drop (min n sp.queue.length) = sp.queue.drop n := by
    rcases le_total n sp.queue.length with h | h
    · rw [min_eq_left h]
    · rw [min_eq_right h, drop_length, drop_of_length_le h]
  simp only [Spool.ack]
  split_ifs
  · rw [Spool.compact_queue, hdrop]
  · exact hdrop

lemma Spool.ack_disk (sp : Spool) (n : ℕ) (io : CompactIO) :
    (sp.ack n io).1.disk = sp.disk ∨ (sp.ack n io).1.disk = ⟨sp.queue.drop n, []⟩ := by
  have hqueue := sp.ack_queue n io
  simp only [Spool.ack] at hqueue ⊢
  split_ifs at hqueue ⊢
  · rw [Spool.compact_queue] at hqueue
    cases io with
    | early => exact .inl rfl
    | ok | reopen | metadata => exact .inr (by rw [Spool.compact, hqueue])
  · exact .inl rfl

/-! ## Files that are read back -/

/-- Readable frames, with at most a torn frame behind them. -/
structure Disk.Clean (crc32 : Bytes → UInt32) (d : Disk) : Prop where
  readable : ∀ e ∈ d.frames, Readable e.record
  torn : d.tail = [] ∨ ∃ rec k, Readable rec ∧ k < (encode crc32 rec).length ∧
    d.tail = (encode crc32 rec).take k

variable {crc32 : Bytes → UInt32}

lemma Disk.Clean.scan_eq {d : Disk} (h : d.Clean crc32) :
    scan crc32 (d.bytes crc32) = (d.frames.map record,
    (d.frames.flatMap (frame crc32)).length) := by
  have hframes : d.frames.flatMap (frame crc32) =
      (d.frames.map record).flatMap (encode crc32) := by
    rw [flatMap_map]
    rfl
  have htail : scan crc32 d.tail = ([], 0) := by
    rcases h.torn with htail | ⟨rec, k, hrec, hk, htail⟩
    · rw [htail]; rfl
    · rw [htail, Edge.scan_eq, readFrame_take hrec.length_lt hk]
  rw [Disk.bytes, hframes, scan_frames (by simpa using h.readable), htail]
  simp

/-- **A clean file is opened as it was written.** -/
lemma openDir_clean {d : Disk} (h : d.Clean crc32) :
    openDir crc32 d = ⟨d.frames, 0, ⟨d.frames, []⟩, true⟩ := by
  have hqueue : ((d.frames.map record).mapIdx fun i rec =>
      (⟨rec, (d.frames[i]?).bind origin⟩ : Spooled)) = d.frames := by
    refine ext_getElem (by simp) fun i h₁ h₂ => ?_
    simp [h₂]
  simp [openDir, h.scan_eq, hqueue]

/-- **A write cut off leaves a clean file**: its frames and the first new ones. -/
lemma Disk.write_clean : ∀ {d : Disk} {es : List Spooled} {k : ℕ}, d.tail = [] →
    (∀ e ∈ d.frames, Readable e.record) → (∀ e ∈ es, Readable e.record) →
    (d.write crc32 es k).Clean crc32 ∧ ∃ l, l <+: es ∧ (d.write crc32 es k).frames = d.frames ++ l
  | d, [], k, htail, hd, _ =>
    ⟨⟨hd, .inl htail⟩, [], prefix_rfl, (append_nil _).symm⟩
  | d, e :: es, k, htail, hd, hes => by
    rw [forall_mem_cons] at hes
    rw [Disk.write]
    split_ifs with h
    · have hd' : ∀ e' ∈ d.frames ++ [e], Readable e'.record := by
        intro e' he'
        rcases mem_append.mp he' with he' | he'
        · exact hd e' he'
        · rw [mem_singleton.mp he']; exact hes.1
      obtain ⟨hclean, l, hpre, hl⟩ := Disk.write_clean (k := k - (e.frame crc32).length)
        (show (⟨d.frames ++ [e], []⟩ : Disk).tail = [] from rfl) hd' hes.2
      exact ⟨hclean, e :: l, cons_prefix_cons.mpr ⟨rfl, hpre⟩, by rw [hl, append_assoc]; rfl⟩
    · have hk : k < (encode crc32 e.record).length := by
        by_contra hk
        exact h ⟨htail, not_lt.mp hk⟩
      refine ⟨⟨hd, .inr ⟨e.record, k, hes.1, hk, ?_⟩⟩, [], nil_prefix, (append_nil _).symm⟩
      rw [htail, nil_append, flatMap_cons]
      exact take_append_of_le_length hk.le

lemma Disk.write_all : ∀ {d : Disk} {es : List Spooled}, d.tail = [] →
    d.write crc32 es (es.flatMap (frame crc32)).length = ⟨d.frames ++ es, []⟩
  | d, [], htail => by rw [Disk.write, append_nil, ← htail]
  | d, e :: es, htail => by
    rw [Disk.write, if_pos ⟨htail, by simp⟩, flatMap_cons, length_append,
      Nat.add_sub_cancel_left, Disk.write_all rfl, append_assoc, singleton_append]

lemma Spool.writeOut_all {sp : Spool} {es : List Spooled} (hatt : sp.attached = true)
    (htail : sp.disk.tail = []) :
    sp.writeOut crc32 es (es.flatMap (frame crc32)).length = ⟨sp.disk.frames ++ es, []⟩ := by
  rw [Spool.writeOut, if_pos hatt, Disk.write_all htail]

end H2Fleet.Edge
