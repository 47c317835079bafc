import H2Fleet.Edge.Drain

/-!
# The edge agent

The process as a whole: the source task that reads the Fluvio topic into a bounded channel, and the
forwarder task that batches, produces, spools and drains.  The tasks share the channel and the
directory with `spool.data` and `offset.state`; they interleave at every event.

* The topic is the parameter `topic`: the record at an offset, if there is one.

A shutdown is a crash at a convenient moment: what it leaves on disk is what a crash there leaves.
The last flush, when the source is gone, is a flush like the timer's.
-/

namespace H2Fleet.Edge

structure EdgeRecord where
  key : Option Bytes
  value : Bytes
  offset : ℕ
  deriving DecidableEq

def EdgeRecord.spooled (r : EdgeRecord) : Spooled := ⟨⟨r.key, r.value⟩, some r.offset⟩

/-! ## The offset file -/

/-- A handle on `offset.tmp`: renamed to `offset.state` by now, or replaced there. -/
inductive Handle where
  | tmp
  | state
  | gone

/-- Before `fs::write`, with the file emptied, or before sync and rename. -/
inductive Writing where
  | openTmp (next : ℕ)
  | fill (next : ℕ) (handle : Handle)
  | rename

/-- `garbled`: what another task wrote is longer and stays behind the number. -/
inductive StoreIO where
  | ok
  | garbled
  | fail

/-- The two files, if they exist, and the numbers they hold. -/
structure OffsetFiles where
  tmp : Option (Option ℕ)
  state : Option (Option ℕ)

/-- `load_offset`, or the beginning of the topic. -/
def OffsetFiles.load (fs : OffsetFiles) : ℕ := (fs.state.getD none).getD 0

def OffsetFiles.put (fs : OffsetFiles) (content : Option ℕ) : Handle → OffsetFiles
  | .tmp => { fs with tmp := some content }
  | .state => { fs with state := some content }
  | .gone => fs

/-- What a rename of `offset.tmp` does to another task's handle. -/
def Writing.renamed : Writing → Writing
  | .fill next .tmp => .fill next .state
  | .fill next .state => .fill next .gone
  | w => w

/-- A step of `store_offset`: the files, the call (`none` when returned), the other task's. -/
def storeOffset (fs : OffsetFiles) (other : Option Writing) :
    Writing → StoreIO → OffsetFiles × Option Writing × Option Writing
  | _, .fail => (fs, none, other)
  | .openTmp next, _ => (fs.put none .tmp, some (.fill next .tmp), other)
  | .fill next h, .ok => (fs.put (some next) h, some .rename, other)
  | .fill _ h, .garbled => (fs.put none h, some .rename, other)
  | .rename, _ =>
    match fs.tmp with
    | none => (fs, none, other)
    | some content => (⟨none, some content⟩, none, other.map Writing.renamed)

/-! ## The state -/

inductive Phase where
  | idle
  | flush
  | spool (failed : List EdgeRecord) (maxOffset : ℕ)
  | ack (n : ℕ)
  deriving DecidableEq

/-- `position` is the source's place, `sending` the record it waits to send.  The spool's file
outlives the process. -/
structure Agent where
  up : Bool
  position : Option ℕ
  sending : Option EdgeRecord
  channel : List EdgeRecord
  batch : List EdgeRecord
  phase : Phase
  fwd : Forwarder
  files : OffsetFiles
  sourceStore : Option Writing
  fwdStore : Option Writing

/-- An empty directory, and nothing running. -/
def Agent.init : Agent where
  up := false
  position := none
  sending := none
  channel := []
  batch := []
  phase := .idle
  fwd := ⟨⟨[], 0, ⟨[], []⟩, false⟩, false, 0, []⟩
  files := ⟨none, none⟩
  sourceStore := none
  fwdStore := none

inductive Task where
  | source
  | forwarder

/-- Not at work, with some bytes of an append written, or after a compaction's rename. -/
inductive CrashPoint where
  | plain
  | appending (written : ℕ)
  | compacting

inductive Event where
  | connect
  | fetch (offset : ℕ)
  | send
  | disconnect
  | recv
  | timer
  | produce (confirm : ℕ → Bool) (later : ℤ)
  | append (io : AppendIO)
  | drain (now later : ℤ) (confirm : ℕ → Bool)
  | ack (io : CompactIO)
  | store (task : Task) (io : StoreIO)
  | crash (point : CrashPoint)
  | restart

section Steps

variable (topic : ℕ → Option SpoolRecord) (batchMax : ℕ) (crc32 : Bytes → UInt32)
  (s : Agent)

/-! ## The source task -/

namespace Agent

/-- `consume` starts its stream at the stored offset. -/
def connect : Option Agent :=
  if s.position = none ∧ s.sourceStore = none then some { s with position := some s.files.load }
  else none

/-- The stream yields its next record. -/
def fetch (offset : ℕ) : Option Agent :=
  match s.position, topic offset with
  | some p, some rec =>
    if s.sending = none ∧ s.sourceStore = none ∧ p ≤ offset ∧
        (∀ k < offset, p ≤ k → topic k = none) then
      some { s with
        position := some (offset + 1)
        sending := some ⟨rec.key, rec.value, offset⟩ }
    else none
  | _, _ => none

/-- `tx.send` goes through when there is room; every 64th offset is then stored. -/
def send : Option Agent :=
  match s.sending with
  | some r =>
    if s.channel.length < batchMax * 4 then
      some { s with
        sending := none
        channel := s.channel ++ [r]
        sourceStore := if r.offset % 64 = 0 then some (.openTmp (r.offset + 1)) else none }
    else none
  | none => none

/-- The stream ends or fails; the loop around `consume` connects again. -/
def disconnect : Option Agent :=
  if s.sending = none ∧ s.sourceStore = none then some { s with position := none } else none

/-! ## The forwarder task -/

/-- The forwarder waits in its `select!`. -/
def Waiting : Prop := s.phase = .idle ∧ s.fwdStore = none
  deriving Decidable

def recv : Option Agent :=
  match s.channel with
  | r :: channel =>
    if s.Waiting then
      some { s with
        channel := channel
        batch := s.batch ++ [r]
        phase := if batchMax ≤ (s.batch ++ [r]).length then .flush else .idle }
    else none
  | [] => none

def timer : Option Agent :=
  if s.Waiting ∧ s.batch ≠ [] then some { s with phase := .flush } else none

/-- `flush` up to the spooling: nothing is sent while older records are spooled. -/
def produce (confirm : ℕ → Bool) (later : ℤ) : Option Agent :=
  match s.phase, (s.batch.map EdgeRecord.offset).max? with
  | .flush, some maxOffset =>
    if s.fwd.spool.queue = [] then
      let results := answers confirm s.batch.length
      let failed := (produceBatch s.batch results).2
      let confirmed := s.fwd.confirmed ++ (delivered s.batch results).map EdgeRecord.offset
      let fwd := if failed = [] then
          { s.fwd with kafkaOk := true, lastKafkaOk := later, confirmed := confirmed }
        else { s.fwd with kafkaOk := false, confirmed := confirmed }
      if failed = [] then
        some { s with
          batch := [], fwd := fwd, phase := .idle, fwdStore := some (.openTmp (maxOffset + 1)) }
      else some { s with batch := [], fwd := fwd, phase := .spool failed maxOffset }
    else some { s with batch := [], phase := .spool s.batch maxOffset }
  | _, _ => none

/-- The spooling in `flush`; the checkpoint follows in any case. -/
def append (io : AppendIO) : Option Agent :=
  match s.phase with
  | .spool failed maxOffset =>
    some { s with
      fwd := { s.fwd with spool := (s.fwd.spool.append crc32 (failed.map EdgeRecord.spooled) io).1 }
      phase := .idle
      fwdStore := some (.openTmp (maxOffset + 1)) }
  | _ => none

def drain (now later : ℤ) (confirm : ℕ → Bool) : Option Agent :=
  if s.Waiting then
    if s.fwd.drainDue batchMax now then
      some { s with
        fwd := (s.fwd.drainProduce batchMax confirm later).1
        phase := .ack (s.fwd.drainProduce batchMax confirm later).2 }
    else some s
  else none

def ack (io : CompactIO) : Option Agent :=
  match s.phase with
  | .ack n => some { s with fwd := s.fwd.drainAck n io, phase := .idle }
  | _ => none

/-! ## Both tasks -/

def store (task : Task) (io : StoreIO) : Option Agent :=
  match task with
  | .source => s.sourceStore.map fun w =>
    let r := storeOffset s.files s.fwdStore w io
    { s with files := r.1, sourceStore := r.2.1, fwdStore := r.2.2 }
  | .forwarder => s.fwdStore.map fun w =>
    let r := storeOffset s.files s.sourceStore w io
    { s with files := r.1, fwdStore := r.2.1, sourceStore := r.2.2 }

/-- The spool's file as a crash leaves it. -/
def diskAfter : CrashPoint → Disk
  | .plain => s.fwd.spool.disk
  | .appending written =>
    match s.phase with
    | .spool failed _ => s.fwd.spool.writeOut crc32 (failed.map EdgeRecord.spooled) written
    | _ => s.fwd.spool.disk
  | .compacting =>
    match s.phase with
    | .ack n => (s.fwd.drainAck n .reopen).spool.disk
    | _ => s.fwd.spool.disk

def crash (point : CrashPoint) : Agent :=
  { Agent.init with
    fwd := ⟨⟨[], 0, s.diskAfter crc32 point, false⟩, false, 0, s.fwd.confirmed⟩
    files := s.files }

def restart : Agent :=
  { Agent.init with
    up := true
    fwd := ⟨openDir crc32 s.fwd.spool.disk, false, 0, s.fwd.confirmed⟩
    files := s.files }

/-- One event.  Nothing but a restart happens while the process is down. -/
def step (ev : Event) : Option Agent :=
  match s.up, ev with
  | false, .restart => some (s.restart crc32)
  | true, .connect => s.connect
  | true, .fetch offset => s.fetch topic offset
  | true, .send => s.send batchMax
  | true, .disconnect => s.disconnect
  | true, .recv => s.recv batchMax
  | true, .timer => s.timer
  | true, .produce confirm later => s.produce confirm later
  | true, .append io => s.append crc32 io
  | true, .drain now later confirm => s.drain batchMax now later confirm
  | true, .ack io => s.ack io
  | true, .store task io => s.store task io
  | true, .crash point => some (s.crash crc32 point)
  | _, _ => none

end Agent

end Steps

end H2Fleet.Edge
