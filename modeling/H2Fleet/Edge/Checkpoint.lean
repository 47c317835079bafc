import H2Fleet.Core.Line
import H2Fleet.Edge.Agent

/-!
# What the edge checkpoint promises

`offset.state` holds the offset to resume from.  It is safe when every record below it is `Kept`:
confirmed by the broker, or in a frame of `spool.data` that `Spool::open` reads back.

Records travel in one line — from the source over the channel into the batch and on to the spool —
and each was fetched when everything before it was kept or ahead of it in the line.
-/

namespace H2Fleet.Edge

open List Agent

/-! ## The line of a flush -/

/-- The unconfirmed records of a batch stay in line. -/
lemma covered_failed {live : ℕ → Prop} {rest : List ℕ} : ∀ {batch : List EdgeRecord}
    {results : List Bool} {safe : ℕ → Prop}, results.length = batch.length →
    Covered live safe (batch.map EdgeRecord.offset ++ rest) →
    Covered live (fun x => safe x ∨ x ∈ (delivered batch results).map EdgeRecord.offset)
      ((produceBatch batch results).2.map EdgeRecord.offset ++ rest)
  | [], [], safe, _, h => by simpa [delivered, produceBatch] using h
  | r :: batch, true :: results, safe, hlen, h => by
    have ih := covered_failed (Nat.succ.inj hlen) h.2
    simp only [delivered, produceBatch, zip_cons_cons, filter_cons, Bool.not_true,
      Bool.false_eq_true, if_false, if_true, map_cons, mem_cons] at ih ⊢
    exact ih.mono fun x hx => by rwa [or_assoc] at hx
  | r :: batch, false :: results, safe, hlen, h => by
    have ih := covered_failed (Nat.succ.inj hlen) h.2
    simp only [delivered, produceBatch, zip_cons_cons, filter_cons, Bool.not_false,
      Bool.false_eq_true, if_false, if_true, map_cons, cons_append] at ih ⊢
    refine ⟨h.1.mono fun x hx => .inl hx, ih.mono fun x hx => ?_⟩
    rcases hx with (hx | hx) | hx
    · exact .inl (.inl hx)
    · exact .inr hx
    · exact .inl (.inr hx)

/-! ## The invariant -/

def Live (topic : ℕ → Option SpoolRecord) (o : ℕ) : Prop := topic o ≠ none

def Phase.inflight : Phase → List EdgeRecord
  | .spool failed _ => failed
  | _ => []

/-- The records on their way, in the order they were fetched. -/
def Agent.line (s : Agent) : List EdgeRecord :=
  s.phase.inflight ++ (s.batch ++ (s.channel ++ s.sending.toList))

/-- Confirmed, or in a frame of the spool's file. -/
def Forwarder.Safe (f : Forwarder) (o : ℕ) : Prop :=
  o ∈ f.confirmed ∨ some o ∈ f.spool.disk.frames.map Spooled.origin

/-- The number `store_offset` is about to write has the property. -/
def Writing.Safe (P : ℕ → Prop) : Writing → Prop
  | .openTmp next => P next
  | .fill next _ => P next
  | .rename => True

/-- The same, from the moment the file is open. -/
def Writing.SafeOnceOpen (P : ℕ → Prop) : Writing → Prop
  | .openTmp _ => True
  | w => w.Safe P

/-- Every number in the files or about to be written has the property. -/
structure OffsetsSafe (P : ℕ → Prop) (fs : OffsetFiles) (source fwd : Option Writing) : Prop where
  tmp : ∀ v, fs.tmp = some (some v) → P v
  state : ∀ v, fs.state = some (some v) → P v
  source : ∀ w, source = some w → w.SafeOnceOpen P
  fwd : ∀ w, fwd = some w → w.Safe P

/-- The spool's file can be read back and ends in the queue; the rest is confirmed. -/
structure SpoolInv (topic : ℕ → Option SpoolRecord) (crc32 : Bytes → UInt32) (s : Agent) :
    Prop where
  clean : s.fwd.spool.disk.Clean crc32
  origins : ∀ e ∈ s.fwd.spool.disk.frames, ∃ o, e.origin = some o ∧ topic o = some e.record
  queue : s.up = true → s.fwd.spool.disk.tail = [] ∧
    ∃ acked, s.fwd.spool.disk.frames = acked ++ s.fwd.spool.queue ∧
      ∀ e ∈ acked, ∃ o ∈ s.fwd.confirmed, e.origin = some o
  acking : ∀ n, s.phase = .ack n →
    ∀ e ∈ s.fwd.spool.queue.take n, ∃ o ∈ s.fwd.confirmed, e.origin = some o

/-- The line holds records of the topic and is covered, up to the position. -/
structure LineInv (topic : ℕ → Option SpoolRecord) (s : Agent) : Prop where
  records : ∀ r ∈ s.line, topic r.offset = some ⟨r.key, r.value⟩
  covered : Covered (Live topic) s.fwd.Safe
    (s.line.map EdgeRecord.offset ++ s.position.toList)
  spooling : ∀ failed m, s.phase = .spool failed m → Below (Live topic)
    (fun x => s.fwd.Safe x ∨ x ∈ failed.map EdgeRecord.offset) (m + 1)
  sending : ∀ r, s.sending = some r → s.position = some (r.offset + 1)
  hint : ∀ v, s.sourceStore = some (.openTmp v) → s.position = some v

structure Inv (topic : ℕ → Option SpoolRecord) (crc32 : Bytes → UInt32) (s : Agent) : Prop where
  spool : SpoolInv topic crc32 s
  line : LineInv topic s
  offsets : OffsetsSafe (Below (Live topic) s.fwd.Safe) s.files s.sourceStore
    s.fwdStore

variable {topic : ℕ → Option SpoolRecord} {crc32 : Bytes → UInt32} {batchMax : ℕ} {s s' : Agent}

lemma Inv.init : Inv topic crc32 init where
  spool := ⟨⟨by simp [Agent.init], .inl rfl⟩, by simp [Agent.init], by simp [Agent.init],
    by simp [Agent.init]⟩
  line := ⟨by simp [Agent.init, Agent.line, Phase.inflight], trivial, by simp [Agent.init],
    by simp [Agent.init], by simp [Agent.init]⟩
  offsets := ⟨by simp [Agent.init], by simp [Agent.init], by simp [Agent.init],
    by simp [Agent.init]⟩

/-! ## The offset files -/

variable {fs : OffsetFiles} {source fwd : Option Writing}

lemma OffsetsSafe.mono {P Q : ℕ → Prop} (h : OffsetsSafe P fs source fwd) (hPQ : ∀ v, P v → Q v) :
    OffsetsSafe Q fs source fwd where
  tmp v hv := hPQ v (h.tmp v hv)
  state v hv := hPQ v (h.state v hv)
  source w hw := by
    have := h.source w hw
    cases w with
    | openTmp v => trivial
    | fill v hd => exact hPQ v this
    | rename => trivial
  fwd w hw := by
    have := h.fwd w hw
    cases w with
    | openTmp v => exact hPQ v this
    | fill v hd => exact hPQ v this
    | rename => trivial

lemma Writing.renamed_safe (P : ℕ → Prop) (w : Writing) :
    (w.renamed.Safe P ↔ w.Safe P) ∧ (w.renamed.SafeOnceOpen P ↔ w.SafeOnceOpen P) := by
  cases w with
  | openTmp v => exact ⟨Iff.rfl, Iff.rfl⟩
  | fill v hd => cases hd <;> exact ⟨Iff.rfl, Iff.rfl⟩
  | rename => exact ⟨Iff.rfl, Iff.rfl⟩

/-- The numbers in the two files have the property. -/
def OffsetFiles.Safe (P : ℕ → Prop) (fs : OffsetFiles) : Prop :=
  (∀ v, fs.tmp = some (some v) → P v) ∧ ∀ v, fs.state = some (some v) → P v

lemma OffsetFiles.Safe.put {P : ℕ → Prop} (h : fs.Safe P) {c : Option ℕ}
    (hc : ∀ v, c = some v → P v) (hd : Handle) : (fs.put c hd).Safe P := by
  cases hd with
  | tmp => exact ⟨fun v hv => hc v (Option.some.inj hv), h.2⟩
  | state => exact ⟨h.1, fun v hv => hc v (Option.some.inj hv)⟩
  | gone => exact h

/-- **A step of `store_offset` writes its own number**, or moves a file. -/
lemma storeOffset_safe {P : ℕ → Prop} (other : Option Writing) {w : Writing} (hfs : fs.Safe P)
    (hw : w.Safe P) (io : StoreIO) :
    (storeOffset fs other w io).1.Safe P ∧
      (∀ w', (storeOffset fs other w io).2.1 = some w' → w'.Safe P ∧ ∀ v, w' ≠ .openTmp v) ∧
      ((storeOffset fs other w io).2.2 = other ∨
        (storeOffset fs other w io).2.2 = other.map Writing.renamed) := by
  have hnone : ∀ v, (none : Option ℕ) = some v → P v := nofun
  have hopen : ∀ {v : ℕ} {hd : Handle}, P v → ∀ w', some (Writing.fill v hd) = some w' →
      w'.Safe P ∧ ∀ v, w' ≠ .openTmp v := by
    rintro v hd hv w' ⟨⟩
    exact ⟨hv, by simp⟩
  have hrename : ∀ w', some Writing.rename = some w' → w'.Safe P ∧ ∀ v, w' ≠ .openTmp v := by
    rintro w' ⟨⟩
    exact ⟨trivial, by simp⟩
  have hdone : ∀ w', (none : Option Writing) = some w' → w'.Safe P ∧ ∀ v, w' ≠ .openTmp v :=
    nofun
  cases io with
  | fail => exact ⟨hfs, hdone, .inl rfl⟩
  | ok | garbled =>
    cases w with
    | openTmp v => exact ⟨hfs.put hnone _, hopen hw, .inl rfl⟩
    | fill v hd =>
      first
      | exact ⟨hfs.put (fun u hu => Option.some.inj hu ▸ hw) _, hrename, .inl rfl⟩
      | exact ⟨hfs.put hnone _, hrename, .inl rfl⟩
    | rename =>
      simp only [storeOffset]
      cases ht : fs.tmp with
      | none => exact ⟨hfs, hdone, .inl rfl⟩
      | some c =>
        refine ⟨⟨nofun, fun v hv => hfs.1 v ?_⟩, hdone, .inr rfl⟩
        rw [ht]
        exact hv

/-! ## The steps -/

lemma OffsetsSafe.grow {f f' : Forwarder} {live : ℕ → Prop}
    (h : OffsetsSafe (Below live f.Safe) fs source fwd) (hgrow : ∀ o, f.Safe o → f'.Safe o) :
    OffsetsSafe (Below live f'.Safe) fs source fwd :=
  h.mono fun _ hv => hv.mono hgrow

lemma OffsetsSafe.load {live safe : ℕ → Prop} (h : OffsetsSafe (Below live safe) fs source fwd) :
    Below live safe fs.load := by
  rw [OffsetFiles.load]
  cases hstate : fs.state with
  | none => intro o ho; exact absurd ho (Nat.not_lt_zero o)
  | some c =>
    cases c with
    | none => intro o ho; exact absurd ho (Nat.not_lt_zero o)
    | some v => exact h.state v hstate

variable (h : Inv topic crc32 s)
include h

lemma Inv.connect (hs : s.connect = some s') : Inv topic crc32 s' := by
  simp only [Agent.connect] at hs
  split_ifs at hs with hc
  cases hs
  refine ⟨{ h.spool with },
    ⟨h.line.records, ?_, h.line.spooling,
      fun r hr => absurd (hc.1.symm.trans (h.line.sending r hr)) (by simp),
      fun v hv => absurd (hc.2.symm.trans hv) (by simp)⟩,
    h.offsets⟩
  have hcov := h.line.covered
  rw [hc.1, Option.toList_none, append_nil] at hcov
  exact covered_append.mpr ⟨hcov, h.offsets.load.mono fun _ => .inl, trivial⟩

lemma Inv.fetch {o : ℕ} (hs : s.fetch topic o = some s') : Inv topic crc32 s' := by
  simp only [Agent.fetch] at hs
  split at hs
  · rename_i p rec hpos htopic
    split_ifs at hs with hc
    obtain ⟨hsend, hstore, hle, hgap⟩ := hc
    cases hs
    have hline : ∀ r : EdgeRecord, Agent.line { s with
        position := some (o + 1), sending := some r } = s.line ++ [r] := by
      intro r
      simp [Agent.line, hsend]
    refine ⟨{ h.spool with },
      ⟨fun r hr => ?_, ?_, h.line.spooling, ?_,
        fun v hv => absurd (hstore.symm.trans hv) (by simp)⟩,
      h.offsets⟩
    · rw [hline, mem_append, mem_singleton] at hr
      rcases hr with hr | rfl
      · exact h.line.records r hr
      · exact htopic
    · have hcov := h.line.covered
      rw [hpos, Option.toList_some] at hcov
      rw [hline, map_append, append_assoc]
      exact hcov.advance fun k hk hpk hlive => hlive (hgap k hk hpk)
    · rintro r ⟨⟩
      rfl
  · cases hs

/-- A step that keeps the line, and what is safe safe, keeps the invariant. -/
lemma Inv.along (hspool : SpoolInv topic crc32 s') (hgrow : ∀ o, s.fwd.Safe o → s'.fwd.Safe o)
    (hline : s'.line = s.line) (hposition : s'.position = s.position)
    (hfiles : s'.files = s.files) (hstore : s'.fwdStore = s.fwdStore)
    (hphase : ∀ failed m, s'.phase = .spool failed m → s.phase = .spool failed m)
    (hsending : ∀ r, s'.sending = some r → s.sending = some r)
    (hhint : ∀ w, s'.sourceStore = some w →
      s.sourceStore = some w ∨ ∃ v, w = .openTmp v ∧ s.position = some v) : Inv topic crc32 s' where
  spool := hspool
  line := by
    refine ⟨?_, ?_, fun failed m hp => ?_, fun r hr => ?_, fun v hv => ?_⟩
    · rw [hline]; exact h.line.records
    · rw [hline, hposition]; exact h.line.covered.mono hgrow
    · exact (h.line.spooling failed m (hphase failed m hp)).mono fun x hx => hx.imp_left (hgrow x)
    · rw [hposition]; exact h.line.sending r (hsending r hr)
    · rw [hposition]
      rcases hhint _ hv with hold | ⟨u, hu, hpos⟩
      · exact h.line.hint v hold
      · cases hu; exact hpos
  offsets := by
    have hoff := h.offsets.grow hgrow
    rw [hfiles, hstore]
    refine { hoff with source := fun w hw => ?_ }
    rcases hhint w hw with hold | ⟨u, rfl, -⟩
    · exact hoff.source w hold
    · trivial

lemma Inv.send (hs : s.send batchMax = some s') : Inv topic crc32 s' := by
  simp only [Agent.send] at hs
  split at hs
  · rename_i r hsend
    by_cases hroom : s.channel.length < batchMax * 4
    · rw [if_pos hroom] at hs
      cases hs
      refine h.along { h.spool with }
        (fun _ ho => ho) (by simp [Agent.line, hsend]) rfl rfl rfl (fun _ _ hp => hp)
        (nofun) (fun w hw => .inr ?_)
      split_ifs at hw
      cases hw
      exact ⟨_, rfl, h.line.sending r hsend⟩
    · rw [if_neg hroom] at hs
      cases hs
  · cases hs

lemma Inv.disconnect (hs : s.disconnect = some s') : Inv topic crc32 s' := by
  simp only [Agent.disconnect] at hs
  split_ifs at hs with hc
  cases hs
  refine ⟨{ h.spool with },
    ⟨h.line.records, ?_, h.line.spooling, fun r hr => absurd (hc.1.symm.trans hr) (by simp),
      fun v hv => absurd (hc.2.symm.trans hv) (by simp)⟩,
    h.offsets⟩
  rw [Option.toList_none, append_nil]
  exact (covered_append.mp h.line.covered).1

lemma Inv.recv (hs : s.recv batchMax = some s') : Inv topic crc32 s' := by
  simp only [Agent.recv] at hs
  split at hs
  · rename_i r channel hchan
    split_ifs at hs with hwait hfull
    all_goals
      cases hs
      refine h.along { h.spool with acking := nofun } (fun _ ho => ho) ?_ rfl rfl rfl
        (nofun) (fun _ hr => hr) (fun _ hw => .inl hw)
      simp [Agent.line, Phase.inflight, hwait.1, hchan]
  · cases hs

lemma Inv.timer (hs : s.timer = some s') : Inv topic crc32 s' := by
  simp only [Agent.timer] at hs
  split_ifs at hs with hc
  cases hs
  refine h.along { h.spool with acking := nofun }
    (fun _ ho => ho) ?_ rfl rfl rfl (nofun) (fun _ hr => hr)
    (fun _ hw => .inl hw)
  simp [Agent.line, Phase.inflight, hc.1.1]

omit h

lemma Forwarder.Safe.confirm {f f' : Forwarder} {l : List ℕ} (hd : f'.spool.disk = f.spool.disk)
    (hc : f'.confirmed = f.confirmed ++ l) (o : ℕ) : f'.Safe o ↔ f.Safe o ∨ o ∈ l := by
  rw [Forwarder.Safe, Forwarder.Safe, hd, hc, mem_append]
  tauto

lemma Inv.flushed (h : Inv topic crc32 s) (hphase : s.phase = .flush) {m : ℕ}
    (hm : m ∈ s.batch.map EdgeRecord.offset) {failed : List EdgeRecord} {l : List ℕ} {f : Forwarder}
    (hsub : failed ⊆ s.batch) (hall : ∀ r ∈ s.batch, r.offset ∈ l ∨ r ∈ failed)
    (hcov : ∀ rest, Covered (Live topic) s.fwd.Safe (s.batch.map EdgeRecord.offset ++ rest) →
      Covered (Live topic) (fun x => s.fwd.Safe x ∨ x ∈ l) (failed.map EdgeRecord.offset ++ rest))
    (hspool : f.spool = s.fwd.spool) (hconf : f.confirmed = s.fwd.confirmed ++ l) :
    Inv topic crc32 { s with batch := [], fwd := f, phase := .spool failed m } := by
  have hsafe : ∀ o, f.Safe o ↔ s.fwd.Safe o ∨ o ∈ l :=
    Forwarder.Safe.confirm (by rw [hspool]) hconf
  have hold : s.line = s.batch ++ (s.channel ++ s.sending.toList) := by
    simp [Agent.line, Phase.inflight, hphase]
  have hcovered := h.line.covered
  rw [hold, map_append, append_assoc] at hcovered
  refine ⟨⟨?_, ?_, fun hup => ?_, nofun⟩,
    ⟨fun r hr => h.line.records r ?_, ?_, ?_, h.line.sending, h.line.hint⟩,
    h.offsets.grow fun o ho => (hsafe o).mpr (.inl ho)⟩
  · simp only [hspool]; exact h.spool.clean
  · simp only [hspool]; exact h.spool.origins
  · simp only [hspool, hconf]
    obtain ⟨htail, acked, hacked, hc⟩ := h.spool.queue hup
    refine ⟨htail, acked, hacked, fun e he => ?_⟩
    obtain ⟨o, ho, heo⟩ := hc e he
    exact ⟨o, mem_append_left _ ho, heo⟩
  · rw [hold]
    simp only [Agent.line, Phase.inflight, nil_append] at hr
    rcases mem_append.mp hr with hr | hr
    · exact mem_append_left _ (hsub hr)
    · exact mem_append_right _ hr
  · simp only [Agent.line, Phase.inflight, nil_append, map_append, append_assoc]
    simp only [map_append, append_assoc] at hcovered
    exact (hcov _ hcovered).mono fun x hx => (hsafe x).mpr hx
  · rintro failed' m' ⟨⟩
    have hbelow := (covered_append.mp hcovered).1.below_mem hm
    refine hbelow.mono fun x hx => ?_
    rcases hx with hx | hx
    · exact .inl ((hsafe x).mpr (.inl hx))
    · obtain ⟨r, hr, rfl⟩ := mem_map.mp hx
      rcases hall r hr with hl | hf
      · exact .inl ((hsafe _).mpr (.inr hl))
      · exact .inr (mem_map_of_mem hf)

lemma Inv.checkpoint (h : Inv topic crc32 s) {failed : List EdgeRecord} {m : ℕ}
    (hphase : s.phase = .spool failed m) (hsafe : ∀ x ∈ failed.map EdgeRecord.offset, s.fwd.Safe x)
    : Inv topic crc32 { s with phase := .idle, fwdStore := some (.openTmp (m + 1)) } := by
  have hold : s.line = failed ++ (s.batch ++ (s.channel ++ s.sending.toList)) := by
    simp [Agent.line, Phase.inflight, hphase]
  refine ⟨{ h.spool with acking := nofun },
    ⟨fun r hr => h.line.records r ?_, ?_, nofun, h.line.sending,
      h.line.hint⟩, { h.offsets with fwd := ?_ }⟩
  · rw [hold]
    exact mem_append_right _ hr
  · have hcov := h.line.covered
    rw [hold, map_append, append_assoc] at hcov
    exact hcov.drop hsafe
  · rintro w ⟨⟩
    exact (h.line.spooling failed m hphase).mono fun x hx => hx.elim id (hsafe x)

lemma Inv.produce {confirm : ℕ → Bool} {later : ℤ} (h : Inv topic crc32 s)
    (hs : s.produce confirm later = some s') : Inv topic crc32 s' := by
  simp only [Agent.produce] at hs
  split at hs
  · rename_i m hphase hmax
    have hm := max?_mem hmax
    by_cases hq : s.fwd.spool.queue = []
    · have hlen : (answers confirm s.batch.length).length = s.batch.length := length_answers _ _
      have hflushed : ∀ f : Forwarder, f.spool = s.fwd.spool → f.confirmed = s.fwd.confirmed ++
          (delivered s.batch (answers confirm s.batch.length)).map EdgeRecord.offset →
          Inv topic crc32 { s with
            batch := [], fwd := f,
            phase := .spool (produceBatch s.batch (answers confirm s.batch.length)).2 m } := by
        intro f hf hc
        refine h.flushed hphase hm (fun r hr => ?_) (fun r hr => ?_)
          (fun rest hcov => covered_failed hlen hcov) hf hc
        · obtain ⟨p, hp, rfl⟩ := mem_map.mp hr
          exact (of_mem_zip (mem_filter.mp hp).1).1
        · exact (delivered_or_failed hlen hr).imp_left mem_map_of_mem
      rw [if_pos hq] at hs
      split_ifs at hs with hfailed
      · cases hs
        refine (hflushed _ ?_ ?_).checkpoint rfl (by simp [hfailed])
        · rfl
        · rfl
      · cases hs
        exact hflushed _ rfl rfl
    · rw [if_neg hq] at hs
      cases hs
      refine h.flushed hphase hm (Subset.refl _) (fun r hr => .inr hr)
        (fun rest hcov => hcov.mono fun _ => .inl) rfl (append_nil _).symm
  · cases hs

/-- An append succeeds, on the file of that name, with readable frames. -/
def Agent.AppendCareful (s : Agent) (io : AppendIO) : Prop :=
  io = .ok ∧ s.fwd.spool.attached = true ∧ ∀ r ∈ s.phase.inflight, Readable r.spooled.record
  deriving Decidable

lemma Inv.append {io : AppendIO} (h : Inv topic crc32 s) (hup : s.up = true)
    (hok : s.AppendCareful io) (hs : s.append crc32 io = some s') : Inv topic crc32 s' := by
  obtain ⟨rfl, hatt, hread⟩ := hok
  simp only [Agent.append] at hs
  split at hs
  · rename_i failed m hphase
    cases hs
    obtain ⟨htail, acked, hacked, hc⟩ := h.spool.queue hup
    set es := failed.map EdgeRecord.spooled with hes
    have hdisk : (s.fwd.spool.append crc32 es .ok).1.disk = ⟨s.fwd.spool.disk.frames ++ es, []⟩ :=
      Spool.writeOut_all hatt htail
    have hmem : ∀ e ∈ es, ∃ r ∈ s.line, e = r.spooled ∧ r ∈ failed := by
      intro e he
      obtain ⟨r, hr, rfl⟩ := mem_map.mp he
      exact ⟨r, mem_append_left _ (by simpa [Phase.inflight, hphase] using hr), rfl, hr⟩
    have hspooled : Inv topic crc32
        { s with fwd := { s.fwd with spool := (s.fwd.spool.append crc32 es .ok).1 } } := by
      refine h.along ⟨⟨?_, ?_⟩, ?_, fun _ => ?_, ?_⟩ ?_ rfl rfl rfl rfl (fun _ _ hp => hp)
        (fun _ hr => hr) (fun _ hw => .inl hw)
      · simp only [hdisk]
        refine forall_mem_append.mpr ⟨h.spool.clean.readable, fun e he => ?_⟩
        obtain ⟨r, -, rfl, hr⟩ := hmem e he
        exact hread r (by simpa [Phase.inflight, hphase] using hr)
      · simp only [hdisk]
        exact .inl trivial
      · simp only [hdisk]
        refine forall_mem_append.mpr ⟨h.spool.origins, fun e he => ?_⟩
        obtain ⟨r, hr, rfl, -⟩ := hmem e he
        exact ⟨r.offset, rfl, h.line.records r hr⟩
      · simp only [hdisk]
        exact ⟨trivial, acked, by rw [hacked, append_assoc]; rfl, hc⟩
      · intro n hn
        exact absurd (hphase.symm.trans hn) (by simp)
      · intro o ho
        simp only [Forwarder.Safe, hdisk, map_append, mem_append]
        exact ho.imp_right .inl
    refine hspooled.checkpoint hphase fun x hx => .inr ?_
    obtain ⟨r, hr, rfl⟩ := mem_map.mp hx
    simp only [hdisk, map_append]
    exact mem_append_right _ (mem_map.mpr ⟨r.spooled, mem_map_of_mem hr, rfl⟩)
  · cases hs

lemma Inv.drain {now later : ℤ} {confirm : ℕ → Bool} (h : Inv topic crc32 s) (hup : s.up = true)
    (hok : s.fwd.drainDue batchMax now → ConfirmedPrefix (s.fwd.results batchMax confirm))
    (hs : s.drain batchMax now later confirm = some s') : Inv topic crc32 s' := by
  simp only [Agent.drain] at hs
  split_ifs at hs with hwait hdue
  · cases hs
    have hspool := s.fwd.drainProduce_spool batchMax confirm later
    have hconf := s.fwd.drainProduce_confirmed batchMax confirm later
    have hcount := s.fwd.drainProduce_count batchMax confirm later
    have hsafe := Forwarder.Safe.confirm (congrArg Spool.disk hspool) hconf
    obtain ⟨htail, acked, hacked, hc⟩ := h.spool.queue hup
    refine h.along ⟨?_, ?_, fun _ => ?_, ?_⟩ (fun o ho => (hsafe o).mpr (.inl ho)) ?_ rfl rfl rfl
      (nofun) (fun _ hr => hr) (fun _ hw => .inl hw)
    · simp only [hspool]; exact h.spool.clean
    · simp only [hspool]; exact h.spool.origins
    · simp only [hspool, hconf]
      refine ⟨htail, acked, hacked, fun e he => ?_⟩
      obtain ⟨o, ho, heo⟩ := hc e he
      exact ⟨o, mem_append_left _ ho, heo⟩
    · rintro n ⟨⟩ e he
      simp only [hspool, hconf, hcount] at he ⊢
      -- the records to acknowledge are the ones just confirmed
      have hdel : e ∈ delivered (s.fwd.spool.peek batchMax) (s.fwd.results batchMax confirm) := by
        rw [delivered_eq_take _ _ (s.fwd.length_results batchMax _) (hok hdue), Spool.peek,
          take_take]
        have hle := produceBatch_le (s.fwd.spool.peek batchMax) (s.fwd.results batchMax confirm)
        rw [Spool.peek, length_take] at hle
        rwa [min_eq_left (hle.trans (min_le_left _ _))]
      have hframe : e ∈ s.fwd.spool.disk.frames := by
        rw [hacked]
        exact mem_append_right _ (take_subset _ _ he)
      obtain ⟨o, heo, -⟩ := h.spool.origins e hframe
      exact ⟨o, mem_append_right _ (mem_filterMap.mpr ⟨e, hdel, heo⟩), heo⟩
    · simp [Agent.line, Phase.inflight, hwait.1]
  · cases hs
    exact h

/-- An acknowledgement takes only what was confirmed. -/
lemma SpoolInv.ack (h : SpoolInv topic crc32 s) (hup : s.up = true) {n : ℕ}
    (hphase : s.phase = .ack n) (io : CompactIO) :
    (s.fwd.drainAck n io).spool.disk.Clean crc32 ∧
      (∀ e ∈ (s.fwd.drainAck n io).spool.disk.frames,
        ∃ o, e.origin = some o ∧ topic o = some e.record) ∧
      ((s.fwd.drainAck n io).spool.disk.tail = [] ∧
        ∃ acked, (s.fwd.drainAck n io).spool.disk.frames =
          acked ++ (s.fwd.drainAck n io).spool.queue ∧
            ∀ e ∈ acked, ∃ o ∈ s.fwd.confirmed, e.origin = some o) ∧
      ∀ o, s.fwd.Safe o → (s.fwd.drainAck n io).Safe o := by
  obtain ⟨htail, acked, hacked, hc⟩ := h.queue hup
  rw [Forwarder.drainAck]
  split_ifs with hn
  · have hq := s.fwd.spool.ack_queue n io
    have hdone := forall_mem_append.mpr ⟨hc, h.acking n hphase⟩
    have hsplit : s.fwd.spool.disk.frames =
        (acked ++ s.fwd.spool.queue.take n) ++ s.fwd.spool.queue.drop n := by
      rw [hacked, append_assoc, take_append_drop]
    rcases s.fwd.spool.ack_disk n io with hd | hd
    · refine ⟨?_, ?_, ⟨?_, _, ?_, hdone⟩, fun o ho => ?_⟩
      · rw [hd]; exact h.clean
      · rw [hd]; exact h.origins
      · rw [hd]; exact htail
      · rw [hd, hq]; exact hsplit
      · simpa only [Forwarder.Safe, hd] using ho
    · have hsub : s.fwd.spool.queue.drop n ⊆ s.fwd.spool.disk.frames := by
        rw [hsplit]
        exact subset_append_right _ _
      refine ⟨⟨?_, ?_⟩, ?_, ⟨?_, [], ?_, by simp⟩, fun o ho => ?_⟩
      · rw [hd]; exact fun e he => h.clean.readable e (hsub he)
      · rw [hd]; exact .inl rfl
      · rw [hd]; exact fun e he => h.origins e (hsub he)
      · rw [hd]
      · rw [hd, hq, nil_append]
      · rcases ho with ho | ho
        · exact .inl ho
        · obtain ⟨e, he, heo⟩ := mem_map.mp ho
          rw [hsplit] at he
          rcases mem_append.mp he with he | he
          · obtain ⟨o', ho', heo'⟩ := hdone e he
            rw [heo, Option.some.injEq] at heo'
            exact .inl (heo' ▸ ho')
          · refine .inr ?_
            rw [hd]
            exact mem_map.mpr ⟨e, he, heo⟩
  · exact ⟨h.clean, h.origins, ⟨htail, acked, hacked, hc⟩, fun o ho => ho⟩

lemma Inv.ack {io : CompactIO} (h : Inv topic crc32 s) (hup : s.up = true)
    (hs : s.ack io = some s') : Inv topic crc32 s' := by
  simp only [Agent.ack] at hs
  split at hs
  · rename_i n hphase
    cases hs
    obtain ⟨hclean, horigins, hqueue, hgrow⟩ := h.spool.ack hup hphase io
    refine h.along ⟨hclean, horigins, fun _ => ?_, nofun⟩ hgrow ?_ rfl rfl
      rfl (nofun) (fun _ hr => hr) (fun _ hw => .inl hw)
    · simp only [Forwarder.drainAck_confirmed]; exact hqueue
    · simp [Agent.line, Phase.inflight, hphase]
  · cases hs

/-- The source opens the file for its hint when nothing below it is in the line. -/
def Agent.HintCareful (s : Agent) : Prop :=
  ∀ v, s.sourceStore = some (.openTmp v) → ∀ r ∈ s.line, v ≤ r.offset

instance (s : Agent) : Decidable s.HintCareful :=
  match h : s.sourceStore with
  | some (.openTmp v) =>
    decidable_of_iff (∀ r ∈ s.line, v ≤ r.offset) (by simp [HintCareful, h])
  | some (.fill _ _) => isTrue (by simp [HintCareful, h])
  | some .rename => isTrue (by simp [HintCareful, h])
  | none => isTrue (by simp [HintCareful, h])

lemma Writing.renamed_eq_openTmp {w : Writing} {v : ℕ} (h : w.renamed = .openTmp v) :
    w = .openTmp v := by
  cases w with
  | openTmp u => exact h
  | fill u hd => cases hd <;> simp [Writing.renamed] at h
  | rename => simp [Writing.renamed] at h

lemma Inv.store {task : Task} {io : StoreIO} (h : Inv topic crc32 s)
    (hok : task = .source → s.HintCareful) (hs : s.store task io = some s') :
    Inv topic crc32 s' := by
  have hfiles : s.files.Safe (Below (Live topic) s.fwd.Safe) := ⟨h.offsets.tmp, h.offsets.state⟩
  cases task with
  | source =>
    obtain ⟨w, hw, rfl⟩ := Option.map_eq_some_iff.mp hs
    have hsafe : w.Safe (Below (Live topic) s.fwd.Safe) := by
      have hsrc := h.offsets.source w hw
      cases w with
      | openTmp v =>
        have hcov := h.line.covered
        rw [h.line.hint v hw] at hcov
        intro o ho hlive
        rcases (covered_append.mp hcov).2.1 o ho hlive with hsafe | hmem
        · exact hsafe
        · obtain ⟨r, hr, rfl⟩ := mem_map.mp hmem
          exact absurd ho (not_lt.mpr ((hok rfl) v hw r hr))
      | fill v hd => exact hsrc
      | rename => trivial
    obtain ⟨hfs, hown, hother⟩ := storeOffset_safe s.fwdStore hfiles hsafe io
    refine ⟨{ h.spool with },
      { h.line with hint := fun v hv => absurd rfl ((hown _ hv).2 v) },
      ⟨hfs.1, hfs.2, fun w' hw' => ?_, ?_⟩⟩
    · have hsafe' := (hown w' hw').1
      cases w' with
      | openTmp v => trivial
      | fill v hd => exact hsafe'
      | rename => trivial
    · intro w' hw'
      rcases hother with heq | heq
      · exact h.offsets.fwd w' (heq.symm.trans hw')
      · obtain ⟨u, hu, rfl⟩ := Option.map_eq_some_iff.mp (heq.symm.trans hw')
        exact (Writing.renamed_safe _ u).1.mpr (h.offsets.fwd u hu)
  | forwarder =>
    obtain ⟨w, hw, rfl⟩ := Option.map_eq_some_iff.mp hs
    obtain ⟨hfs, hown, hother⟩ := storeOffset_safe s.sourceStore hfiles (h.offsets.fwd w hw) io
    refine ⟨{ h.spool with },
      { h.line with hint := fun v hv => ?_ },
      ⟨hfs.1, hfs.2, fun w' hw' => ?_, fun w' hw' => (hown w' hw').1⟩⟩
    · rcases hother with heq | heq
      · exact h.line.hint v (heq.symm.trans hv)
      · obtain ⟨u, hu, heq'⟩ := Option.map_eq_some_iff.mp (heq.symm.trans hv)
        exact h.line.hint v (Writing.renamed_eq_openTmp heq' ▸ hu)
    · rcases hother with heq | heq
      · exact h.offsets.source w' (heq.symm.trans hw')
      · obtain ⟨u, hu, rfl⟩ := Option.map_eq_some_iff.mp (heq.symm.trans hw')
        exact (Writing.renamed_safe _ u).2.mpr (h.offsets.source u hu)

lemma Inv.halted (h : Inv topic crc32 s) {sp : Spool} {up : Bool}
    (hspool : SpoolInv topic crc32
      { Agent.init with up := up, fwd := ⟨sp, false, 0, s.fwd.confirmed⟩, files := s.files })
    (hgrow : ∀ o, some o ∈ s.fwd.spool.disk.frames.map Spooled.origin →
      o ∈ s.fwd.confirmed ∨ some o ∈ sp.disk.frames.map Spooled.origin) :
    Inv topic crc32
      { Agent.init with up := up, fwd := ⟨sp, false, 0, s.fwd.confirmed⟩, files := s.files } := by
  have hsafe : ∀ o, s.fwd.Safe o → (⟨sp, false, 0, s.fwd.confirmed⟩ : Forwarder).Safe o :=
    fun o ho => ho.elim .inl (hgrow o)
  have hoff := h.offsets.grow hsafe
  exact ⟨hspool, ⟨by simp [Agent.init, Agent.line, Phase.inflight], trivial, by simp [Agent.init],
    by simp [Agent.init], by simp [Agent.init]⟩,
    ⟨hoff.tmp, hoff.state, by simp [Agent.init], by simp [Agent.init]⟩⟩

lemma Inv.crash (h : Inv topic crc32 s) (hup : s.up = true) (point : CrashPoint)
    (hok : ∀ k, point = .appending k → ∀ r ∈ s.phase.inflight, Readable r.spooled.record) :
    Inv topic crc32 (s.crash crc32 point) := by
  have hplain : Inv topic crc32
      { Agent.init with
        fwd := ⟨⟨[], 0, s.fwd.spool.disk, false⟩, false, 0, s.fwd.confirmed⟩, files := s.files } :=
    h.halted ⟨h.spool.clean, h.spool.origins, nofun,
      nofun⟩ fun o ho => .inr ho
  obtain ⟨htail, acked, hacked, hc⟩ := h.spool.queue hup
  cases point with
  | plain => exact hplain
  | appending k =>
    rw [Agent.crash, diskAfter]
    split
    · rename_i failed m hphase
      rw [Spool.writeOut]
      split_ifs with hatt
      · have hread : ∀ e ∈ failed.map EdgeRecord.spooled, Readable e.record := by
          intro e he
          obtain ⟨r, hr, rfl⟩ := mem_map.mp he
          exact hok k rfl r (by simpa [Phase.inflight, hphase] using hr)
        obtain ⟨hclean, l, hpre, hl⟩ := Disk.write_clean (k := k) htail h.spool.clean.readable hread
        refine h.halted ⟨hclean, fun e he => ?_, nofun,
          nofun⟩ fun o ho => .inr ?_
        · simp only [hl] at he
          rcases mem_append.mp he with he | he
          · exact h.spool.origins e he
          · obtain ⟨r, hr, rfl⟩ := mem_map.mp (hpre.subset he)
            refine ⟨r.offset, rfl, h.line.records r (mem_append_left _ ?_)⟩
            simpa [Phase.inflight, hphase] using hr
        · simp only [hl, map_append]
          exact mem_append_left _ ho
      · exact hplain
    · exact hplain
  | compacting =>
    rw [Agent.crash, diskAfter]
    split
    · rename_i n hphase
      obtain ⟨hclean, horigins, -, hgrow⟩ := h.spool.ack hup hphase .reopen
      refine h.halted ⟨hclean, horigins, nofun,
        nofun⟩ fun o ho => ?_
      have := hgrow o (.inr ho)
      rwa [Forwarder.Safe, Forwarder.drainAck_confirmed] at this
    · exact hplain

/-! ## Runs -/

/-- What a step must meet for the checkpoint to stay safe. -/
def Agent.Careful (batchMax : ℕ) (s : Agent) : Event → Prop
  | .append io => s.AppendCareful io
  | .drain now _ confirm =>
    s.fwd.drainDue batchMax now → ConfirmedPrefix (s.fwd.results batchMax confirm)
  | .store .source _ => s.HintCareful
  | .crash (.appending _) => ∀ r ∈ s.phase.inflight, Readable r.spooled.record
  | _ => True

instance (batchMax : ℕ) (s : Agent) (ev) : Decidable (s.Careful batchMax ev) := by
  unfold Careful; split <;> infer_instance

/-- **Every careful step keeps the invariant.** -/
lemma Inv.step {ev : Event} (h : Inv topic crc32 s) (hok : s.Careful batchMax ev)
    (hs : s.step topic batchMax crc32 ev = some s') : Inv topic crc32 s' := by
  cases hup : s.up with
  | false =>
    cases ev <;> simp only [Agent.step, hup, reduceCtorEq] at hs
    cases hs
    rw [Agent.restart, openDir_clean h.spool.clean]
    exact h.halted ⟨⟨h.spool.clean.readable, .inl rfl⟩, h.spool.origins,
      fun _ => ⟨rfl, [], rfl, by simp⟩, nofun⟩
      fun o ho => .inr ho
  | true =>
    cases ev <;> simp only [Agent.step, hup, reduceCtorEq, Option.some.injEq] at hs
    case connect => exact h.connect hs
    case fetch o => exact h.fetch hs
    case send => exact h.send hs
    case disconnect => exact h.disconnect hs
    case recv => exact h.recv hs
    case timer => exact h.timer hs
    case produce confirm later => exact h.produce hs
    case append io => exact h.append hup hok hs
    case drain now later confirm => exact h.drain hup hok hs
    case ack io => exact h.ack hup hs
    case store task io => exact h.store (fun ht => by subst ht; exact hok) hs
    case crash point =>
        subst hs
        exact h.crash hup point fun k hk => by subst hk; exact hok

/-- `Spool::open` reads the record back from its frame. -/
def Recoverable (crc32 : Bytes → UInt32) (d : Disk) (o : ℕ) (rec : SpoolRecord) : Prop :=
  ∃ i : ℕ, d.frames[i]? = some ⟨rec, some o⟩ ∧ (scan crc32 (d.bytes crc32)).1[i]? = some rec

def Agent.Kept (crc32 : Bytes → UInt32) (s : Agent) (o : ℕ) (rec : SpoolRecord) : Prop :=
  o ∈ s.fwd.confirmed ∨ Recoverable crc32 s.fwd.spool.disk o rec

end H2Fleet.Edge
