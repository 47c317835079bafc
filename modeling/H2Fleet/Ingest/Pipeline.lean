import H2Fleet.Core.Run
import H2Fleet.Core.Line
import H2Fleet.Core.Slots
import H2Fleet.Ingest.Telemetry

/-!
# The ingest pipeline

`run` and `flush` of the telemetry-ingest service, one event at a time: polling, buffering, the
insert with its retries, dead-lettering, and the offset commits of poison records, of flushed
batches and of dead-lettered ones.

The broker hands the records of a partition over in order, from the committed offset on after a
restart or a rebalance.  A commit is a request that takes effect later, in order, or never.  The log
is the parameter `log`: the record at an offset of a partition, if there is one, and its payload, if
it has one.
-/

namespace H2Fleet.Ingest

open List Function

/-! ## The state -/

structure Pending where
  raw : TelemetryRaw
  partition : ℕ
  offset : ℕ
  deriving DecidableEq

inductive Phase where
  | polling
  | inserting (attempts : ℕ)
  | deadLettering (rest : List Pending)
  | committing
  deriving DecidableEq

def maxFlushAttempts : ℕ := 10

/-- `rejected`, `deadLettered` and `published` record what became of the others. -/
structure Pipeline where
  paused : Bool
  batch : List Pending
  phase : Phase
  position : ℕ → ℕ
  committed : ℕ → ℕ
  requests : List (ℕ → Option ℕ)
  telemetry : List (ℕ × ℤ)
  rejected : List (ℕ × ℕ)
  deadLettered : List (ℕ × ℕ)
  published : List (ℕ × ℕ)

open Pipeline

def Pipeline.init : Pipeline where
  paused := false
  batch := []
  phase := .polling
  position := fun _ => 0
  committed := fun _ => 0
  requests := []
  telemetry := []
  rejected := []
  deadLettered := []
  published := []

/-- `recv` is a poll that yields a record, `deadline` the end of the batch window or the flush at
shutdown.  A failed insert may have been applied. -/
inductive Event where
  | pause
  | resume
  | recvPaused (partition offset : ℕ)
  | recv (partition offset : ℕ) (now : ℤ)
  | deadline
  | insert (ok applied : Bool)
  | deadLetter (ok : Bool)
  | commit
  | applyCommit
  | dropCommit
  | rebalance (partition : ℕ)
  | crash

/-! ## Commits -/

def commitOne (partition offset : ℕ) : ℕ → Option ℕ :=
  fun p => if p = partition then some (offset + 1) else none

def offsetsOf (batch : List Pending) (p : ℕ) : List ℕ :=
  (batch.filter fun b => b.partition = p).map Pending.offset

/-- `commit_batch_offsets`: the highest offset of each partition, plus one. -/
def batchOffsets (batch : List Pending) : ℕ → Option ℕ :=
  fun p => (offsetsOf batch p).max?.map (· + 1)

/-! ## The step function -/

section Steps

variable (log : ℕ → ℕ → Option (Option Bytes)) (decode : Bytes → Option Envelope)
  (inputTopic : String) (batchSize : ℕ) (s : Pipeline)

/-- The record at the offset is the next one of its partition. -/
def Pipeline.Next (p o : ℕ) : Prop :=
  s.position p ≤ o ∧ ∀ k < o, s.position p ≤ k → log p k = none

instance (p o : ℕ) : Decidable (s.Next log p o) :=
  inferInstanceAs (Decidable (_ ∧ _))

namespace Pipeline

def moveTo (p o : ℕ) : Pipeline :=
  { s with position := update s.position p o }

/-- The body of the loop for a record with a payload. -/
def accept (p o : ℕ) (now : ℤ) (payload : Bytes) : Pipeline :=
  match parseAndValidate decode inputTopic now payload with
  | some raw =>
    { s.moveTo p (o + 1) with
      batch := s.batch ++ [⟨raw, p, o⟩]
      phase := if batchSize ≤ s.batch.length + 1 then .inserting 0 else .polling }
  | none =>
    { s.moveTo p (o + 1) with
      rejected := s.rejected ++ [(p, o)]
      requests := s.requests ++ [commitOne p o] }

def recv (p o : ℕ) (now : ℤ) : Option Pipeline :=
  if s.paused = false ∧ s.phase = .polling ∧ s.Next log p o then
    match log p o with
    | none => none
    | some none => some (s.moveTo p (o + 1))
    | some (some payload) => some (s.accept decode inputTopic batchSize p o now payload)
  else none

/-- The poll while paused drops what it is handed. -/
def recvPaused (p o : ℕ) : Option Pipeline :=
  if s.paused = true ∧ s.phase = .polling ∧ s.Next log p o ∧ log p o ≠ none then
    some (s.moveTo p (o + 1))
  else none

/-- One attempt of the insert loop in `flush`. -/
def insert (ok applied : Bool) : Option Pipeline :=
  match s.phase with
  | .inserting attempts =>
    let telemetry :=
      if ok || applied then s.telemetry ++ s.batch.map fun b => b.raw.key else s.telemetry
    let phase : Phase :=
      if ok then .committing
      else if maxFlushAttempts ≤ attempts + 1 then .deadLettering s.batch
      else .inserting (attempts + 1)
    some { s with telemetry := telemetry, phase := phase }
  | _ => none

/-- One record of `dead_letter`; the publish is not retried. -/
def deadLetter (ok : Bool) : Option Pipeline :=
  match s.phase with
  | .deadLettering (b :: rest) =>
    some { s with
      deadLettered := s.deadLettered ++ [(b.partition, b.offset)]
      published := if ok then s.published ++ [(b.partition, b.offset)] else s.published
      phase := if rest = [] then .committing else .deadLettering rest }
  | _ => none

def commit : Option Pipeline :=
  match s.phase with
  | .committing =>
    some { s with
      requests := s.requests ++ [batchOffsets s.batch], batch := [], phase := .polling }
  | _ => none

def applyCommit : Option Pipeline :=
  match s.requests with
  | r :: requests =>
    some { s with committed := fun p => (r p).getD (s.committed p), requests := requests }
  | [] => none

/-- The service starts again where its group stands. -/
def crash : Pipeline :=
  { s with paused := false, batch := [], phase := .polling, position := s.committed }

def step : Event → Option Pipeline
  | .pause => if s.paused = false ∧ s.phase = .polling then some { s with paused := true } else none
  | .resume => if s.paused = true then some { s with paused := false } else none
  | .recvPaused p o => s.recvPaused log p o
  | .recv p o now => s.recv log decode inputTopic batchSize p o now
  | .deadline =>
    if s.paused = false ∧ s.phase = .polling ∧ s.batch ≠ [] then
      some { s with phase := .inserting 0 }
    else none
  | .insert ok applied => s.insert ok applied
  | .deadLetter ok => s.deadLetter ok
  | .commit => s.commit
  | .applyCommit => s.applyCommit
  | .dropCommit => if s.requests ≠ [] then some { s with requests := s.requests.tail } else none
  | .rebalance p => some (s.moveTo p (s.committed p))
  | .crash => some s.crash

end Pipeline

end Steps

/-! ## The invariant -/

section Invariant

variable (log : ℕ → ℕ → Option (Option Bytes)) (decode : Bytes → Option Envelope)

def recordKey (p o : ℕ) : Option (ℕ × ℤ) :=
  ((log p o).join.bind decode).map fun env => env.data.key

/-- The partition has a record with a payload at the offset. -/
def Live (p o : ℕ) : Prop := (log p o).join ≠ none

/-- Rejected, given to the dead-letter producer, or in `fleet.telemetry`. -/
def Pipeline.Handled (s : Pipeline) (p o : ℕ) : Prop :=
  (p, o) ∈ s.rejected ∨ (p, o) ∈ s.deadLettered ∨
    ∃ k, recordKey log decode p o = some k ∧ k ∈ s.telemetry

/-- The buffered records of a partition form a covered line up to the position, and every offset
committed, or asked to be, is behind handled records only. -/
structure Inv (s : Pipeline) : Prop where
  keys : ∀ b ∈ s.batch, recordKey log decode b.partition b.offset = some b.raw.key
  covered : ∀ p, Covered (Live log p) (s.Handled log decode p)
    (offsetsOf s.batch p ++ [s.position p])
  deadLettering : ∀ rest, s.phase = .deadLettering rest →
    ∀ b ∈ s.batch, s.Handled log decode b.partition b.offset ∨ b ∈ rest
  committing : s.phase = .committing → ∀ b ∈ s.batch, s.Handled log decode b.partition b.offset
  committed : ∀ p, Below (Live log p) (s.Handled log decode p) (s.committed p)
  requests : ∀ r ∈ s.requests, ∀ p v, r p = some v → Below (Live log p) (s.Handled log decode p) v

end Invariant

variable {log : ℕ → ℕ → Option (Option Bytes)} {decode : Bytes → Option Envelope}
  {inputTopic : String} {batchSize : ℕ} {s s' : Pipeline}

lemma Inv.init : Inv log decode init where
  keys _ hb := nomatch hb
  covered _ := ⟨fun o ho => absurd ho (Nat.not_lt_zero o), trivial⟩
  deadLettering _ h := nomatch h
  committing h := nomatch h
  committed _ o ho := absurd ho (Nat.not_lt_zero o)
  requests _ hr := nomatch hr

/-! ## The steps -/

lemma offsetsOf_append (a b : List Pending) (p : ℕ) :
    offsetsOf (a ++ b) p = offsetsOf a p ++ offsetsOf b p := by
  simp [offsetsOf]

variable {p o : ℕ}

lemma mem_offsetsOf {batch : List Pending} :
    o ∈ offsetsOf batch p ↔ ∃ b ∈ batch, b.partition = p ∧ b.offset = o := by
  simp [offsetsOf, and_assoc]

lemma Pipeline.Handled.mono (h : s.Handled log decode p o) (hr : s.rejected ⊆ s'.rejected)
    (hd : s.deadLettered ⊆ s'.deadLettered) (ht : s.telemetry ⊆ s'.telemetry) :
    s'.Handled log decode p o := by
  rcases h with h | h | ⟨k, hk, hmem⟩
  · exact .inl (hr h)
  · exact .inr (.inl (hd h))
  · exact .inr (.inr ⟨k, hk, ht hmem⟩)

section Steps

variable (h : Inv log decode s)
include h

lemma Inv.handle (hgrow : ∀ p o, s.Handled log decode p o → s'.Handled log decode p o)
    (hbatch : s'.batch = s.batch) (hpos : s'.position = s.position)
    (hdead : ∀ rest, s'.phase = .deadLettering rest →
      ∀ b ∈ s.batch, s'.Handled log decode b.partition b.offset ∨ b ∈ rest)
    (hcommitting : s'.phase = .committing → ∀ b ∈ s.batch,
      s'.Handled log decode b.partition b.offset)
    (hcommitted : s'.committed = s.committed) (hrequests : s'.requests = s.requests) :
    Inv log decode s' where
  keys := by rw [hbatch]; exact h.keys
  covered p := by rw [hbatch, hpos]; exact (h.covered p).mono (hgrow p)
  deadLettering := by rw [hbatch]; exact hdead
  committing := by rw [hbatch]; exact hcommitting
  committed p := by rw [hcommitted]; exact (h.committed p).mono (hgrow p)
  requests := by rw [hrequests]; exact fun r hr p v hv => (h.requests r hr p v hv).mono (hgrow p)

lemma Inv.moveTo (hcov : Covered (Live log p) (s.Handled log decode p) (offsetsOf s.batch p ++ [o]))
    : Inv log decode (s.moveTo p o) := by
  refine { h with covered := fun q => ?_ }
  rcases eq_or_ne q p with rfl | hq
  · simp only [moveTo, update_self]
    exact hcov
  · simp only [Pipeline.moveTo, update_of_ne hq]
    exact h.covered q

lemma Next.covered (hnext : s.Next log p o) :
    Covered (Live log p) (s.Handled log decode p) (offsetsOf s.batch p ++ [o, o + 1]) :=
  (h.covered p).advance fun k hk hpk hlive => hlive (by rw [hnext.2 k hk hpk]; rfl)

lemma Inv.pass (hnext : s.Next log p o) (hempty : ¬ Live log p o) :
    Inv log decode (s.moveTo p (o + 1)) := by
  refine h.moveTo ((h.covered p).move fun k hk hpk => ?_)
  rcases Nat.lt_succ_iff_lt_or_eq.mp hk with hko | rfl
  · exact fun hlive => hlive (by rw [hnext.2 k hko hpk]; rfl)
  · exact hempty

lemma Inv.buffer {raw : TelemetryRaw} {phase : Phase} (hnext : s.Next log p o)
    (hkey : recordKey log decode p o = some raw.key)
    (hphase : phase = .polling ∨ phase = .inserting 0) :
    Inv log decode
      { s.moveTo p (o + 1) with batch := s.batch ++ [⟨raw, p, o⟩], phase := phase } where
  __ := h
  keys := forall_mem_concat h.keys hkey
  covered q := by
    rcases eq_or_ne q p with rfl | hq
    · have hself : offsetsOf [(⟨raw, q, o⟩ : Pending)] q = [o] := by simp [offsetsOf]
      simp only [Pipeline.moveTo, update_self, offsetsOf_append, hself, append_assoc]
      exact Next.covered h hnext
    · have hother : offsetsOf [(⟨raw, p, o⟩ : Pending)] q = [] := by simp [offsetsOf, hq.symm]
      simp only [Pipeline.moveTo, update_of_ne hq, offsetsOf_append, hother, append_nil]
      exact h.covered q
  deadLettering rest hp := by rcases hphase with rfl | rfl <;> cases hp
  committing hp := by rcases hphase with rfl | rfl <;> cases hp

lemma Inv.poison (hnext : s.Next log p o) (hpolling : s.phase = .polling)
    (hfree : ∀ b ∈ s.batch, b.partition ≠ p) :
    Inv log decode { s.moveTo p (o + 1) with
      rejected := s.rejected ++ [(p, o)], requests := s.requests ++ [commitOne p o] } := by
  set s₁ : Pipeline := { s with rejected := s.rejected ++ [(p, o)] } with hs₁
  have hgrow : ∀ q x, s.Handled log decode q x → s₁.Handled log decode q x := fun q x hx =>
    hx.mono (subset_append_left _ _) (fun _ hm => hm) (fun _ hm => hm)
  have hdone : s₁.Handled log decode p o := .inl (by simp [hs₁])
  have hinv₁ : Inv log decode s₁ := h.handle hgrow rfl rfl
    (fun rest hr => absurd (hpolling.symm.trans hr) (by simp))
    (fun hc => absurd (hpolling.symm.trans hc) (by simp)) rfl rfl
  have hmoved : Inv log decode (s₁.moveTo p (o + 1)) :=
    hinv₁.moveTo ((Next.covered hinv₁ hnext).skip hdone)
  have hbelow : Below (Live log p) (s₁.Handled log decode p) (o + 1) := by
    have hcov := hmoved.covered p
    have hnil : offsetsOf s.batch p = [] := by
      rw [eq_nil_iff_forall_not_mem]
      intro x hx
      obtain ⟨b, hb, hp, -⟩ := mem_offsetsOf.mp hx
      exact hfree b hb hp
    simp only [Pipeline.moveTo, update_self, hs₁, hnil, nil_append] at hcov
    exact hcov.1
  refine { hmoved with requests := forall_mem_concat hmoved.requests fun q v hv => ?_ }
  rw [commitOne] at hv
  split_ifs at hv with hq
  cases hv
  rw [hq]
  exact hbelow

/-- A poison record finds none of its partition in the buffer. -/
def Pipeline.RecvCareful (log : ℕ → ℕ → Option (Option Bytes)) (decode : Bytes → Option Envelope)
    (inputTopic : String) (s : Pipeline) (p o : ℕ) (now : ℤ) : Prop :=
  ∀ payload, log p o = some (some payload) →
    parseAndValidate decode inputTopic now payload = none → ∀ b ∈ s.batch, b.partition ≠ p

instance (s : Pipeline) (p o : ℕ) (now : ℤ) :
    Decidable (s.RecvCareful log decode inputTopic p o now) :=
  match h : log p o with
  | some (some payload) =>
    decidable_of_iff (parseAndValidate decode inputTopic now payload = none →
      ∀ b ∈ s.batch, b.partition ≠ p) (by simp [RecvCareful, h])
  | some none => isTrue (by simp [RecvCareful, h])
  | none => isTrue (by simp [RecvCareful, h])

lemma Inv.recv {now : ℤ} (hok : s.RecvCareful log decode inputTopic p o now)
    (hs : s.recv log decode inputTopic batchSize p o now = some s') : Inv log decode s' := by
  simp only [Pipeline.recv] at hs
  split_ifs at hs with hc
  obtain ⟨-, hpolling, hnext⟩ := hc
  split at hs
  · cases hs
  · rename_i hlog
    cases hs
    exact h.pass hnext fun hlive => hlive (by rw [hlog]; rfl)
  · rename_i payload hlog
    cases hs
    rw [accept]
    split
    · rename_i raw hraw
      refine h.buffer hnext ?_ ?_
      · rw [recordKey, hlog]
        exact parseAndValidate_key hraw
      · split_ifs
        · exact .inr rfl
        · exact .inl rfl
    · rename_i hnone
      exact h.poison hnext hpolling (hok payload hlog hnone)

lemma Inv.insert {ok applied : Bool} (hs : s.insert ok applied = some s') : Inv log decode s' := by
  simp only [Pipeline.insert] at hs
  split at hs
  · cases hs
    refine h.handle (fun p o ho => ?_) rfl rfl (fun rest hr b hb => ?_) (fun hc b hb => ?_) rfl rfl
    · refine ho.mono (fun _ hm => hm) (fun _ hm => hm) fun k hk => ?_
      simp only
      split_ifs
      · exact mem_append_left _ hk
      · exact hk
    · simp only at hr
      split_ifs at hr
      cases hr
      exact .inr hb
    · simp only at hc
      split_ifs at hc with hok
      refine .inr (.inr ⟨b.raw.key, h.keys b hb, ?_⟩)
      simp only [hok, Bool.true_or, if_true]
      exact mem_append_right _ (mem_map_of_mem hb)
  · cases hs

lemma Inv.deadLetter {ok : Bool} (hs : s.deadLetter ok = some s') : Inv log decode s' := by
  simp only [Pipeline.deadLetter] at hs
  split at hs
  · rename_i b rest hphase
    cases hs
    have hrest : ∀ b' ∈ s.batch, (b' = b ∨ s.Handled log decode b'.partition b'.offset) ∨
      b' ∈ rest := by
      intro b' hb'
      rcases h.deadLettering _ hphase b' hb' with hh | hmem
      · exact .inl (.inr hh)
      · rcases mem_cons.mp hmem with rfl | hmem
        · exact .inl (.inl rfl)
        · exact .inr hmem
    refine h.handle (fun p o ho => ?_) rfl rfl (fun rest' hr b' hb' => ?_) (fun hc b' hb' =>
      ?_) rfl rfl
    · exact ho.mono (fun _ hm => hm) (subset_append_left _ _) fun _ hm => hm
    · simp only at hr
      split_ifs at hr
      cases hr
      refine (hrest b' hb').imp_left ?_
      rintro (rfl | hh)
      · exact .inr (.inl (by simp))
      · exact hh.mono (fun _ hm => hm) (subset_append_left _ _) fun _ hm => hm
    · simp only at hc
      split_ifs at hc with hnil
      rcases hrest b' hb' with (rfl | hh) | hmem
      · exact .inr (.inl (by simp))
      · exact hh.mono (fun _ hm => hm) (subset_append_left _ _) fun _ hm => hm
      · rw [hnil] at hmem
        exact absurd hmem not_mem_nil
  · exact absurd hs (by simp)

lemma Inv.commit (hs : s.commit = some s') : Inv log decode s' := by
  simp only [Pipeline.commit] at hs
  split at hs
  · rename_i hphase
    cases hs
    have hdone : ∀ p, ∀ o ∈ offsetsOf s.batch p, s.Handled log decode p o := by
      intro p o ho
      obtain ⟨b, hb, rfl, rfl⟩ := mem_offsetsOf.mp ho
      exact h.committing hphase b hb
    refine ⟨fun b hb => absurd hb (by simp), fun p => (h.covered p).drop (hdone p),
      nofun, nofun, h.committed,
      forall_mem_concat h.requests fun p v hv => ?_⟩
    rw [batchOffsets, Option.map_eq_some_iff] at hv
    obtain ⟨m, hm, rfl⟩ := hv
    have hbelow := (covered_append.mp (h.covered p)).1.below_mem (max?_mem hm)
    exact hbelow.mono fun x hx => hx.elim id (hdone p x)
  · cases hs

lemma Inv.applyCommit (hs : s.applyCommit = some s') : Inv log decode s' := by
  simp only [Pipeline.applyCommit] at hs
  split at hs
  · rename_i r requests hreq
    cases hs
    refine { h with committed := fun p => ?_, requests := fun r' hr' => ?_ }
    · cases hv : r p with
      | none =>
        simp only [hv, Option.getD_none]
        exact h.committed p
      | some v =>
        simp only [hv, Option.getD_some]
        exact h.requests r (by simp [hreq]) p v hv
    · exact h.requests r' (by rw [hreq]; exact mem_cons_of_mem _ hr')
  · cases hs

lemma Inv.crash : Inv log decode s.crash where
  __ := h
  keys _ hb := nomatch hb
  covered p := ⟨h.committed p, trivial⟩
  deadLettering _ hr := nomatch hr
  committing hc := nomatch hc

lemma Inv.rebalance (p : ℕ) : Inv log decode (s.moveTo p (s.committed p)) :=
  h.moveTo (covered_append.mpr ⟨(covered_append.mp (h.covered p)).1,
    (h.committed p).mono fun _ => .inl, trivial⟩)

/-! ## Runs -/

def Pipeline.Careful (log : ℕ → ℕ → Option (Option Bytes)) (decode : Bytes → Option Envelope)
    (inputTopic : String) (s : Pipeline) : Event → Prop
  | .recv p o now => s.RecvCareful log decode inputTopic p o now
  | .recvPaused p o => ¬ Live log p o
  | _ => True

instance (s : Pipeline) : ∀ ev, Decidable (s.Careful log decode inputTopic ev)
  | .recv p o now => inferInstanceAs (Decidable (s.RecvCareful log decode inputTopic p o now))
  | .recvPaused p o => inferInstanceAs (Decidable (¬ (log p o).join ≠ none))
  | .pause | .resume | .deadline | .insert _ _ | .deadLetter _ | .commit | .applyCommit |
      .dropCommit | .rebalance _ | .crash => isTrue trivial

/-- **Every careful step keeps the invariant.** -/
lemma Inv.step {ev : Event} (hok : s.Careful log decode inputTopic ev)
    (hs : s.step log decode inputTopic batchSize ev = some s') : Inv log decode s' := by
  cases ev with
  | pause | resume =>
    simp only [Pipeline.step] at hs
    split_ifs at hs
    cases hs
    exact { h with }
  | recvPaused p o =>
    simp only [Pipeline.step, recvPaused] at hs
    split_ifs at hs with hc
    cases hs
    exact h.pass hc.2.2.1 hok
  | recv p o now => exact h.recv hok hs
  | deadline =>
    simp only [Pipeline.step] at hs
    split_ifs at hs
    cases hs
    exact { h with deadLettering := fun _ hr => (nomatch hr), committing := fun hc => (nomatch hc) }
  | insert ok applied => exact h.insert hs
  | deadLetter ok => exact h.deadLetter hs
  | commit => exact h.commit hs
  | applyCommit => exact h.applyCommit hs
  | dropCommit =>
    simp only [Pipeline.step] at hs
    split_ifs at hs
    cases hs
    exact { h with requests := fun r hr => h.requests r (mem_of_mem_tail hr) }
  | rebalance p =>
    cases hs
    exact h.rebalance p
  | crash =>
    cases hs
    exact h.crash

end Steps

/-- **Everything below a committed offset is handled**, in every run in which no poison record comes
in over buffered records of its partition and nothing is handed over while paused. -/
theorem committed_below_handled {evs : List Event}
    (hok : Meets (step log decode inputTopic batchSize)
      (Careful log decode inputTopic) init evs)
    (hrun : run (step log decode inputTopic batchSize) init evs = some s)
    {p o : ℕ} {payload : Bytes} (hlog : log p o = some (some payload)) (ho : o < s.committed p) :
    s.Handled log decode p o := by
  have hinv : Inv log decode s :=
    run_invariant (fun _ _ _ h hc hs => Inv.step h hc hs) Inv.init hok hrun
  exact hinv.committed p o ho (by rw [Live, hlog]; simp)

/-! ## Two partitions -/

def readingJson : Bytes :=
  ("\x7b\"id\":\"22222222-2222-2222-2222-222222222222\",\"type\":\"telemetry.raw\"," ++
    "\"source\":\"edge\",\"time\":\"2026-07-24T12:00:00Z\",\"data\":\x7b" ++
    "\"bus_id\":\"00000000-0000-0000-0000-000000000007\",\"ts\":\"2026-07-24T12:00:00Z\"," ++
    "\"speed_kph\":42,\"h2_level_pct\":63,\"fuel_cell_kw\":55,\"battery_soc_pct\":81," ++
    "\"odometer_km\":12345,\"lat\":52,\"lon\":13\x7d\x7d").toUTF8.data.toList

/-- What the document says. -/
def reading : Envelope where
  kind := "telemetry.raw"
  data :=
    { busID := 7, ts := 1784894400000000000, speedKph := 42, h2LevelPct := 63, fuelCellKw := 55
      batterySocPct := 81, odometerKm := 12345, lat := 52, lon := 13, energyLevelPct := none
      powertrainKw := none, energyType := none }

def decodeReading (payload : Bytes) : Option Envelope :=
  if payload = readingJson then some reading else none

/-- The reading in partition 0 and an empty document in partition 1. -/
def twoPartitions : ℕ → ℕ → Option (Option Bytes)
  | 0, 0 => some (some readingJson)
  | 1, 0 => some (some [])
  | _, _ => none

/-- The reading is buffered, the empty document committed, the insert fails and succeeds, and a
crash follows the commit. -/
def retriedRun : List Event :=
  [.recv 0 0 1784894401000000000, .recv 1 0 1784894401000000000, .applyCommit, .deadline,
    .insert false false, .insert true false, .commit, .applyCommit, .crash]

theorem committed_below_handled_retried :
    ∃ s, run (step twoPartitions decodeReading "telemetry.raw" 500) init
        retriedRun = some s ∧ s.committed 0 = 1 ∧ s.Handled twoPartitions decodeReading 0 0 := by
  obtain ⟨s, hrun, hcommitted⟩ :
      ∃ s, run (step twoPartitions decodeReading "telemetry.raw" 500) init
        retriedRun = some s ∧ s.committed 0 = 1 := by decide +kernel
  refine ⟨s, hrun, hcommitted, committed_below_handled (by decide +kernel) hrun rfl ?_⟩
  rw [hcommitted]
  exact Nat.one_pos

/-- The last insert attempt fails and so does the publish. -/
def deadLetteredRun : List Event :=
  [.recv 0 0 1784894401000000000, .deadline] ++ replicate maxFlushAttempts (.insert false false) ++
    [.deadLetter false, .commit, .applyCommit]

/-- **A commit over a valid record that is nowhere.** -/
theorem dead_letter_failure_commits :
    (parseAndValidate decodeReading "telemetry.raw" 1784894401000000000 readingJson).isSome ∧
      ∃ s, run (step twoPartitions decodeReading "telemetry.raw" 500) init
          deadLetteredRun = some s ∧
        s.committed 0 = 1 ∧ s.telemetry = [] ∧ s.rejected = [] ∧ s.published = [] := by
  decide +kernel

/-! ## What is stored -/

/-- `parse_and_validate` has made `r` of what stands at the offset, and it passes. -/
def Parsed (log : ℕ → ℕ → Option (Option Bytes)) (decode : Bytes → Option Envelope)
    (inputTopic : String) (p o : ℕ) (r : Option TelemetryRaw) : Prop :=
  ∃ now payload, log p o = some (some payload) ∧ parseAndValidate decode inputTopic now
    payload = r ∧ ∀ raw ∈ r, validate now raw = .ok () ∧ normalizeEnergyFields raw = raw

structure Sourced (log : ℕ → ℕ → Option (Option Bytes)) (decode : Bytes → Option Envelope)
    (inputTopic : String) (s : Pipeline) : Prop where
  batch : ∀ b ∈ s.batch, Parsed log decode inputTopic b.partition b.offset (some b.raw)
  deadLettering : ∀ rest, s.phase = .deadLettering rest → rest ⊆ s.batch
  telemetry : ∀ k ∈ s.telemetry, ∃ p o raw, Parsed log decode inputTopic p o (some raw) ∧
    raw.key = k
  deadLettered : ∀ x ∈ s.deadLettered, ∃ raw, Parsed log decode inputTopic x.1 x.2 (some raw)
  rejected : ∀ x ∈ s.rejected, Parsed log decode inputTopic x.1 x.2 none

section Sources

variable (h : Sourced log decode inputTopic s)
include h

lemma Sourced.accept {now : ℤ} {payload : Bytes} (hlog : log p o = some (some payload)) :
    Sourced log decode inputTopic (s.accept decode inputTopic batchSize p o now payload) := by
  rw [Pipeline.accept]
  split
  · rename_i raw hraw
    refine { h with
      batch := forall_mem_concat h.batch ⟨now, payload, hlog, hraw, ?_⟩
      deadLettering := fun rest hr => ?_ }
    · rintro _ ⟨⟩
      exact parseAndValidate_wellFormed hraw
    · simp only at hr
      split_ifs at hr
  · rename_i hnone
    exact { h with rejected := forall_mem_concat h.rejected ⟨now, payload, hlog, hnone, by simp⟩ }

lemma Sourced.insert {ok applied : Bool} (hs : s.insert ok applied = some s') :
    Sourced log decode inputTopic s' := by
  simp only [Pipeline.insert] at hs
  split at hs <;> cases hs
  refine { h with deadLettering := fun rest hr => ?_, telemetry := fun k hk => ?_ }
  · simp only at hr
    split_ifs at hr
    cases hr
    exact Subset.refl _
  · simp only at hk
    split_ifs at hk
    · rcases mem_append.mp hk with hk | hk
      · exact h.telemetry k hk
      · obtain ⟨b, hb, rfl⟩ := mem_map.mp hk
        exact ⟨_, _, _, h.batch b hb, rfl⟩
    · exact h.telemetry k hk

lemma Sourced.deadLetter {ok : Bool} (hs : s.deadLetter ok = some s') :
    Sourced log decode inputTopic s' := by
  simp only [Pipeline.deadLetter] at hs
  split at hs <;> cases hs
  rename_i b rest hphase
  have hsub := h.deadLettering _ hphase
  refine { h with
    deadLettering := fun rest' hr => ?_
    deadLettered := forall_mem_concat h.deadLettered ⟨_, h.batch b (hsub mem_cons_self)⟩ }
  simp only at hr
  split_ifs at hr
  cases hr
  exact fun _ hb => hsub (mem_cons_of_mem _ hb)

lemma Sourced.step {ev : Event} (hs : s.step log decode inputTopic batchSize ev = some s') :
    Sourced log decode inputTopic s' := by
  cases ev with
  | recv p o now =>
    simp only [Pipeline.step, Pipeline.recv] at hs
    split_ifs at hs
    split at hs <;> cases hs
    · exact { h with }
    · exact h.accept ‹_›
  | insert ok applied => exact h.insert hs
  | deadLetter ok => exact h.deadLetter hs
  | commit =>
    simp only [Pipeline.step, Pipeline.commit] at hs
    split at hs <;> cases hs
    exact { h with batch := by simp, deadLettering := by simp }
  | applyCommit =>
    simp only [Pipeline.step, Pipeline.applyCommit] at hs
    split at hs <;> cases hs
    exact { h with }
  | crash =>
    cases hs
    exact { h with batch := by simp [Pipeline.crash], deadLettering := by simp [Pipeline.crash] }
  | rebalance p =>
    cases hs
    exact { h with }
  | deadline =>
    simp only [Pipeline.step] at hs
    split_ifs at hs
    cases hs
    exact { h with deadLettering := by simp }
  | pause | resume | recvPaused p o | dropCommit =>
    simp only [Pipeline.step, recvPaused] at hs
    split_ifs at hs
    cases hs
    exact { h with }

end Sources

/-- **Only plausible records are stored or dead-lettered, and only others rejected.** -/
theorem stored_records_valid {evs : List Event}
    (hrun : run (step log decode inputTopic batchSize) init evs = some s) :
    (∀ k ∈ s.telemetry, ∃ p o raw, Parsed log decode inputTopic p o (some raw) ∧ raw.key = k) ∧
      (∀ x ∈ s.deadLettered, ∃ raw, Parsed log decode inputTopic x.1 x.2 (some raw)) ∧
      ∀ x ∈ s.rejected, Parsed log decode inputTopic x.1 x.2 none := by
  have hinit : Sourced log decode inputTopic init := by constructor <;> simp [init]
  have h := run_invariant_always (fun _ _ _ h hs => Sourced.step h hs) hinit hrun
  exact ⟨h.telemetry, h.deadLettered, h.rejected⟩

theorem stored_records_valid_retried :
    ∃ s, run (step twoPartitions decodeReading "telemetry.raw" 500) init retriedRun = some s ∧
      (1, 0) ∈ s.rejected ∧ Parsed twoPartitions decodeReading "telemetry.raw" 1 0 none := by
  obtain ⟨s, hrun, hrejected⟩ : ∃ s, run (step twoPartitions decodeReading "telemetry.raw" 500) init
      retriedRun = some s ∧ (1, 0) ∈ s.rejected := by
    decide +kernel
  exact ⟨s, hrun, hrejected, (stored_records_valid hrun).2.2 _ hrejected⟩

end H2Fleet.Ingest
