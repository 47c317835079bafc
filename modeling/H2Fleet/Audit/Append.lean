import H2Fleet.Audit.Store

/-!
# Appending to the audit chain

The steps of `PGStore.Append`, for any number of interleaved calls, and when the chain they build
verifies.

`Append` normalises `before` and `after` through `jsonb` so that the hash covers the text `Verify`
will read back.  It does not do the same for the timestamp: the hash covers the nanoseconds of
`time.Now()`, the column keeps microseconds.
-/

namespace H2Fleet.Audit

open List Function

variable {J : Jsonb}

/-! ## The statements of the transaction -/

inductive AppendError where
  | invalidBefore
  | invalidAfter
  | insert

def AppendError.text : AppendError → String
  | .invalidBefore => "invalid before JSON"
  | .invalidAfter => "invalid after JSON"
  | .insert => "insert audit entry"

/-- `SELECT $1::jsonb::text` on an optional document. -/
def normalize (J : Jsonb) (err : AppendError) : Option String → Except AppendError (Option String)
  | none => .ok none
  | some raw =>
    match J.parse raw with
    | none => .error err
    | some d => .ok (some (J.text d))

/-- The entry as it is hashed, with the chain head as `prevHash`. -/
def sealEntry (J : Jsonb) (sha256 : List UInt8 → String) (prevHash : String) (e : Entry) :
    Except AppendError Entry :=
  match normalize J .invalidBefore e.before with
  | .error err => .error err
  | .ok before =>
    match normalize J .invalidAfter e.after with
    | .error err => .error err
    | .ok after =>
      let e' := { e with before := before, after := after, prevHash := prevHash }
      .ok { e' with hash := chainHash sha256 prevHash e' }

/-- Text that Postgres accepts: every character but NUL. -/
def storable (s : String) : Prop := Char.ofNat 0 ∉ s.toList
  deriving Decidable

/-- The first and the last instant of a `timestamptz`, in microseconds. -/
def minMicros : ℤ := -210866803200000000
def endMicros : ℤ := 9224318016000000000

/-- The INSERT goes through: no NUL in any text, and an instant in range. -/
def insertable (e : Entry) : Prop :=
  (∀ s ∈ [e.actorSub, e.action, e.entity, e.entityID, e.ip, e.ua] ++ e.actorRoles.getD [],
    storable s) ∧ minMicros ≤ toMicros e.ts ∧ toMicros e.ts < endMicros
  deriving Decidable

/-- The row that the INSERT writes for a sealed entry. -/
def insertRow (J : Jsonb) (id : ℕ) (e : Entry) : Row J where
  id := id + 1
  id_pos := Nat.succ_pos id
  actorSub := e.actorSub
  actorRoles := marshalRoles e.actorRoles
  action := e.action
  entity := e.entity
  entityID := e.entityID
  before := e.before.bind J.parse
  after := e.after.bind J.parse
  ip := e.ip
  ua := e.ua
  ts := toMicros e.ts
  prevHash := e.prevHash
  hash := e.hash

/-! ## The step function -/

inductive AppendCall (J : Jsonb) where
  | idle
  | begun (e : Entry)
  | locked (e : Entry)
  | linked (e : Entry) (prevHash : String)
  | inserted (e : Entry) (row : Row J)
  | done (e : Entry)
  | failed

/-- The table, the last value of its sequence, the holder of the advisory lock, the calls. -/
structure Db (J : Jsonb) where
  rows : List (Row J)
  seq : ℕ
  lock : Option ℕ
  calls : ℕ → AppendCall J

def Db.empty (J : Jsonb) : Db J := ⟨[], 0, none, fun _ => .idle⟩

inductive Event where
  | start (i : ℕ) (e : Entry) (now : ℤ)
  | lock (i : ℕ)
  | readHead (i : ℕ)
  | insert (i : ℕ)
  | commit (i : ℕ)
  | abort (i : ℕ)

def Db.setCall (db : Db J) (i : ℕ) (c : AppendCall J) : Db J :=
  { db with calls := update db.calls i c }

/-- `SELECT hash FROM platform.audit_log ORDER BY id DESC LIMIT 1`, or the empty string. -/
def chainHead (rows : List (Row J)) : String := (rows.getLast?.map Row.hash).getD ""

/-- One statement of one call.  `abort` ends a call anywhere, rolls back and releases the lock. -/
def step (sha256 : List UInt8 → String) (db : Db J) : Event → Option (Db J)
  | .start i e now =>
    match db.calls i with
    | .idle => some (db.setCall i (.begun { e with ts := if e.ts = zeroTime then now else e.ts }))
    | _ => none
  | .lock i =>
    match db.calls i, db.lock with
    | .begun e, none => some { db.setCall i (.locked e) with lock := some i }
    | _, _ => none
  | .readHead i =>
    match db.calls i with
    | .locked e => some (db.setCall i (.linked e (chainHead db.rows)))
    | _ => none
  | .insert i =>
    match db.calls i with
    | .linked e prevHash =>
      match sealEntry J sha256 prevHash e with
      | .ok e' =>
        if insertable e' then
          some { db.setCall i (.inserted e' (insertRow J db.seq e')) with seq := db.seq + 1 }
        else some { db.setCall i .failed with lock := none }
      | .error _ => some { db.setCall i .failed with lock := none }
    | _ => none
  | .commit i =>
    match db.calls i with
    | .inserted e row =>
      some { db.setCall i (.done { e with id := row.id }) with
        rows := db.rows ++ [row], lock := none }
    | _ => none
  | .abort i =>
    match db.calls i with
    | .begun _ => some (db.setCall i .failed)
    | .locked _ | .linked _ _ | .inserted _ _ =>
      some { db.setCall i .failed with lock := none }
    | _ => none

/-! ## What a step can do -/

def AppendCall.Holds : AppendCall J → Prop
  | .locked _ | .linked _ _ | .inserted _ _ => True
  | _ => False

/-- The moves of a call, with everything a step changes. -/
inductive Move (sha256 : List UInt8 → String) (db : Db J) : Db J → Prop
  | start (i : ℕ) (e : Entry) (h : db.calls i = .idle) : Move sha256 db (db.setCall i (.begun e))
  | lock (i : ℕ) (e : Entry) (h : db.calls i = .begun e) (hfree : db.lock = none) :
      Move sha256 db { db.setCall i (.locked e) with lock := some i }
  | readHead (i : ℕ) (e : Entry) (h : db.calls i = .locked e) :
      Move sha256 db (db.setCall i (.linked e (chainHead db.rows)))
  | insert (i : ℕ) (e e' : Entry) (p : String) (h : db.calls i = .linked e p)
      (hseal : sealEntry J sha256 p e = .ok e') :
      Move sha256 db { db.setCall i (.inserted e' (insertRow J db.seq e')) with seq := db.seq + 1 }
  | commit (i : ℕ) (e : Entry) (row : Row J) (h : db.calls i = .inserted e row) :
      Move sha256 db { db.setCall i (.done { e with id := row.id }) with
        rows := db.rows ++ [row], lock := none }
  | giveUp (i : ℕ) (e : Entry) (h : db.calls i = .begun e) : Move sha256 db (db.setCall i .failed)
  | rollback (i : ℕ) (h : (db.calls i).Holds) :
      Move sha256 db { db.setCall i .failed with lock := none }

variable {sha256 : List UInt8 → String} {db db' : Db J} {e : Entry} {i : ℕ}

lemma step_move {ev : Event} (h : step sha256 db ev = some db') : Move sha256 db db' := by
  cases ev with
  | start i e now =>
    cases hc : db.calls i <;> simp only [step, hc, reduceCtorEq] at h
    cases h
    exact .start i _ hc
  | lock i =>
    cases hc : db.calls i <;> cases hl : db.lock <;> simp only [step, hc, hl, reduceCtorEq] at h
    cases h
    exact .lock i _ hc hl
  | readHead i =>
    cases hc : db.calls i <;> simp only [step, hc, reduceCtorEq] at h
    cases h
    exact .readHead i _ hc
  | insert i =>
    cases hc : db.calls i <;> simp only [step, hc, reduceCtorEq] at h
    have hholds : (db.calls i).Holds := by rw [hc]; trivial
    split at h
    · split_ifs at h
      · cases h
        exact .insert i _ _ _ hc (by assumption)
      · cases h
        exact .rollback i hholds
    · cases h
      exact .rollback i hholds
  | commit i =>
    cases hc : db.calls i <;> simp only [step, hc, reduceCtorEq] at h
    cases h
    exact .commit i _ _ hc
  | abort i =>
    cases hc : db.calls i <;> simp only [step, hc, reduceCtorEq, Option.some.injEq] at h <;> subst h
    · exact .giveUp i _ hc
    all_goals exact .rollback i (by rw [hc]; trivial)

/-! ## How an entry is read back -/

/-- The row carries the hash of the entry, and reads back as it, cut to microseconds. -/
structure Stored (sha256 : List UInt8 → String) (e : Entry) (r : Row J) : Prop where
  hash : r.hash = chainHash sha256 r.prevHash e
  fields : payloadFields (scanEntry r) = payloadFields { e with ts := ofMicros (toMicros e.ts) }

lemma unmarshal_marshalRoles (roles : Option (List String)) :
    (unmarshalRoles (marshalRoles roles)).getD none = roles := by
  cases roles with
  | none => rfl
  | some rs =>
    have hitems : (rs.map RoleItem.str).mapM unmarshalItem = some rs := by
      induction rs with
      | nil => rfl
      | cons r rs ih => simp [unmarshalItem, ih]
    simp [marshalRoles, unmarshalRoles, hitems]

lemma normalize_read {err : AppendError} {raw norm : Option String}
    (h : normalize J err raw = .ok norm) : (norm.bind J.parse).map J.text = norm := by
  cases raw with
  | none =>
    simp only [normalize] at h
    cases h
    rfl
  | some s =>
    simp only [normalize] at h
    split at h
    · cases h
    · cases h
      simp [J.parse_text]

lemma sealEntry_ok {p : String} {e' : Entry} (h : sealEntry J sha256 p e = .ok e') :
    e'.prevHash = p ∧ e'.hash = chainHash sha256 p e' ∧
    (e'.before.bind J.parse).map J.text = e'.before ∧
      (e'.after.bind J.parse).map J.text = e'.after := by
  simp only [sealEntry] at h
  split at h
  · cases h
  · rename_i hbefore
    split at h
    · cases h
    · rename_i hafter
      cases h
      exact ⟨rfl, rfl, normalize_read hbefore, normalize_read hafter⟩

lemma stored_of_insert {p : String} {e' : Entry} (id : ℕ) (h : sealEntry J sha256 p e = .ok e') :
    Stored sha256 e' (insertRow J id e') := by
  obtain ⟨hprev, hhash, hbefore, hafter⟩ := sealEntry_ok h
  constructor
  · simp only [insertRow]
    rw [hhash, hprev]
  · simp only [payloadFields, scanEntry, insertRow, hbefore, hafter, unmarshal_marshalRoles]

lemma fields_cut_iff (e : Entry) :
    payloadFields { e with ts := ofMicros (toMicros e.ts) } = payloadFields e ↔
    e.ts % 1000 = 0 := by
  rw [← ofMicros_toMicros_iff]
  constructor
  · intro h
    simp only [payloadFields, cons.injEq, true_and, and_true] at h
    exact formatRFC3339Nano_inj h
  · intro h
    rw [h]

/-! ## The invariant -/

def Chained : String → List (Row J) → Prop
  | _, [] => True
  | p, r :: rows => r.prevHash = p ∧ Chained r.hash rows

lemma chained_concat {row : Row J} : ∀ {p : String} {rows : List (Row J)}, Chained p rows →
    row.prevHash = (rows.getLast?.map Row.hash).getD p → Chained p (rows ++ [row])
  | p, [], _, hprev => ⟨hprev, trivial⟩
  | p, r :: rows, hch, hprev => by
    refine ⟨hch.1, chained_concat hch.2 ?_⟩
    rw [hprev]
    cases rows with
    | nil => rfl
    | cons r' rows => simp [getLast?_cons]

lemma linked_iff_of_chained : ∀ {p : String} {rows : List (Row J)},
    Chained p rows → (Linked (fieldsHash sha256) p (rows.map rowLink) ↔
      ∀ r ∈ rows, chainHash sha256 r.prevHash (scanEntry r) = r.hash)
  | p, [], _ => by simp [Linked]
  | p, r :: rows, hch => by
    rw [map_cons, Linked, forall_mem_cons]
    have ih : Linked (fieldsHash sha256) (rowLink r).hash (rows.map rowLink) ↔
        ∀ r' ∈ rows, chainHash sha256 r'.prevHash (scanEntry r') = r'.hash :=
      linked_iff_of_chained hch.2
    rw [ih, hch.1]
    exact ⟨fun h => ⟨h.2.1, h.2.2⟩, fun h => ⟨hch.1, h.1, h.2⟩⟩

/-- The lock serialises the calls; the rows are chained, and those of the completed calls. -/
structure Inv (sha256 : List UInt8 → String) (db : Db J) : Prop where
  holder : ∀ i, (db.calls i).Holds → db.lock = some i
  head : ∀ i e p, db.calls i = .linked e p → p = chainHead db.rows
  pending : ∀ i e row, db.calls i = .inserted e row →
    Stored sha256 e row ∧ row.prevHash = chainHead db.rows
  chained : Chained "" db.rows
  origin : ∀ r ∈ db.rows, ∃ i e, db.calls i = .done e ∧ Stored sha256 e r
  kept : ∀ i e, db.calls i = .done e → ∃ r ∈ db.rows, Stored sha256 e r

lemma Inv.empty (sha256 : List UInt8 → String) : Inv sha256 (Db.empty J) where
  holder _ h := nomatch h
  head _ _ _ h := nomatch h
  pending _ _ _ h := nomatch h
  chained := trivial
  origin _ h := nomatch h
  kept _ _ h := nomatch h

lemma setCall_calls (db : Db J) (i j : ℕ) (c : AppendCall J) :
    (db.setCall i c).calls j = if j = i then c else db.calls j := by
  simp [Db.setCall, update_apply]

variable {c : AppendCall J}

section Preservation

variable {sha256 : List UInt8 → String} {db : Db J}

lemma Inv.holder_unique (h : Inv sha256 db) {j : ℕ} (hi : (db.calls i).Holds)
    (hj : (db.calls j).Holds) : i = j :=
  Option.some.inj ((h.holder i hi).symm.trans (h.holder j hj))

/-- Moving a call that was not completed leaves the rows of completed calls. -/
lemma Inv.origin_setCall (h : Inv sha256 db) (hi : ∀ e, db.calls i ≠ .done e) :
    ∀ r ∈ db.rows, ∃ j e, (db.setCall i c).calls j = .done e ∧ Stored sha256 e r := by
  intro r hr
  obtain ⟨j, e, hj, hst⟩ := h.origin r hr
  have hne : j ≠ i := fun heq => hi e (heq ▸ hj)
  exact ⟨j, e, by rw [setCall_calls, if_neg hne, hj], hst⟩

/-- **A call moves on without completing**, whatever it does with the lock. -/
lemma Inv.setCall (h : Inv sha256 db) {seq : ℕ} {lock : Option ℕ}
    (hothers : ∀ j, j ≠ i → (db.calls j).Holds → lock = some j) (hown : c.Holds → lock = some i)
    (hhead : ∀ e p, c = .linked e p → p = chainHead db.rows)
    (hpending : ∀ e row, c = .inserted e row → Stored sha256 e row ∧
    row.prevHash = chainHead db.rows) (hdone : ∀ e, c ≠ .done e) (hi : ∀ e, db.calls i ≠ .done e) :
    Inv sha256 { db.setCall i c with lock := lock, seq := seq } where
  holder j hj := by
    simp only [setCall_calls] at hj
    split_ifs at hj with heq
    · rw [heq]
      exact hown hj
    · exact hothers j heq hj
  head j e p hj := by
    simp only [setCall_calls] at hj
    split_ifs at hj
    · exact hhead e p hj
    · exact h.head j e p hj
  pending j e row hj := by
    simp only [setCall_calls] at hj
    split_ifs at hj
    · exact hpending e row hj
    · exact h.pending j e row hj
  chained := h.chained
  origin := h.origin_setCall hi
  kept j e hj := by
    simp only [setCall_calls] at hj
    split_ifs at hj
    · exact absurd hj (hdone e)
    · exact h.kept j e hj

lemma Inv.move (h : Inv sha256 db) (hm : Move sha256 db db') : Inv sha256 db' := by
  cases hm with
  | start i e hc | giveUp i e hc =>
    exact h.setCall (fun j _ => h.holder j) (by simp [AppendCall.Holds]) (by simp) (by simp)
      (by simp) (by simp [hc])
  | lock i e hc hfree =>
    refine h.setCall (fun j _ hj => ?_) (fun _ => rfl) (by simp) (by simp) (by simp) (by simp [hc])
    rw [h.holder j hj] at hfree
    cases hfree
  | readHead i e hc =>
    have hi : (db.calls i).Holds := by rw [hc]; trivial
    refine h.setCall (fun j _ => h.holder j) (fun _ => h.holder i hi) ?_ (by simp) (by simp)
      (by simp [hc])
    rintro _ _ ⟨⟩
    rfl
  | insert i e e' p hc hseal =>
    have hi : (db.calls i).Holds := by rw [hc]; trivial
    refine h.setCall (fun j _ => h.holder j) (fun _ => h.holder i hi) (by simp) ?_ (by simp)
      (by simp [hc])
    rintro _ _ ⟨⟩
    exact ⟨stored_of_insert _ hseal, (sealEntry_ok hseal).1.trans (h.head i e p hc)⟩
  | commit i e row hc =>
    have hi : (db.calls i).Holds := by rw [hc]; trivial
    obtain ⟨hst, hprev⟩ := h.pending i e row hc
    have hst' : Stored sha256 { e with id := row.id } row := ⟨hst.hash, hst.fields⟩
    refine ⟨fun j hj => ?_, fun j e' p hj => ?_, fun j e' row' hj => ?_,
      chained_concat h.chained hprev, fun r hr => ?_, fun j e' hj => ?_⟩
    · simp only [setCall_calls] at hj
      split_ifs at hj with heq
      · cases hj
      · exact absurd (h.holder_unique hj hi) heq
    · simp only [setCall_calls] at hj
      split_ifs at hj with heq
      exact absurd (h.holder_unique (by rw [hj]; trivial) hi) heq
    · simp only [setCall_calls] at hj
      split_ifs at hj with heq
      exact absurd (h.holder_unique (by rw [hj]; trivial) hi) heq
    · rcases mem_append.mp hr with hr | hr
      · exact h.origin_setCall (by simp [hc]) r hr
      · rw [mem_singleton] at hr
        subst hr
        exact ⟨i, _, by simp [setCall_calls], hst'⟩
    · simp only [setCall_calls] at hj
      split_ifs at hj with heq
      · cases hj
        exact ⟨row, by simp, hst'⟩
      · obtain ⟨r, hr, hrst⟩ := h.kept j e' hj
        exact ⟨r, mem_append_left _ hr, hrst⟩
  | rollback i hi =>
    have hdone : ∀ e, db.calls i ≠ .done e := fun e he => by rw [he] at hi; exact hi
    exact h.setCall (fun j hne hj => absurd (h.holder_unique hj hi) hne)
      (by simp [AppendCall.Holds]) (by simp) (by simp) (by simp) hdone

end Preservation

lemma Inv.of_run {evs : List Event} (hrun : run (step sha256) (Db.empty J) evs = some db) :
    Inv sha256 db :=
  run_invariant_always (fun _ _ _ h hs => h.move (step_move hs)) (Inv.empty sha256) hrun

/-! ## The order of the ids -/

/-- The ids of the table increase, and a row about to be committed has the greatest. -/
structure Ordered (db : Db J) : Prop where
  increasing : db.rows.Pairwise (·.id < ·.id)
  drawn : ∀ r ∈ db.rows, r.id ≤ db.seq
  pending : ∀ i e row, db.calls i = .inserted e row → row.id ≤ db.seq ∧ ∀ r ∈ db.rows, r.id < row.id

lemma Ordered.empty : Ordered (Db.empty J) where
  increasing := Pairwise.nil
  drawn _ h := nomatch h
  pending _ _ _ h := nomatch h

lemma Ordered.move (h : Ordered db) (hinv : Inv sha256 db) (hm : Move sha256 db db') :
    Ordered db' := by
  cases hm with
  | start | lock | readHead | giveUp | rollback =>
    refine ⟨h.increasing, h.drawn, fun j e row hj => ?_⟩
    simp only [setCall_calls] at hj
    split_ifs at hj
    exact h.pending j e row hj
  | insert i e e' p hc hseal =>
    refine ⟨h.increasing, fun r hr => Nat.le_succ_of_le (h.drawn r hr), fun j e'' row hj => ?_⟩
    simp only [setCall_calls] at hj
    split_ifs at hj with heq
    · cases hj
      exact ⟨le_rfl, fun r hr => Nat.lt_succ_of_le (h.drawn r hr)⟩
    · obtain ⟨hle, hlt⟩ := h.pending j e'' row hj
      exact ⟨Nat.le_succ_of_le hle, hlt⟩
  | commit i e row hc =>
    obtain ⟨hle, hlt⟩ := h.pending i e row hc
    refine ⟨?_, fun r hr => ?_, fun j e' row' hj => ?_⟩
    · rw [pairwise_append]
      refine ⟨h.increasing, pairwise_singleton _ _, fun r hr r' hr' => ?_⟩
      rw [mem_singleton] at hr'
      rw [hr']
      exact hlt r hr
    · rcases mem_append.mp hr with hr | hr
      · exact h.drawn r hr
      · rw [mem_singleton] at hr
        rw [hr]
        exact hle
    · -- the lock leaves no second row about to be committed
      simp only [setCall_calls] at hj
      split_ifs at hj with heq
      exact absurd (hinv.holder_unique (by rw [hj]; trivial) (by rw [hc]; trivial)) heq

lemma Ordered.of_run {evs : List Event} (hrun : run (step sha256) (Db.empty J) evs = some db) :
    Ordered db := by
  exact (run_invariant_always (fun _ _ _ (h : Inv sha256 _ ∧ Ordered _) hs =>
    ⟨h.1.move (step_move hs), h.2.move h.1 (step_move hs)⟩) ⟨.empty sha256, .empty⟩ hrun).2

/-! ## What Verify says of the table -/

/-- The row hashes to its own hash if the entry has whole microseconds, and, without collisions,
only then. -/
lemma Stored.rehash {r : Row J} (h : Stored sha256 e r) :
    (e.ts % 1000 = 0 → chainHash sha256 r.prevHash (scanEntry r) = r.hash) ∧
      (Injective sha256 → chainHash sha256 r.prevHash (scanEntry r) = r.hash →
      e.ts % 1000 = 0) := by
  constructor
  · intro hts
    rw [h.hash, chainHash, chainHash, h.fields, (fields_cut_iff e).mpr hts]
  · intro hinj heq
    rw [h.hash] at heq
    have hcons := encodeFields_inj (hinj heq)
    rw [cons.injEq, h.fields] at hcons
    exact (fields_cut_iff e).mp hcons.2

section AfterAppends

variable {sha256 : List UInt8 → String} {evs : List Event} {db : Db J}

/-- **Verify after any interleaving of appends** accepts the table exactly when every completed call
carried whole microseconds. -/
theorem verify_after_appends (hinj : Injective sha256)
    (hrun : run (step sha256) (Db.empty J) evs = some db) :
    verify sha256 db.rows = (0, db.rows.length) ↔ ∀ i e, db.calls i = .done e →
    e.ts % 1000 = 0 := by
  have hinv := Inv.of_run hrun
  rw [verify_eq_iff_linked, linked_iff_of_chained hinv.chained]
  constructor
  · intro hok i e hdone
    obtain ⟨r, hr, hst⟩ := hinv.kept i e hdone
    exact hst.rehash.2 hinj (hok r hr)
  · intro hts r hr
    obtain ⟨i, e, hdone, hst⟩ := hinv.origin r hr
    exact hst.rehash.1 (hts i e hdone)

end AfterAppends

def boolDocs : Jsonb where
  Doc := Bool
  parse s := if s = "true" then some true else if s = "false" then some false else none
  text b := if b then "true" else "false"
  parse_text b := by cases b <;> rfl
  text_ne_empty b := by cases b <;> decide

/-- An administrator switches a setting off; `Append` assigns the time. -/
def settingChange : Entry where
  id := 0
  actorSub := "admin-1"
  actorRoles := some ["fleet-admin", "auditor"]
  action := "PUT"
  entity := "settings"
  entityID := "fare-cap"
  before := some "true"
  after := some "false"
  ip := "10.0.0.7"
  ua := "curl/8.5"
  ts := zeroTime
  prevHash := ""
  hash := ""

/-- One call, with nothing in its way, at the clock value `now`. -/
def appendAt (now : ℤ) : List Event :=
  [.start 0 settingChange now, .lock 0, .readHead 0, .insert 0, .commit 0]

/-- A second administrator switches the setting on again. -/
def settingRestored : Entry :=
  { settingChange with before := some "false", after := some "true" }

/-- Three overlapping calls.  Call 2 dies after its INSERT, and its id is lost; call 1 is last. -/
def appendsCrossing : List Event :=
  [.start 0 settingChange 1700000000123456000, .start 1 settingRestored 1700000001000000000,
    .lock 0, .start 2 settingChange 1700000002000000000, .readHead 0, .insert 0, .commit 0,
    .lock 2, .readHead 2, .insert 2, .abort 2, .lock 1, .readHead 1, .insert 1, .commit 1]

def settingHash : String := "5327eb50c80d0ab6a29d766aa0b2e286a70c22c38f80de8c51546c5d46205f1d"

/-- SHA-256 on the chains of `appendAt`, and on the rows of `appendsCrossing`. -/
def settingDigest : List UInt8 → String :=
  knownDigest [(encodeFields ("" :: payloadFields { settingChange with ts := 1700000000123456789 }),
        "53e36f4d5645d6c653460dc6ee485f1f034b232f5f12520d8d833ead6eb8f7a1"),
      (encodeFields ("" :: payloadFields { settingChange with ts := 1700000000123456000 }),
        settingHash),
      (encodeFields
        (settingHash :: payloadFields { settingRestored with ts := 1700000001000000000 }),
        "651e001400c4a0ecd4e232686a7ce0dc1bbfb590a6ce7020b327047980021cd6"),
      (encodeFields (settingHash :: payloadFields { settingChange with ts := 1700000002000000000 }),
        "45f8109086d8279c59ca6613e347332f892c00cbe48842d106c024a62dfdf0ba")]

lemma settingDigest_injective : Injective settingDigest :=
  knownDigest_injective (by decide) (by decide)

/-- The table of the three calls: two rows, the second of which has skipped an id. -/
theorem verify_after_appends_micros :
    ∃ db, run (step settingDigest) (Db.empty boolDocs) appendsCrossing = some db ∧
      verify settingDigest db.rows = (0, 2) := by
  have hrun : run (step settingDigest) (Db.empty boolDocs) appendsCrossing = some _ := rfl
  refine ⟨_, hrun, (verify_after_appends settingDigest_injective hrun).mpr fun i e hdone => ?_⟩
  rcases eq_or_ne i 0 with rfl | h0
  · cases hdone
    decide
  rcases eq_or_ne i 1 with rfl | h1
  · cases hdone
    decide
  · simp only [Db.setCall, update_apply, h0, h1, if_false, Db.empty] at hdone
    split_ifs at hdone

/-- **A single append does not verify.**  The clock reads 2023-11-14T22:13:20.123456789Z. -/
theorem append_at_nanoseconds_reported :
    (run (step settingDigest) (Db.empty boolDocs) (appendAt 1700000000123456789)).map
      (fun db => verify settingDigest db.rows) = some (1, 1) := by
  decide +kernel

end H2Fleet.Audit
