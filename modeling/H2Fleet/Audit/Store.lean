import H2Fleet.Core.Run
import H2Fleet.Core.HashChain
import H2Fleet.Audit.Timestamp
import H2Fleet.Core.Table

/-!
# The hash-chained audit store

`internal/store` of the audit-log service: `ChainHash`, `scanEntry`, `Append` and `Verify` over the
table `platform.audit_log`.

**Outside the repository.**  SHA-256 with its hex digest is the parameter `sha256`.  Postgres'
`jsonb` is the structure `Jsonb`: the text of a document casts back to it, and is never empty.

**Rows and entries.**  An `Entry` is the Go value, with instants in nanoseconds and raw JSON text; a
`Row` is what the table holds, with whole microseconds and documents.  `scanEntry` reads a row back.

**Append** runs step by step (`step`): the timestamp is assigned before the transaction begins, then
come the advisory lock, the read of the chain head, the insert and the commit.
-/

namespace H2Fleet.Audit

/-! ## Entries and rows -/

/-- Postgres' `jsonb`: documents, `$1::jsonb` and `::text`. -/
structure Jsonb where
  Doc : Type
  parse : String → Option Doc
  text : Doc → String
  parse_text : ∀ d, parse (text d) = some d
  text_ne_empty : ∀ d, text d ≠ ""

/-- An element of the `actor_roles` document: a string, null, or another value by its text. -/
inductive RoleItem where
  | str (s : String)
  | null
  | other (text : String)
  deriving DecidableEq

/-- The `actor_roles` document: null, an array, or another value by its text. -/
inductive RolesDoc where
  | null
  | array (items : List RoleItem)
  | other (text : String)
  deriving DecidableEq

/-- `json.Marshal` of a `[]string`; `none` is the nil slice. -/
def marshalRoles : Option (List String) → RolesDoc
  | none => .null
  | some roles => .array (roles.map .str)

/-- A JSON null leaves the zero string in its place. -/
def unmarshalItem : RoleItem → Option String
  | .str s => some s
  | .null => some ""
  | .other _ => none

/-- `json.Unmarshal` into a `[]string`; `none` is an error. -/
def unmarshalRoles : RolesDoc → Option (Option (List String))
  | .null => some none
  | .array items => (items.mapM unmarshalItem).map some
  | .other _ => none

def zeroTime : ℤ := -62135596800 * nanosPerSecond

/-- `store.Entry`.  `ts` counts nanoseconds since the epoch. -/
structure Entry where
  id : ℕ
  actorSub : String
  actorRoles : Option (List String)
  action : String
  entity : String
  entityID : String
  before : Option String
  after : Option String
  ip : String
  ua : String
  ts : ℤ
  prevHash : String
  hash : String

/-- A row of `platform.audit_log`.  `ts` counts microseconds; ids start at 1. -/
structure Row (J : Jsonb) where
  id : ℕ
  id_pos : 0 < id
  actorSub : String
  actorRoles : RolesDoc
  action : String
  entity : String
  entityID : String
  before : Option J.Doc
  after : Option J.Doc
  ip : String
  ua : String
  ts : ℤ
  prevHash : String
  hash : String

variable {J : Jsonb}

/-- `scanEntry`: roles that do not decode are read as nil. -/
def scanEntry (r : Row J) : Entry where
  id := r.id
  actorSub := r.actorSub
  actorRoles := (unmarshalRoles r.actorRoles).getD none
  action := r.action
  entity := r.entity
  entityID := r.entityID
  before := r.before.map J.text
  after := r.after.map J.text
  ip := r.ip
  ua := r.ua
  ts := ofMicros r.ts
  prevHash := r.prevHash
  hash := r.hash

/-! ## The chain hash -/

def rawText (raw : Option String) : String := raw.getD ""

def joinRoles (roles : Option (List String)) : String := String.intercalate "," (roles.getD [])

/-- The payload fields, in the order of `ChainHash`. -/
def payloadFields (e : Entry) : List String :=
  [e.actorSub, joinRoles e.actorRoles, e.action, e.entity, e.entityID, rawText e.before,
    rawText e.after, e.ip, e.ua, formatRFC3339Nano e.ts]

variable (sha256 : List UInt8 → String)

def fieldsHash (prevHash : String) (fields : List String) : String :=
  sha256 (encodeFields (prevHash :: fields))

def chainHash (prevHash : String) (e : Entry) : String :=
  fieldsHash sha256 prevHash (payloadFields e)

/-- A collision-free digest that is never empty makes a lawful chain. -/
lemma fieldsHash_laws {sha256 : List UInt8 → String} (hinj : Function.Injective sha256)
    (hne : ∀ b, sha256 b ≠ "") : HashLaws (fieldsHash sha256) "" where
  collisionFree h := by
    have hcons := encodeFields_inj (hinj h)
    exact List.cons.inj hcons
  ne_genesis p b := hne _

/-! ## A digest with known values

A total, collision-free function that takes the listed values on the listed inputs: digests on
concrete chains are SHA-256's own. -/

def knownDigest (known : List (List UInt8 × String)) (b : List UInt8) : String :=
  (known.lookup b).getD (String.ofList ('x' :: b.map fun u => Char.ofNat u.toNat))

lemma ofNat_toNat_inj {u v : UInt8} (h : Char.ofNat u.toNat = Char.ofNat v.toNat) : u = v := by
  have key : ∀ n < 256, (Char.ofNat n).toNat = n := by decide +kernel
  have hval := congrArg Char.toNat h
  rw [key _ u.toNat_lt, key _ v.toNat_lt] at hval
  exact UInt8.toNat_inj.mp hval

lemma knownDigest_injective {known : List (List UInt8 × String)}
    (hnodup : (known.map Prod.snd).Nodup)
    (hhex : ∀ d ∈ known.map Prod.snd, d.toList.head? ≠ some 'x') :
    Function.Injective (knownDigest known) := by
  refine onTable_injective hnodup ?_ fun d hd b heq => hhex d hd (by rw [heq]; simp)
  intro b c h
  rw [String.ofList_inj, List.cons.injEq] at h
  exact List.map_injective_iff.mpr (fun _ _ => ofNat_toNat_inj) h.2

lemma knownDigest_ne_empty {known : List (List UInt8 × String)}
    (hne : ∀ d ∈ known.map Prod.snd, d ≠ "") (b : List UInt8) : knownDigest known b ≠ "" := by
  rw [knownDigest]
  cases hb : known.lookup b with
  | none => simp
  | some d => exact hne d (List.mem_map_of_mem (mem_of_lookup hb))

/-! ## Verify -/

/-- The loop of `Verify`: the id of the first offending row, or 0, and the number of rows. -/
def verifyFrom : String → ℕ → List (Row J) → ℕ × ℕ
  | _, checked, [] => (0, checked)
  | prevHash, checked, r :: rows =>
    let e := scanEntry r
    if e.prevHash ≠ prevHash then (e.id, checked + 1)
    else if chainHash sha256 prevHash e ≠ e.hash then (e.id, checked + 1)
    else verifyFrom e.hash (checked + 1) rows

/-- `PGStore.Verify` over the table in id order. -/
def verify (rows : List (Row J)) : ℕ × ℕ :=
  verifyFrom sha256 "" 0 rows

def rowLink (r : Row J) : Link (List String) String where
  body := payloadFields (scanEntry r)
  prev := r.prevHash
  hash := r.hash

lemma verifyFrom_iff : ∀ (prevHash : String) (checked : ℕ)
    (rows : List (Row J)), ((verifyFrom sha256 prevHash checked rows).1 = 0 ↔
        Linked (fieldsHash sha256) prevHash (rows.map rowLink)) ∧
      ((verifyFrom sha256 prevHash checked rows).1 = 0 →
        verifyFrom sha256 prevHash checked rows = (0, checked + rows.length))
  | prevHash, checked, [] => by simp [verifyFrom, Linked]
  | prevHash, checked, r :: rows => by
    have ih := verifyFrom_iff r.hash (checked + 1) rows
    rw [List.map_cons, Linked]
    have hid : (scanEntry r).id ≠ 0 := r.id_pos.ne'
    by_cases hprev : r.prevHash = prevHash
    · by_cases hhash : chainHash sha256 prevHash (scanEntry r) = r.hash
      · have hstep : verifyFrom sha256 prevHash checked (r :: rows)
            = verifyFrom sha256 r.hash (checked + 1) rows := by
          simp [verifyFrom, scanEntry, hprev] at hhash ⊢
          simp [hhash]
        rw [hstep]
        refine ⟨ih.1.trans ⟨fun h => ⟨hprev, hhash, h⟩, fun h => h.2.2⟩, fun h => ?_⟩
        rw [ih.2 h, List.length_cons]
        congr 1
        omega
      · have hstep : verifyFrom sha256 prevHash checked (r :: rows) = (r.id, checked + 1) := by
          have hh : chainHash sha256 prevHash (scanEntry r) ≠ (scanEntry r).hash := hhash
          have hp : (scanEntry r).prevHash = prevHash := hprev
          rw [verifyFrom]
          simp only [hp, ne_eq, not_true_eq_false, if_false, hh, not_false_eq_true, if_true]
          rfl
        rw [hstep]
        exact ⟨⟨fun h => absurd h hid, fun h => absurd h.2.1 hhash⟩, fun h => absurd h hid⟩
    · have hstep : verifyFrom sha256 prevHash checked (r :: rows) = (r.id, checked + 1) := by
        have hp : (scanEntry r).prevHash ≠ prevHash := hprev
        rw [verifyFrom]
        simp only [hp, ne_eq, not_false_eq_true, if_true]
        rfl
      rw [hstep]
      exact ⟨⟨fun h => absurd h hid, fun h => absurd h.1 hprev⟩, fun h => absurd h hid⟩

lemma verify_ok_iff_linked (rows : List (Row J)) :
    (verify sha256 rows).1 = 0 ↔ Linked (fieldsHash sha256) "" (rows.map rowLink) :=
  (verifyFrom_iff sha256 "" 0 rows).1

lemma verify_eq_iff_linked (rows : List (Row J)) :
    verify sha256 rows = (0, rows.length) ↔ Linked (fieldsHash sha256) "" (rows.map rowLink) := by
  rw [← verify_ok_iff_linked]
  constructor
  · intro h; rw [h]
  · intro h
    have := (verifyFrom_iff sha256 "" 0 rows).2 h
    rwa [Nat.zero_add] at this

end H2Fleet.Audit
