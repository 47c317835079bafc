import H2Fleet.Auth.Verifiers
import Mathlib.Tactic

/-!
# The Permify guard

`packages/go-auth/permify.go`: the client that `NewPermify` makes of an address, the middleware that
`Require` makes of a client, and the protobuf messages, which are written and read by hand.

**Panics.**  A Go function can return, return an error, or panic; the last two are a `Fault`.  A
pointer is an `Option`, `deref` is what happens to it in `c.log`, and `sliceFrom` is `b[n:]`.

**Fail closed.**  The package comment promises that a route is let through only if Permify is not
configured or says ALLOWED, and that without `PERMIFY_GRPC` the middleware passes through.
`Require` reads `c.log` before it looks at `c`: without a client the route cannot even be built.
-/

namespace H2Fleet.Auth.Permify

open List UInt64 Nat
open Verify (trim)

abbrev Bytes := List UInt8

/-! ## What Go does -/

inductive Panic where
  | nilDereference
  | sliceBounds

/-- A function comes to no value: it panics, or returns an error. -/
inductive Fault where
  | panic (p : Panic)
  | error (text : String)

def fail {α : Type} (text : String) : Except Fault α := .error (.error text)

def deref {α : Type} : Option α → Except Fault α
  | none => .error (.panic .nilDereference)
  | some a => .ok a

/-- `b[n:]`. -/
def sliceFrom (b : Bytes) (n : ℕ) : Except Fault Bytes :=
  if n ≤ b.length then .ok (b.drop n) else .error (.panic .sliceBounds)

/-- `int(v)` of a `uint64`. -/
def int (v : UInt64) : Int64 := v.toInt64

/-- The function returns, with a value or with an error. -/
def Returns {α : Type} (x : Except Fault α) : Prop := ∀ p, x ≠ .error (.panic p)

/-! ## Writing -/

/-- The loop runs as long as `v` does not fit into seven bits. -/
def appendVarint (b : Bytes) (v : UInt64) : Bytes :=
  if 0x80 ≤ v then appendVarint (b ++ [v.toUInt8 ||| 0x80]) (v >>> 7) else b ++ [v.toUInt8]
termination_by v.toNat
decreasing_by
  have hv : 0x80 ≤ v.toNat := by simpa [UInt64.le_iff_toNat_le] using ‹0x80 ≤ v›
  rw [UInt64.toNat_shiftRight]
  simp only [reduceToNat, Nat.reduceMod, shiftRight_eq_div_pow]
  omega

def pbVarint (field : ℕ) (v : UInt64) : Bytes :=
  appendVarint (appendVarint [] (ofNat (field <<< 3))) v

def pbBytes (field : ℕ) (b : Bytes) : Bytes :=
  appendVarint (appendVarint [] (ofNat (field <<< 3 ||| 2))) (ofNat b.length) ++ b

/-- A string of Go is any bytes. -/
def pbString (field : ℕ) (s : Bytes) : Bytes := pbBytes field s

def utf8 (s : String) : Bytes := s.toUTF8.data.toList

def permifyCheckDepth : UInt64 := 20

def marshalCheckRequest (tenant entityType entityID permission subjectID : Bytes) : Bytes :=
  let entity := pbString 1 entityType ++ pbString 2 entityID
  let subject := pbString 1 (utf8 "user") ++ pbString 2 subjectID
  let metadata := pbVarint 3 permifyCheckDepth
  pbString 1 tenant ++ pbBytes 2 metadata ++ pbBytes 3 entity ++ pbString 4 permission ++
    pbBytes 5 subject

/-! ## Reading -/

/-- The loop of `consumeVarint` from byte `i` on, with the value so far. -/
def consumeVarintFrom (v : UInt64) (i : ℕ) : Bytes → Except Fault (UInt64 × ℕ)
  | [] => fail "invalid varint"
  | x :: rest =>
    if i < 10 then
      let v := v ||| ((x &&& 0x7f).toUInt64 <<< ofNat (7 * i))
      if x < 0x80 then .ok (v, i + 1) else consumeVarintFrom v (i + 1) rest
    else fail "invalid varint"

def consumeVarint (b : Bytes) : Except Fault (UInt64 × ℕ) := consumeVarintFrom 0 0 b

def consumeTag (b : Bytes) : Except Fault (Int64 × Int64 × ℕ) := do
  let (v, n) ← consumeVarint b
  return (int (v >>> 3), int (v &&& 7), n)

/-- One turn of the loop of `parseCheckResponse`: it returns, or goes on. -/
inductive Turn where
  | can (v : Int64)
  | rest (b : Bytes)

def parseField (b : Bytes) : Except Fault Turn := do
  let (field, wire, n) ← consumeTag b
  let b ← sliceFrom b n
  if wire = 0 then
    let (v, m) ← consumeVarint b
    if field = 1 then return .can (int v)
    return .rest (← sliceFrom b m)
  else if wire = 2 then
    let (l, m) ← consumeVarint b
    let b ← sliceFrom b m
    if b.length < l.toNat then fail "truncated length-delimited field"
    else return .rest (← sliceFrom b l.toNat)
  else fail ("unsupported wire type " ++ toString wire)

/-! ## Functions that return -/

variable {α : Type} {b : Bytes} {v w : UInt64}

lemma bind_eq_ok {β : Type} {x : Except Fault α} {f : α → Except Fault β} {r : β} :
    x >>= f = .ok r ↔ ∃ a, x = .ok a ∧ f a = .ok r := by
  cases x with
  | error e => simp [bind, Except.bind]
  | ok a => simp [bind, Except.bind]

lemma returns_ok (a : α) : Returns (.ok a) := nofun

lemma returns_fail (text : String) : Returns (fail text : Except Fault α) := by
  intro p h
  simp [fail] at h

lemma sliceFrom_of_le {n : ℕ} (h : n ≤ b.length) : sliceFrom b n = .ok (b.drop n) :=
  if_pos h

lemma consumeVarintFrom_cases (v : UInt64) (i : ℕ) (b : Bytes) :
    consumeVarintFrom v i b = fail "invalid varint" ∨
      ∃ w m, consumeVarintFrom v i b = .ok (w, i + m) ∧ 0 < m ∧ m ≤ b.length := by
  induction b generalizing v i with
  | nil => exact .inl rfl
  | cons x rest ih =>
    rw [consumeVarintFrom]
    split
    · dsimp only
      split
      · exact .inr ⟨_, 1, rfl, by simp⟩
      · rcases ih _ (i + 1) with hfail | ⟨w, m, hok, hpos, hle⟩
        · exact .inl hfail
        · refine .inr ⟨w, 1 + m, by rw [hok, add_assoc], by omega, ?_⟩
          rw [length_cons]
          omega
    · exact .inl rfl

lemma consumeVarint_cases (b : Bytes) : consumeVarint b = fail "invalid varint" ∨
    ∃ w m rest, consumeVarint b = .ok (w, m) ∧ sliceFrom b m = .ok rest ∧
    rest.length < b.length := by
  rcases consumeVarintFrom_cases 0 0 b with hfail | ⟨w, m, hok, hpos, hle⟩
  · exact .inl hfail
  · refine .inr ⟨w, m, b.drop m, by rw [consumeVarint, hok, zero_add], sliceFrom_of_le hle, ?_⟩
    rw [length_drop]
    omega

lemma parseField_cases (b : Bytes) :
    (∃ text, parseField b = fail text) ∨ (∃ v, parseField b = .ok (.can v)) ∨
      ∃ rest, parseField b = .ok (.rest rest) ∧ rest.length < b.length := by
  rw [parseField, consumeTag]
  rcases consumeVarint_cases b with h | ⟨v, m, b₁, h, hslice, hlt⟩
  · rw [h]
    exact .inl ⟨_, rfl⟩
  simp only [h, hslice, bind, Except.bind, pure, Except.pure]
  split
  · rcases consumeVarint_cases b₁ with h | ⟨w, m', b₂, h, hslice, hlt'⟩
    · rw [h]
      exact .inl ⟨_, rfl⟩
    simp only [h, hslice]
    split
    · exact .inr (.inl ⟨_, rfl⟩)
    · exact .inr (.inr ⟨b₂, rfl, hlt'.trans hlt⟩)
  split
  · rcases consumeVarint_cases b₁ with h | ⟨l, m', b₂, h, hslice, hlt'⟩
    · rw [h]
      exact .inl ⟨_, rfl⟩
    simp only [h, hslice]
    split
    · exact .inl ⟨_, rfl⟩
    · next hlen =>
      rw [sliceFrom_of_le (not_lt.mp hlen)]
      refine .inr (.inr ⟨_, rfl, ?_⟩)
      rw [length_drop]
      omega
  · exact .inl ⟨_, rfl⟩

lemma parseField_rest {b' : Bytes} (h : parseField b = .ok (.rest b')) : b'.length < b.length := by
  obtain ⟨text, hfail⟩ | ⟨v, hcan⟩ | ⟨rest, hrest, hlt⟩ := parseField_cases b
  · cases h.symm.trans hfail
  · cases h.symm.trans hcan
  · cases h.symm.trans hrest
    exact hlt

/-- Field 1 of the response, as an enum value. -/
def parseCheckResponse (b : Bytes) : Except Fault Int64 :=
  if b.length > 0 then
    match _h : parseField b with
    | .error e => .error e
    | .ok (.can v) => .ok v
    | .ok (.rest b') => parseCheckResponse b'
  else fail "missing `can` field"
termination_by b.length
decreasing_by exact parseField_rest ‹_›

lemma parseCheckResponse_can {v : Int64} (hb : 0 < b.length) (h : parseField b = .ok (.can v)) :
    parseCheckResponse b = .ok v := by
  rw [parseCheckResponse, if_pos hb]
  split <;> simp_all

lemma parseCheckResponse_rest {b' : Bytes} (hb : 0 < b.length) (h : parseField b = .ok (.rest b')) :
    parseCheckResponse b = parseCheckResponse b' := by
  rw [parseCheckResponse, if_pos hb]
  split <;> simp_all

/-- **No bytes make the decoder panic.** -/
theorem parseCheckResponse_returns (b : Bytes) : Returns (parseCheckResponse b) := by
  fun_induction parseCheckResponse b with
  | case1 b hlen e h =>
    obtain ⟨text, hfail⟩ | ⟨v, hcan⟩ | ⟨rest, hrest, -⟩ := parseField_cases b
    · cases h.symm.trans hfail
      exact returns_fail _
    · cases h.symm.trans hcan
    · cases h.symm.trans hrest
  | case2 b hlen v h => exact returns_ok v
  | case3 b hlen b' h ih => exact ih
  | case4 b hlen => exact returns_fail _

/-! ## Reading what was written -/

lemma toNat_shiftRight_seven (v : UInt64) : (v >>> 7).toNat = v.toNat / 128 := by
  rw [UInt64.toNat_shiftRight]
  simp [shiftRight_eq_div_pow]

lemma appendVarint_eq_append (b : Bytes) (v : UInt64) :
    appendVarint b v = b ++ appendVarint [] v := by
  induction hn : v.toNat using Nat.strong_induction_on generalizing b v with
  | _ n ih =>
    rw [appendVarint, appendVarint.eq_def []]
    split
    · rename_i hv
      have hlt : (v >>> 7).toNat < n := by
        have : 0x80 ≤ v.toNat := by simpa [le_iff_toNat_le] using hv
        rw [toNat_shiftRight_seven]
        omega
      rw [ih _ hlt (b ++ _) _ rfl, ih _ hlt ([] ++ _) _ rfl]
      simp
    · rfl

lemma low_bits (v : UInt64) (x : UInt8) (hx : x = v.toUInt8 ∨ x = v.toUInt8 ||| 0x80) :
    (x &&& 0x7f).toUInt64.toNat = v.toNat % 128 := by
  have hmask : (0x7f : UInt8).toNat = 2 ^ 7 - 1 := rfl
  rw [UInt8.toNat_toUInt64, UInt8.toNat_and, hmask, and_two_pow_sub_one_eq_mod]
  rcases hx with rfl | rfl
  · rw [toNat_toUInt8]
    omega
  · rw [UInt8.toNat_or, toNat_toUInt8, or_mod_two_pow]
    simp

/-- `v |= low << s` above the bits that `v` has. -/
lemma toNat_or_shiftLeft {low : UInt64} {s : ℕ} (hs : s < 64) (hv : v.toNat < 2 ^ s)
    (hlow : low.toNat * 2 ^ s < 2 ^ 64) :
    (v ||| low <<< UInt64.ofNat s).toNat = v.toNat + low.toNat * 2 ^ s := by
  have hshift : (UInt64.ofNat s).toNat % 64 = s := by
    rw [toNat_ofNat']
    omega
  rw [UInt64.toNat_or, UInt64.toNat_shiftLeft, hshift, shiftLeft_eq, mod_eq_of_lt hlow,
    Nat.or_comm, mul_comm, ← two_pow_add_eq_or_of_lt hv, add_comm]

lemma lt_of_toUInt8 (h : ¬ 0x80 ≤ w) : w.toUInt8 < 0x80 := by
  have hw : w.toNat < 0x80 := by simpa [le_iff_toNat_le] using h
  rw [UInt8.lt_iff_toNat_lt, toNat_toUInt8]
  simp
  omega

lemma not_lt_of_or (x : UInt8) : ¬ (x ||| 0x80) < 0x80 := by
  rw [UInt8.lt_iff_toNat_lt, UInt8.toNat_or]
  exact not_lt.mpr right_le_or

/-- The reader's loop behind `i` bytes, on what the writer's loop has yet to write. -/
lemma consumeVarintFrom_append (rest : Bytes) {i : ℕ} (hi : i < 10) (hv : v.toNat < 2 ^ (7 * i))
    (hw : w.toNat * 2 ^ (7 * i) < 2 ^ 64) :
    consumeVarintFrom v i (appendVarint [] w ++ rest) =
      .ok (ofNat (v.toNat + w.toNat * 2 ^ (7 * i)), i + (appendVarint [] w).length) := by
  induction hn : w.toNat using Nat.strong_induction_on generalizing v w i with
  | _ n ih =>
    subst hn
    have hmod : w.toNat % 128 * 2 ^ (7 * i) < 2 ^ 64 :=
      (mul_le_mul_right _ (mod_le _ _)).trans_lt hw
    rw [appendVarint.eq_def]
    by_cases hbig : 0x80 ≤ w
    · have hle : 128 ≤ w.toNat := by simpa [le_iff_toNat_le] using hbig
      set x := w.toUInt8 ||| 0x80 with hx
      have hlow := low_bits w x (.inr hx)
      have hor : (v ||| (x &&& 0x7f).toUInt64 <<< ofNat (7 * i)).toNat =
          v.toNat + w.toNat % 128 * 2 ^ (7 * i) := by
        rw [toNat_or_shiftLeft (by omega) hv (by rwa [hlow]), hlow]
      have hpow : 2 ^ (7 * (i + 1)) = 128 * 2 ^ (7 * i) := by
        rw [mul_add, pow_add]
        omega
      -- seven more bits still fit, so this was not the tenth byte
      have hnext : i + 1 < 10 := by
        have hfit : 2 ^ (7 * (i + 1)) < 2 ^ 64 :=
          hpow ▸ (mul_le_mul_right _ hle).trans_lt hw
        have := (Nat.pow_lt_pow_iff_right (by decide)).mp hfit
        omega
      have hsplit : w.toNat = w.toNat % 128 + 128 * (w.toNat / 128) := (mod_add_div _ _).symm
      have hcount : w.toNat % 128 * 2 ^ (7 * i) + w.toNat / 128 * 2 ^ (7 * (i + 1)) =
          w.toNat * 2 ^ (7 * i) := by
        rw [hpow]
        nth_rewrite 3 [hsplit]
        ring
      have hrest := ih (w >>> 7).toNat (by rw [toNat_shiftRight_seven]; omega) hnext
        (v := v ||| (x &&& 0x7f).toUInt64 <<< ofNat (7 * i)) (w := w >>> 7)
        (by
          rw [hor, hpow]
          have : w.toNat % 128 < 128 := mod_lt _ (by decide)
          nlinarith)
        (by rw [toNat_shiftRight_seven]; omega) rfl
      rw [if_pos hbig, appendVarint_eq_append, nil_append, append_assoc,
        singleton_append, consumeVarintFrom, if_pos hi, if_neg (not_lt_of_or _), hrest, hor,
        toNat_shiftRight_seven, add_assoc, hcount, length_append, length_singleton,
        add_assoc]
    · have hlow := low_bits w w.toUInt8 (.inl rfl)
      have hlt : w.toNat < 128 := by simpa [le_iff_toNat_le] using hbig
      rw [mod_eq_of_lt hlt] at hlow
      rw [if_neg hbig, nil_append, singleton_append, consumeVarintFrom, if_pos hi,
        if_pos (lt_of_toUInt8 hbig)]
      refine congrArg (fun u => Except.ok (u, i + 1)) (UInt64.toNat_inj.mp ?_)
      rw [toNat_or_shiftLeft (by omega) hv (by rwa [hlow]), hlow, UInt64.toNat_ofNat']
      have := toNat_lt (v ||| (w.toUInt8 &&& 0x7f).toUInt64 <<< ofNat (7 * i))
      rw [toNat_or_shiftLeft (by omega) hv (by rwa [hlow]), hlow] at this
      exact (mod_eq_of_lt this).symm

lemma consumeVarint_append (v : UInt64) (rest : Bytes) :
    consumeVarint (appendVarint [] v ++ rest) = .ok (v, (appendVarint [] v).length) := by
  rw [consumeVarint,
    consumeVarintFrom_append rest (by decide) (by simp) (by simpa using v.toNat_lt)]
  simp

inductive Field where
  | varint (number : ℕ) (value : UInt64)
  | bytes (number : ℕ) (content : Bytes)

def Field.encode : Field → Bytes
  | .varint number value => pbVarint number value
  | .bytes number content => pbBytes number content

/-- The numbers of the field fit into the words that carry them. -/
def Field.Fits : Field → Prop
  | .varint number _ => number < 2 ^ 61
  | .bytes number content => number < 2 ^ 61 ∧ content.length < 2 ^ 64

def firstCan : List Field → Option UInt64
  | [] => none
  | .varint number value :: fs => if number = 1 then some value else firstCan fs
  | .bytes _ _ :: fs => firstCan fs

lemma int_inj : int v = int w ↔ v = w :=
  ⟨fun h => congrArg Int64.toUInt64 h, congrArg int⟩

lemma consumeTag_append {number wire : ℕ} (rest : Bytes) (hnumber : number < 2 ^ 61)
    (hwire : wire < 8) : consumeTag (appendVarint [] (ofNat (8 * number + wire)) ++ rest) =
      .ok (int (ofNat number), int (ofNat wire),
        (appendVarint [] (ofNat (8 * number + wire))).length) := by
  have hnat : (ofNat (8 * number + wire)).toNat = 8 * number + wire := by
    rw [toNat_ofNat']
    omega
  have hshift : ofNat (8 * number + wire) >>> 3 = ofNat number := by
    apply UInt64.toNat_inj.mp
    rw [UInt64.toNat_shiftRight, hnat, toNat_ofNat']
    simp only [reduceToNat, Nat.reduceMod, shiftRight_eq_div_pow]
    omega
  have hmask : ofNat (8 * number + wire) &&& 7 = ofNat wire := by
    apply UInt64.toNat_inj.mp
    have hseven : (7 : UInt64).toNat = 2 ^ 3 - 1 := rfl
    rw [UInt64.toNat_and, hnat, hseven, and_two_pow_sub_one_eq_mod, toNat_ofNat']
    omega
  rw [consumeTag, consumeVarint_append, ← hshift, ← hmask]
  rfl

lemma pbVarint_eq (number : ℕ) (v : UInt64) :
    pbVarint number v = appendVarint [] (ofNat (8 * number + 0)) ++ appendVarint [] v := by
  rw [pbVarint, appendVarint_eq_append, shiftLeft_eq, mul_comm]
  rfl

lemma pbBytes_eq (number : ℕ) (b : Bytes) :
    pbBytes number b = appendVarint [] (ofNat (8 * number + 2)) ++
      (appendVarint [] (ofNat b.length) ++ b) := by
  have htag : number <<< 3 ||| 2 = 8 * number + 2 := by
    rw [shiftLeft_eq, mul_comm]
    exact (two_pow_add_eq_or_of_lt (i := 3) (by decide) number).symm
  rw [pbBytes, appendVarint_eq_append, htag, append_assoc]

lemma parseField_encode (rest : Bytes) : ∀ {f : Field}, f.Fits →
    parseField (f.encode ++ rest) =
      .ok (match f with
        | .varint number value => if number = 1 then .can (int value) else .rest rest
        | .bytes _ _ => .rest rest)
  | .varint number value, hf => by
    have hone : int (ofNat number) = 1 ↔ number = 1 := by
      rw [show (1 : Int64) = int (UInt64.ofNat 1) from rfl, int_inj, ← UInt64.toNat_inj,
        toNat_ofNat', toNat_ofNat']
      simp only [Field.Fits] at hf
      omega
    rw [Field.encode, pbVarint_eq, append_assoc, parseField,
      consumeTag_append _ hf (by decide)]
    simp only [bind, Except.bind, sliceFrom_of_le (length_append ▸ le_add_right _ _),
      drop_left, consumeVarint_append, hone]
    rw [if_pos (by decide)]
    split <;> rfl
  | .bytes number content, hf => by
    have hlen : (ofNat content.length).toNat = content.length := by
      rw [toNat_ofNat']
      exact mod_eq_of_lt hf.2
    rw [Field.encode, pbBytes_eq, append_assoc, append_assoc, parseField,
      consumeTag_append _ hf.1 (by decide)]
    simp only [bind, Except.bind, sliceFrom_of_le (length_append ▸ Nat.le_add_right _ _),
      drop_left, consumeVarint_append, hlen]
    rw [if_neg (by decide), if_pos (by decide), if_neg (by simp)]
    rfl

lemma Field.encode_ne_nil (f : Field) : f.encode ≠ [] := by
  have hne : ∀ v, appendVarint [] v ≠ [] := by
    intro v
    rw [appendVarint]
    split
    · rw [appendVarint_eq_append]
      simp
    · simp
  cases f with
  | varint number value => simp [encode, pbVarint_eq, hne]
  | bytes number content => simp [encode, pbBytes_eq, hne]

/-- **Of a response made of fields the decoder reads the first `can`.** -/
theorem parseCheckResponse_encode {fs : List Field} (hfs : ∀ f ∈ fs, f.Fits) :
    parseCheckResponse (fs.flatMap Field.encode) =
      match firstCan fs with
      | some v => .ok (int v)
      | none => fail "missing `can` field" := by
  induction fs with
  | nil => simp [parseCheckResponse, firstCan]
  | cons f fs ih =>
    have hlen : 0 < (f.encode ++ fs.flatMap Field.encode).length := by
      rw [length_append]
      have := length_pos_iff.mpr f.encode_ne_nil
      omega
    have hturn := parseField_encode (fs.flatMap Field.encode) (hfs f mem_cons_self)
    have ih := ih fun g hg => hfs g (mem_cons_of_mem _ hg)
    rw [flatMap_cons]
    cases f with
    | varint number value =>
      dsimp only at hturn
      by_cases hnum : number = 1
      · rw [if_pos hnum] at hturn
        rw [parseCheckResponse_can hlen hturn, firstCan, if_pos hnum]
      · rw [if_neg hnum] at hturn
        rw [parseCheckResponse_rest hlen hturn, firstCan, if_neg hnum, ih]
    | bytes number content => rw [parseCheckResponse_rest hlen hturn, firstCan, ih]

theorem parseCheckResponse_encode_allowed :
    parseCheckResponse ([.bytes 2 [8, 1], .varint 1 1].flatMap Field.encode) = .ok 1 :=
  parseCheckResponse_encode (by simp [Field.Fits])

/-! ## Reading a request -/

def readField (b : Bytes) : Except Fault (Field × Bytes) := do
  let (number, wire, n) ← consumeTag b
  let b ← sliceFrom b n
  let (v, m) ← consumeVarint b
  let b ← sliceFrom b m
  if wire = 0 then return (.varint number.toUInt64.toNat v, b)
  else if wire = 2 ∧ v.toNat ≤ b.length then
    return (.bytes number.toUInt64.toNat (b.take v.toNat), b.drop v.toNat)
  else fail "no field"

def readFieldsFrom : ℕ → Bytes → Except Fault (List Field)
  | _, [] => .ok []
  | 0, _ => fail "no field"
  | n + 1, b => do
    let (f, b) ← readField b
    return f :: (← readFieldsFrom n b)

/-- The fields of a message, with no byte left; a field has at least one. -/
def readFields (b : Bytes) : Except Fault (List Field) := readFieldsFrom b.length b

lemma readField_encode (rest : Bytes) : ∀ {f : Field}, f.Fits →
    readField (f.encode ++ rest) = .ok (f, rest)
  | .varint number value, hf => by
    have hnumber : (int (ofNat number)).toUInt64.toNat = number :=
      toNat_ofNat_of_lt' (hf.trans (by decide))
    rw [Field.encode, pbVarint_eq, append_assoc, readField, consumeTag_append _ hf (by decide)]
    simp only [bind, Except.bind, sliceFrom_of_le (length_append ▸ Nat.le_add_right _ _),
      drop_left, consumeVarint_append, hnumber]
    rfl
  | .bytes number content, hf => by
    have hnumber : (int (ofNat number)).toUInt64.toNat = number :=
      toNat_ofNat_of_lt' (hf.1.trans (by decide))
    have hlen := toNat_ofNat_of_lt' hf.2
    rw [Field.encode, pbBytes_eq, append_assoc, append_assoc, readField,
      consumeTag_append _ hf.1 (by decide)]
    simp only [bind, Except.bind, sliceFrom_of_le (length_append ▸ Nat.le_add_right _ _),
      drop_left, consumeVarint_append, hnumber, hlen, take_left]
    rw [if_neg (by decide), if_pos ⟨by decide, by simp⟩]
    rfl

def encodeFields (fs : List Field) : Bytes := fs.flatMap Field.encode

def Field.number : Field → ℕ
  | .varint number _ | .bytes number _ => number

lemma fits_of_length {fs : List Field} (hnumbers : ∀ f ∈ fs, f.number < 2 ^ 61)
    (hlen : (encodeFields fs).length < 2 ^ 64) {f : Field} (hf : f ∈ fs) : f.Fits := by
  have hle : f.encode.length ≤ (encodeFields fs).length :=
    (sublist_flatten_of_mem (mem_map_of_mem hf)).length_le
  cases f with
  | varint number value => exact hnumbers _ hf
  | bytes number content =>
    refine ⟨hnumbers _ hf, ?_⟩
    rw [Field.encode, pbBytes_eq, length_append, length_append] at hle
    omega

lemma readFields_encode {fs : List Field} (hnumbers : ∀ f ∈ fs, f.number < 2 ^ 61)
    (hlen : (encodeFields fs).length < 2 ^ 64) : readFields (encodeFields fs) = .ok fs := by
  have hfs : ∀ f ∈ fs, f.Fits := fun f => fits_of_length hnumbers hlen
  clear hnumbers hlen
  have hfrom : ∀ n, (encodeFields fs).length ≤ n → readFieldsFrom n (encodeFields fs) = .ok fs := by
    induction fs with
    | nil => intro n _; cases n <;> rfl
    | cons f fs ih =>
      intro n hn
      have hpos := length_pos_iff.mpr f.encode_ne_nil
      have hread := readField_encode (encodeFields fs) (hfs f mem_cons_self)
      rw [encodeFields, flatMap_cons, length_append] at hn
      cases n with
      | zero => omega
      | succ n =>
        have hrest := ih (fun g hg => hfs g (mem_cons_of_mem _ hg)) n (by rw [encodeFields]; omega)
        rw [encodeFields, flatMap_cons, ← encodeFields, readFieldsFrom, hread]
        · simp only [bind, Except.bind, hrest]
          rfl
        · simp [f.encode_ne_nil]
  exact hfrom _ le_rfl

/-- The arguments of `marshalCheckRequest`. -/
structure CheckRequest where
  tenant : Bytes
  entityType : Bytes
  entityID : Bytes
  permission : Bytes
  subjectID : Bytes

namespace CheckRequest

def marshal (r : CheckRequest) : Bytes :=
  marshalCheckRequest r.tenant r.entityType r.entityID r.permission r.subjectID

def metadata : List Field := [.varint 3 permifyCheckDepth]

def entity (r : CheckRequest) : List Field := [.bytes 1 r.entityType, .bytes 2 r.entityID]

def subject (r : CheckRequest) : List Field := [.bytes 1 (utf8 "user"), .bytes 2 r.subjectID]

def fields (r : CheckRequest) : List Field :=
  [.bytes 1 r.tenant, .bytes 2 (encodeFields metadata), .bytes 3 (encodeFields r.entity),
    .bytes 4 r.permission, .bytes 5 (encodeFields r.subject)]

lemma marshal_eq (r : CheckRequest) : r.marshal = encodeFields r.fields := by
  simp [marshal, marshalCheckRequest, encodeFields, fields, entity, subject, metadata, Field.encode,
    pbString]

lemma decodes (r : CheckRequest) (hlen : r.marshal.length < 2 ^ 63) :
    readFields r.marshal = .ok r.fields ∧ readFields (encodeFields metadata) = .ok metadata ∧
      readFields (encodeFields r.entity) = .ok r.entity ∧
      readFields (encodeFields r.subject) = .ok r.subject := by
  rw [marshal_eq] at hlen ⊢
  have hlen : (encodeFields r.fields).length < 2 ^ 64 := hlen.trans (by decide)
  have hnumbers : ∀ f ∈ r.fields, f.number < 2 ^ 61 := by simp [fields, Field.number]
  have hinner : ∀ {number content}, .bytes number content ∈ r.fields → content.length < 2 ^ 64 :=
    fun hmem => (fits_of_length hnumbers hlen hmem).2
  refine ⟨readFields_encode hnumbers hlen, readFields_encode ?_ (@hinner 2 _ ?_),
    readFields_encode ?_ (@hinner 3 _ ?_), readFields_encode ?_ (@hinner 5 _ ?_)⟩ <;>
  simp [fields, metadata, entity, subject, Field.number]

/-- **A request is read as it was written**, so no two requests have the same bytes; a Go slice has
less than 2^63. -/
theorem checkRequest_unambiguous (r : CheckRequest) (hlen : r.marshal.length < 2 ^ 63) :
    readFields r.marshal = .ok r.fields ∧ readFields (encodeFields metadata) = .ok metadata ∧
      readFields (encodeFields r.entity) = .ok r.entity ∧
      readFields (encodeFields r.subject) = .ok r.subject ∧
      ∀ r' : CheckRequest, r'.marshal = r.marshal → r' = r := by
  obtain ⟨hfields, hmetadata, hentity, hsubject⟩ := r.decodes hlen
  refine ⟨hfields, hmetadata, hentity, hsubject, fun r' heq => ?_⟩
  obtain ⟨hfields', -, hentity', hsubject'⟩ := r'.decodes (heq ▸ hlen)
  have hsame : r'.fields = r.fields := Except.ok.inj (hfields'.symm.trans (heq ▸ hfields))
  simp only [fields, cons.injEq, Field.bytes.injEq, true_and, and_true] at hsame
  obtain ⟨htenant, hent, hpermission, hsub⟩ := hsame
  have hent := Except.ok.inj (hentity'.symm.trans (hent ▸ hentity))
  have hsub := Except.ok.inj (hsubject'.symm.trans (hsub ▸ hsubject))
  simp only [entity, subject, cons.injEq, Field.bytes.injEq, true_and, and_true] at *
  cases r
  cases r'
  simp_all

/-- The subject user-123 asks to manage the telematics module. -/
def manageTelematics : CheckRequest :=
  ⟨utf8 "t1", utf8 "module", utf8 "telematics", utf8 "manage", utf8 "user-123"⟩

theorem checkRequest_telematics : manageTelematics.marshal.length = 56 ∧
    readFields manageTelematics.marshal = .ok manageTelematics.fields ∧
    readFields (encodeFields manageTelematics.entity) =
      .ok [.bytes 1 (utf8 "module"), .bytes 2 (utf8 "telematics")] ∧
    readFields (encodeFields manageTelematics.subject) =
      .ok [.bytes 1 (utf8 "user"), .bytes 2 (utf8 "user-123")] ∧
    ∀ r, r.marshal = manageTelematics.marshal → r = manageTelematics := by
  have hlen : manageTelematics.marshal.length = 56 := by decide +kernel
  obtain ⟨hfields, -, hentity, hsubject, hsame⟩ :=
    checkRequest_unambiguous manageTelematics (by omega)
  exact ⟨hlen, hfields, hentity, hsubject, hsame⟩

end CheckRequest

/-! ## The client -/

/-- A `PermifyClient`, over the connections of gRPC and the loggers of zap. -/
structure PermifyClient (C L : Type) where
  conn : Option C
  tenant : String
  log : Option L

variable {C L : Type}

/-- `NewPermify`.  `space` is the white space of `strings.TrimSpace`, `newClient` is
`grpc.NewClient`. -/
def newPermify (space : Char → Bool) (newClient : String → Except String C) (addr tenant : String)
    (log : Option L) : Except Fault (Option (PermifyClient C L)) := do
  let addr := trim space addr
  if addr = "" then return none
  let tenant := if tenant = "" then "t1" else tenant
  match newClient addr with
  | .error _ =>
    -- `log.Error(…)`: a malformed target counts as not configured
    let _ ← deref log
    return none
  | .ok conn =>
    -- `log.Info(…)`
    let _ ← deref log
    return some { conn := some conn, tenant := tenant, log := log }

def permifyCheckMethod : String := "/permify.v1.PermissionService/Check"

variable (invoke : C → String → Bytes → Except String Bytes)
  (c : Option (PermifyClient C L))

/-- `Check`.  `invoke` is what the RPC comes to. -/
def check (entityType entityID permission subjectID : String) : Except Fault Bool := do
  match c with
  | none => fail "permify client not configured"
  | some c =>
    match c.conn with
    | none => fail "permify client not configured"
    | some conn =>
      let req := marshalCheckRequest (utf8 c.tenant) (utf8 entityType) (utf8 entityID)
        (utf8 permission) (utf8 subjectID)
      match invoke conn permifyCheckMethod req with
      | .error err =>
        fail ("permify check " ++ entityType ++ ":" ++ entityID ++ "#" ++ permission ++ ": " ++ err)
      | .ok resp =>
        match parseCheckResponse resp with
        | .error (.panic p) => .error (.panic p)
        | .error (.error err) => fail ("permify check response: " ++ err)
        -- 1 = CHECK_RESULT_ALLOWED
        | .ok can => return (can = 1)

/-! ## The middleware -/

/-- What a handler did: it called the next one, or wrote an error. -/
inductive Served where
  | next
  | writeError (status : ℕ) (msg : String)

/-- `Subject`: the `sub` claim, if there are claims and it is a text. -/
def subject (claims : Option (List (String × Json))) : String :=
  match claims with
  | none => ""
  | some claims =>
    match lastMember claims "sub" with
    | some (.str sub) => sub
    | _ => ""

variable {R : Type}

/-- The entity that is asked about; `idFrom` may be `nil`. -/
def entityOf (idFrom : Option (R → String)) (r : R) : String :=
  match idFrom with
  | none => ""
  | some idFrom => idFrom r

/-- The handler that `Require` puts before the next one. -/
def handle (entityType permission : String) (idFrom : Option (R → String))
    (claims : R → Option (List (String × Json))) (r : R) : Except Fault Served := do
  match c.bind PermifyClient.conn with
  | none => return .next
  | some _ =>
    let sub := subject (claims r)
    if sub = "" then
      return .writeError 401 "authenticated subject required for authorization check"
    let entityID := entityOf idFrom r
    match check invoke c entityType entityID permission sub with
    | .error (.panic p) => .error (.panic p)
    | .error (.error _) =>
      -- `c.log.Error(…)`, on the logger of the client
      let client ← deref c
      let _ ← deref client.log
      return .writeError 502 "authorization check unavailable"
    | .ok allowed =>
      if ¬ allowed then
        return .writeError 403
          ("permify denied " ++ entityType ++ ":" ++ entityID ++ "#" ++ permission)
      return .next

/-- `Require`: the middleware, built from a client that may be `nil`. -/
def require (entityType permission : String) (idFrom : Option (R → String))
    (claims : R → Option (List (String × Json))) : Except Fault (R → Except Fault Served) := do
  -- `log := c.log`
  let _ ← deref c
  return handle invoke c entityType permission idFrom claims

/-! ## The contract -/

def Allows (entityType entityID permission sub : String) : Prop :=
  ∃ client conn resp, c = some client ∧ client.conn = some conn ∧
    invoke conn permifyCheckMethod
      (marshalCheckRequest (utf8 client.tenant) (utf8 entityType) (utf8 entityID) (utf8 permission)
        (utf8 sub)) = .ok resp ∧
    parseCheckResponse resp = .ok 1

/-- The middleware can be built, and calls the next handler exactly if Permify is not configured, or
there is a subject and Permify allows it. -/
def GuardContract : Prop :=
  ∀ (R : Type) (invoke : C → String → Bytes → Except String Bytes) (entityType permission : String)
    (idFrom : Option (R → String)) (claims : R → Option (List (String × Json))),
    ∃ handler, require invoke c entityType permission idFrom claims = .ok handler ∧
      ∀ r, ∃ served, handler r = .ok served ∧
        (served = .next ↔ c = none ∨ subject (claims r) ≠ "" ∧
          Allows invoke c entityType (entityOf idFrom r) permission (subject (claims r)))

lemma newPermify_cases {space : Char → Bool} {newClient : String → Except String C}
    {addr tenant : String} {log : Option L} {c : Option (PermifyClient C L)}
    (h : newPermify space newClient addr tenant log = .ok c) :
    (c = none ∧ (trim space addr = "" ∨ ∃ err, newClient (trim space addr) = .error err)) ∨
    ∃ client conn l, c = some client ∧ client.conn = some conn ∧ client.log = some l ∧
      trim space addr ≠ "" ∧ newClient (trim space addr) = .ok conn := by
  unfold newPermify at h
  dsimp only at h
  split at h
  · rename_i hblank
    exact .inl ⟨(Except.ok.inj h).symm, .inl hblank⟩
  · rename_i hblank
    split at h
    · rename_i err herr
      obtain ⟨_, -, h⟩ := bind_eq_ok.mp h
      exact .inl ⟨(Except.ok.inj h).symm, .inr ⟨err, herr⟩⟩
    · rename_i conn hconn
      obtain ⟨l, hl, h⟩ := bind_eq_ok.mp h
      have hlog : log = some l := by
        cases log with
        | none => cases hl
        | some l' => exact congrArg some (Except.ok.inj hl)
      exact .inr ⟨_, conn, l, (Except.ok.inj h).symm, rfl, hlog, hblank, hconn⟩

/-- `Check` never panics, and says yes exactly if Permify does. -/
lemma check_spec (entityType entityID permission sub : String) :
    Returns (check invoke c entityType entityID permission sub) ∧
      (check invoke c entityType entityID permission sub = .ok true ↔
        Allows invoke c entityType entityID permission sub) := by
  unfold check Allows
  cases c with
  | none => exact ⟨returns_fail _, by simp [fail]⟩
  | some client =>
    obtain ⟨conn, tenant, log⟩ := client
    cases conn with
    | none => exact ⟨returns_fail _, by simp [fail]⟩
    | some conn =>
      simp only [Option.some.injEq, exists_and_left, exists_eq_left']
      cases hinvoke : invoke conn permifyCheckMethod
          (marshalCheckRequest (utf8 tenant) (utf8 entityType) (utf8 entityID) (utf8 permission)
            (utf8 sub)) with
      | error err => exact ⟨returns_fail _, by simp [fail]⟩
      | ok resp =>
        dsimp only
        cases hparse : parseCheckResponse resp with
        | error e =>
          cases e with
          | panic p => exact absurd hparse (parseCheckResponse_returns resp p)
          | error err => exact ⟨returns_fail _, by simp [fail, hparse]⟩
        | ok can => exact ⟨returns_ok _, by simp [hparse, pure, Except.pure]⟩

/-- **When the next handler is called**, for a client with connection and logger. -/
lemma handle_spec {client : PermifyClient C L} {conn : C} {l : L}
    (hconn : client.conn = some conn) (hlog : client.log = some l)
    (entityType permission : String) (idFrom : Option (R → String))
    (claims : R → Option (List (String × Json))) (r : R) :
    ∃ served, handle invoke (some client) entityType permission idFrom claims r = .ok served ∧
      (served = .next ↔ subject (claims r) ≠ "" ∧
        Allows invoke (some client) entityType (entityOf idFrom r) permission
        (subject (claims r))) := by
  obtain ⟨hreturns, hallows⟩ := check_spec invoke (some client) entityType
    (entityOf idFrom r) permission (subject (claims r))
  unfold handle
  rw [Option.bind_some, hconn]
  dsimp only
  by_cases hsub : subject (claims r) = ""
  · rw [if_pos hsub]
    exact ⟨_, rfl, by simp [hsub]⟩
  · rw [if_neg hsub]
    cases hcheck : check invoke (some client) entityType (entityOf idFrom r) permission
        (subject (claims r)) with
    | error e =>
      cases e with
      | panic p => exact absurd hcheck (hreturns p)
      | error err =>
        have hno : ¬ Allows invoke (some client) entityType (entityOf idFrom r) permission
            (subject (claims r)) := by
          rw [← hallows, hcheck]
          simp
        exact ⟨.writeError 502 "authorization check unavailable", by
          simp only [deref, bind, Except.bind, hlog]
          rfl,
          by simp [hno]⟩
    | ok allowed =>
      rw [hcheck, Except.ok.injEq] at hallows
      cases allowed with
      | false => exact ⟨_, rfl, by simp [← hallows]⟩
      | true => exact ⟨_, rfl, by simp [← hallows, hsub]⟩

/-- **The guard keeps its contract exactly if there is a client.** -/
theorem guardContract_iff {space : Char → Bool} {newClient : String → Except String C}
    {addr tenant : String} {log : Option L} {c : Option (PermifyClient C L)}
    (h : newPermify space newClient addr tenant log = .ok c) :
    GuardContract c ↔ trim space addr ≠ "" ∧ ∃ conn, newClient (trim space addr) = .ok conn := by
  rcases newPermify_cases h with ⟨rfl, hnone⟩ | ⟨client, conn, l, rfl, hconn, hlog, haddr, hnew⟩
  · -- `Require` dereferences the client
    refine iff_of_false (fun hcontract => ?_) ?_
    · obtain ⟨handler, hreq, -⟩ := hcontract Unit (fun _ _ _ => .error "") "" "" none fun _ => none
      cases hreq
    · rintro ⟨haddr, conn, hconn⟩
      rcases hnone with hblank | ⟨err, herr⟩
      · exact haddr hblank
      · cases hconn.symm.trans herr
  · refine iff_of_true (fun R invoke entityType permission idFrom claims => ?_) ⟨haddr, conn, hnew⟩
    refine ⟨_, rfl, fun r => ?_⟩
    obtain ⟨served, hserved, hnext⟩ :=
      handle_spec invoke hconn hlog entityType permission idFrom claims r
    exact ⟨served, hserved, by rw [hnext]; simp⟩

/-- A configured guard. -/
theorem guardContract_of_configured :
    ∃ c : Option (PermifyClient Unit Unit),
      newPermify (· == ' ') (fun _ => .ok ()) "permify:3476" "" (some ()) = .ok c ∧
      GuardContract c :=
  ⟨some ⟨some (), "t1", some ()⟩, rfl,
    (@guardContract_iff Unit Unit (· == ' ') (fun _ => .ok ()) "permify:3476" "" (some ())
    _ rfl).mpr
      ⟨by decide, (), rfl⟩⟩

/-- **Without `PERMIFY_GRPC` the route cannot be built**: on a `nil` client `Require` panics. -/
theorem unconfigured_guard_panics :
    newPermify (C := Unit) (· == ' ') (fun _ => .ok ()) "" "" (some ()) = .ok none ∧
      (require (C := Unit) (L := Unit) (R := Unit) (fun _ _ _ => .ok []) none "module" "manage" none
        fun _ => none) = .error (.panic .nilDereference) ∧
      ¬ GuardContract (none : Option (PermifyClient Unit Unit)) := by
  refine ⟨rfl, rfl, fun hcontract => ?_⟩
  obtain ⟨handler, hreq, -⟩ :=
    hcontract Unit (fun _ _ _ => .ok []) "module" "manage" none fun _ => none
  cases hreq

end H2Fleet.Auth.Permify
