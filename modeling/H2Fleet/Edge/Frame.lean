import Mathlib.Tactic
import Mathlib.Data.List.Basic

/-!
# The frames of the edge spool

The on-disk format of `spool.data`, byte for byte: `encode`, `decode` and the scan that
`Spool::open` makes over the file.

    frame   := [u32 crc32][u32 len][payload]
    payload := [u8 has_key][u32 key_len][key bytes][u32 value_len][value bytes]

The checksum is the parameter `crc32`; `ieeeCrc32` is the one in use.  The scan stops at the first
frame it cannot read, and takes a frame longer than 16 MiB for a corrupt one.
-/

namespace H2Fleet.Edge

open List

abbrev Bytes := List UInt8

structure SpoolRecord where
  key : Option Bytes
  value : Bytes
  deriving DecidableEq

/-! ## The checksum -/

def crcShift (c : UInt32) : UInt32 := if c &&& 1 = 1 then (c >>> 1) ^^^ 0xEDB88320 else c >>> 1

/-- CRC-32 as `crc32fast` computes it. -/
def ieeeCrc32 (bytes : Bytes) : UInt32 :=
  ~~~ bytes.foldl (fun c b => crcShift^[8] (c ^^^ b.toUInt32)) 0xFFFFFFFF

example : ieeeCrc32 [0x31, 0x32, 0x33, 0x34, 0x35, 0x36, 0x37, 0x38, 0x39] = 0xCBF43926 := by
  decide +kernel

/-! ## Numbers -/

/-- `(n as u32).to_le_bytes()`. -/
def toLeBytes (n : ℕ) : Bytes :=
  [UInt8.ofNat n, UInt8.ofNat (n / 256), UInt8.ofNat (n / 65536), UInt8.ofNat (n / 16777216)]

/-- `u32::from_le_bytes`. -/
def fromLeBytes : Bytes → ℕ
  | [] => 0
  | b :: bs => b.toNat + 256 * fromLeBytes bs

@[simp] lemma length_toLeBytes (n : ℕ) : (toLeBytes n).length = 4 := rfl

lemma fromLeBytes_toLeBytes {n : ℕ} (hn : n < 2 ^ 32) : fromLeBytes (toLeBytes n) = n := by
  simp only [toLeBytes, fromLeBytes, UInt8.toNat_ofNat']
  omega

/-! ## Records -/

def keyBytes (rec : SpoolRecord) : Bytes := rec.key.getD []

def payload (rec : SpoolRecord) : Bytes :=
  (if rec.key.isSome then 1 else 0) :: (toLeBytes (keyBytes rec).length ++ (keyBytes rec ++
    (toLeBytes rec.value.length ++ rec.value)))

variable (crc32 : Bytes → UInt32)

def encode (rec : SpoolRecord) : Bytes :=
  toLeBytes (crc32 (payload rec)).toNat ++ (toLeBytes (payload rec).length ++ payload rec)

def decode (payload : Bytes) : Option SpoolRecord :=
  if payload.length < 9 then none
  else
    let hasKey := payload.head? = some 1
    let keyLen := fromLeBytes ((payload.drop 1).take 4)
    if payload.length < 5 + keyLen + 4 then none
    else
      let key := if hasKey then some ((payload.drop 5).take keyLen) else none
      let valueLen := fromLeBytes ((payload.drop (5 + keyLen)).take 4)
      if payload.length ≠ 5 + keyLen + 4 + valueLen then none
      else some ⟨key, payload.drop (5 + keyLen + 4)⟩

/-- The longest payload the scan accepts. -/
def maxPayload : ℕ := 16 * 1024 * 1024

/-- A record that is read back. -/
def Readable (rec : SpoolRecord) : Prop := (payload rec).length ≤ maxPayload
  deriving Decidable

lemma length_payload (rec : SpoolRecord) :
    (payload rec).length = 9 + (keyBytes rec).length + rec.value.length := by
  simp only [payload, length_cons, length_append, length_toLeBytes]
  omega

lemma length_encode (rec : SpoolRecord) :
    (encode crc32 rec).length = 8 + (payload rec).length := by
  simp only [encode, length_append, length_toLeBytes]
  omega

variable {rec : SpoolRecord}

/-- **A record is read back from its payload.** -/
lemma decode_payload (h : Readable rec) : decode (payload rec) = some rec := by
  have hlen := length_payload rec
  rw [Readable, hlen, maxPayload] at h
  have hkey : fromLeBytes (((payload rec).drop 1).take 4) = (keyBytes rec).length := by
    rw [payload, drop_one, tail_cons, take_left' (length_toLeBytes _)]
    exact fromLeBytes_toLeBytes (by omega)
  have hdrop5 :
    (payload rec).drop 5 = keyBytes rec ++ (toLeBytes rec.value.length ++ rec.value) := by
    rw [payload, drop_succ_cons, drop_left' (length_toLeBytes _)]
  have hdropKey : (payload rec).drop (5 + (keyBytes rec).length) =
      toLeBytes rec.value.length ++ rec.value := by
    rw [← drop_drop, hdrop5, drop_left]
  have hvalue : fromLeBytes (((payload rec).drop (5 + (keyBytes rec).length)).take 4) =
      rec.value.length := by
    rw [hdropKey, take_left' (length_toLeBytes _)]
    exact fromLeBytes_toLeBytes (by omega)
  have hrest : (payload rec).drop (5 + (keyBytes rec).length + 4) = rec.value := by
    rw [← drop_drop, hdropKey, drop_left' (length_toLeBytes _)]
  have hk : (if (payload rec).head? = some 1 then
      some (((payload rec).drop 5).take (keyBytes rec).length) else none) = rec.key := by
    rw [hdrop5, take_left]
    cases hrk : rec.key <;> simp [payload, keyBytes, hrk]
  simp only [decode, hkey, hvalue, hrest, hk]
  rw [if_neg (by omega), if_neg (by omega), if_neg (by omega)]

/-! ## The scan -/

/-- One round of the loop of `Spool::open`: the record and the size of its frame. -/
def readFrame (file : Bytes) : Option (SpoolRecord × ℕ) :=
  if file.length < 8 then none
  else
    let crc := fromLeBytes (file.take 4)
    let len := fromLeBytes ((file.drop 4).take 4)
    if len > maxPayload then none
    else if file.length < 8 + len then none
    else
      let payload := (file.drop 8).take len
      if (crc32 payload).toNat ≠ crc then none
      else (decode payload).map fun rec => (rec, 8 + len)

/-- The loop of `Spool::open`: the records and `valid_up_to`.  A frame takes eight bytes at least,
so the length of the file is fuel enough. -/
def scanFrom : ℕ → Bytes → List SpoolRecord × ℕ
  | 0, _ => ([], 0)
  | n + 1, file =>
    match readFrame crc32 file with
    | none => ([], 0)
    | some (rec, size) =>
      let rest := scanFrom n (file.drop size)
      (rec :: rest.1, size + rest.2)

def scan (file : Bytes) : List SpoolRecord × ℕ :=
  scanFrom crc32 file.length file

section Scan

variable {crc32}

lemma readFrame_size {file : Bytes} {size : ℕ} (h : readFrame crc32 file = some (rec, size)) :
    0 < size ∧ size ≤ file.length := by
  simp only [readFrame] at h
  split_ifs at h
  rw [Option.map_eq_some_iff] at h
  obtain ⟨r, -, heq⟩ := h
  rw [Prod.mk.injEq] at heq
  omega

lemma scanFrom_eq_scan : ∀ {n : ℕ} {file : Bytes}, file.length ≤ n →
    scanFrom crc32 n file = scan crc32 file
  | 0, file, h => by rw [scan, Nat.le_zero.mp h]
  | n + 1, file, h => by
    cases hfile : file.length with
    | zero => simp [scan, hfile, scanFrom, readFrame]
    | succ m =>
      rw [scan, hfile, scanFrom, scanFrom]
      cases hr : readFrame crc32 file with
      | none => rfl
      | some p =>
        have hsize := readFrame_size hr
        have hrest : (file.drop p.2).length ≤ m := by rw [length_drop]; omega
        have hrest' : (file.drop p.2).length ≤ n := by rw [length_drop]; omega
        simp only [scanFrom_eq_scan hrest, scanFrom_eq_scan hrest']

lemma scan_eq (file : Bytes) : scan crc32 file =
    match readFrame crc32 file with
    | none => ([], 0)
    | some (rec, size) =>
      (rec :: (scan crc32 (file.drop size)).1, size + (scan crc32 (file.drop size)).2) := by
  rw [← scanFrom_eq_scan (Nat.le_succ _), scanFrom]
  cases hr : readFrame crc32 file with
  | none => rfl
  | some p => simp only [scanFrom_eq_scan (by simp : (file.drop p.2).length ≤ file.length)]

lemma Readable.length_lt (h : Readable rec) : (payload rec).length < 2 ^ 32 :=
  lt_of_le_of_lt h (by decide)

lemma frame_header (crc32 : Bytes → UInt32) (hp : (payload rec).length < 2 ^ 32) (rest : Bytes) :
    fromLeBytes ((encode crc32 rec ++ rest).take 4) = (crc32 (payload rec)).toNat ∧
      fromLeBytes (((encode crc32 rec ++ rest).drop 4).take 4) = (payload rec).length := by
  rw [encode, append_assoc, append_assoc]
  refine ⟨?_, ?_⟩
  · rw [take_left' (length_toLeBytes _)]
    exact fromLeBytes_toLeBytes (crc32 (payload rec)).toNat_lt
  · rw [drop_left' (length_toLeBytes _), take_left' (length_toLeBytes _)]
    exact fromLeBytes_toLeBytes hp

lemma readFrame_encode (h : Readable rec) (rest : Bytes) :
    readFrame crc32 (encode crc32 rec ++ rest) = some (rec, (encode crc32 rec).length) := by
  have hp : (payload rec).length ≤ maxPayload := h
  have hmax : maxPayload < 2 ^ 32 := by decide
  obtain ⟨hcrc, hlen⟩ := frame_header crc32 h.length_lt rest
  have hpay : ((encode crc32 rec ++ rest).drop 8).take (payload rec).length = payload rec := by
    rw [encode, append_assoc, append_assoc, show 8 = 4 + 4 from rfl, ← drop_drop,
      drop_left' (length_toLeBytes _), drop_left' (length_toLeBytes _), take_left]
  have hsize := length_encode crc32 rec
  simp only [readFrame, hcrc, hlen, hpay, decode_payload h, length_append, hsize]
  rw [if_neg (by omega), if_neg (by omega), if_neg (by omega), if_neg (by simp)]
  rfl

lemma readFrame_take (h : (payload rec).length < 2 ^ 32) {k : ℕ}
    (hk : k < (encode crc32 rec).length) : readFrame crc32 ((encode crc32 rec).take k) = none := by
  have hsize := length_encode crc32 rec
  have hlenk : ((encode crc32 rec).take k).length = k := by
    rw [length_take]
    omega
  by_cases h8 : k < 8
  · rw [readFrame, hlenk, if_pos h8]
  · -- the header is complete and announces more bytes than there are
    have hlen :
      fromLeBytes ((((encode crc32 rec).take k).drop 4).take 4) = (payload rec).length := by
      have hhead := (frame_header crc32 h []).2
      rw [append_nil] at hhead
      rw [drop_take, take_take, min_eq_left (by omega), hhead]
    simp only [readFrame, hlen, hlenk]
    rw [if_neg h8, if_pos (show k < 8 + (payload rec).length by omega), ite_self]

/-- **Readable frames are read back**, and the scan goes on behind them. -/
theorem scan_frames : ∀ {recs : List SpoolRecord}, (∀ rec ∈ recs, Readable rec) → ∀ rest : Bytes,
    scan crc32 (recs.flatMap (encode crc32) ++ rest) =
      (recs ++ (scan crc32 rest).1, (recs.flatMap (encode crc32)).length + (scan crc32 rest).2)
  | [], _, rest => by simp
  | rec :: recs, h, rest => by
    rw [forall_mem_cons] at h
    rw [flatMap_cons, append_assoc, scan_eq, readFrame_encode h.1]
    simp only [drop_left, scan_frames h.2 rest, cons_append, length_append, Nat.add_assoc]

end Scan

end H2Fleet.Edge
