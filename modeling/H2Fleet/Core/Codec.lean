import Mathlib.Tactic
import Mathlib.Data.List.Basic
import Mathlib.Data.List.DropRight
import Mathlib.Data.Rat.Floor

/-!
# Decimal fields and length-prefixed fields

Two text codecs, each with the fact that makes it a codec: it can be read back.

**Decimal.**  `pad w n` is `n` in decimal, filled up with zeros to `w` characters, as the date and
clock fields of a timestamp are printed.  `fraction` is the fractional part of a second with its
trailing zeros dropped.

**Length-prefixed.**  `lengthPrefixed s` is the byte length of `s` in decimal, a colon, and the
bytes of `s`.  A sequence of such fields determines the fields, whatever they contain: no field can
imitate a boundary.

**Last separator.**  A key `pre ++ ":" ++ n` with `n` in decimal determines `pre` and `n`, because
the digits hold no colon (`numbered_inj`).
-/

namespace H2Fleet

open List

open Nat

lemma append_sep_inj {α : Type*} {sep : α} : ∀ {a a' b b' : List α}, sep ∉ a → sep ∉ a' →
    a ++ sep :: b = a' ++ sep :: b' → a = a' ∧ b = b'
  | [], [], _, _, _, _, h => ⟨rfl, (cons.inj h).2⟩
  | [], c :: a', _, _, _, ha', h => by
    exact absurd (mem_cons.mpr (.inl (cons.inj h).1)) ha'
  | c :: a, [], _, _, ha, _, h => by
    exact absurd (mem_cons.mpr (.inl (cons.inj h).1.symm)) ha
  | c :: a, d :: a', _, _, ha, ha', h => by
    rw [cons_append, cons_append, cons.injEq] at h
    obtain ⟨hab, hb⟩ := append_sep_inj (fun hm => ha (mem_cons_of_mem _ hm))
      (fun hm => ha' (mem_cons_of_mem _ hm)) h.2
    exact ⟨by rw [h.1, hab], hb⟩

/-! ## Decimal fields -/

/-- `n` in decimal, with zeros on the left up to `w` characters. -/
def pad (w n : ℕ) : List Char := replicate (w - (toDigits 10 n).length) '0' ++ toDigits 10 n

/-- The nearest integer, ties to even. -/
def roundEven (x : ℚ) : ℤ :=
  let n := ⌊x⌋
  if x - n < 1 / 2 then n
  else if 1 / 2 < x - n then n + 1
  else if n % 2 = 0 then n else n + 1

/-- `x` with `d` digits behind the point. -/
def formatFixed (d : ℕ) (x : ℚ) : String :=
  let n := (roundEven (|x| * 10 ^ d)).toNat
  (if x < 0 then "-" else "") ++ (n / 10 ^ d).repr ++ "." ++ String.ofList (pad d (n % 10 ^ d))

variable {c : Char}

variable {w n m : ℕ}

lemma pad_isDigit (hc : c ∈ pad w n) : c.isDigit = true := by
  rw [pad, mem_append] at hc
  rcases hc with hc | hc
  · rw [eq_of_mem_replicate hc]; rfl
  · exact isDigit_of_mem_toDigits (by decide) (by decide) hc

lemma notMem_pad (hc : c.isDigit = false) : c ∉ pad w n := by
  intro h
  rw [pad_isDigit h] at hc
  exact Bool.noConfusion hc

lemma pad_ne_nil (w n : ℕ) : pad w n ≠ [] := by
  simp [pad]

lemma ofDigitChars_pad (w n : ℕ) : ofDigitChars 10 (pad w n) 0 = n := by
  rw [pad, ofDigitChars_append, ofDigitChars_replicate_zero, mul_zero,
    ofDigitChars_ten_toDigits]

lemma pad_inj (h : pad w m = pad w n) : m = n := by
  rw [← ofDigitChars_pad w m, h, ofDigitChars_pad]

lemma length_pad (hw : 0 < w) (hn : n < 10 ^ w) : (pad w n).length = w := by
  have hle : (toDigits 10 n).length ≤ w :=
    (length_toDigits_le_iff (by decide) hw).mpr hn
  rw [pad, length_append, length_replicate]
  omega

/-! ## The fraction of a second -/

/-- Nine decimals behind a point without trailing zeros; nothing for zero. -/
def fraction (nano : ℕ) : List Char :=
  match (pad 9 nano).rdropWhile (· = '0') with
  | [] => []
  | d :: ds => '.' :: d :: ds

lemma rdropWhile_inj {l l' : List Char} (hlen : l.length = l'.length)
    (h : l.rdropWhile (· = '0') = l'.rdropWhile (· = '0')) : l = l' := by
  have key : ∀ k : List Char, k = k.rdropWhile (· = '0') ++
        replicate (k.length - (k.rdropWhile (· = '0')).length) '0' := by
    intro k
    have hsplit : k.rdropWhile (· = '0') ++ k.rtakeWhile (· = '0') = k :=
      rdropWhile_append_rtakeWhile
    have hlast : k.rtakeWhile (· = '0') = replicate (k.rtakeWhile (· = '0')).length '0' := by
      refine eq_replicate_of_mem fun c hc => ?_
      simpa using mem_rtakeWhile_imp hc
    have hcount : k.length - (k.rdropWhile (· = '0')).length = (k.rtakeWhile (· = '0')).length := by
      have := congrArg length hsplit
      rw [length_append] at this
      omega
    rw [hcount, ← hlast, hsplit]
  rw [key l, key l', h, hlen]

lemma fraction_inj (hm : m < 10 ^ 9) (hn : n < 10 ^ 9) (h : fraction m = fraction n) : m = n := by
  have hdrop : (pad 9 m).rdropWhile (· = '0') = (pad 9 n).rdropWhile (· = '0') := by
    unfold fraction at h
    split at h <;> rename_i hm' <;> split at h <;> rename_i hn'
    · rw [hm', hn']
    · cases h
    · cases h
    · rw [hm', hn', (cons.inj h).2]
  refine pad_inj (rdropWhile_inj ?_ hdrop)
  rw [length_pad (by decide) hm, length_pad (by decide) hn]

/-! ## Length-prefixed fields -/

def bytes (s : String) : List UInt8 := s.toByteArray.data.toList

lemma bytes_inj {s t : String} (h : bytes s = bytes t) : s = t := by
  rw [bytes, bytes, Array.toList_inj] at h
  exact String.toByteArray_inj.mp (ByteArray.ext h)

lemma length_bytes (s : String) : (bytes s).length = s.utf8ByteSize := by
  rw [bytes, Array.length_toList]
  rfl

/-- `n` in decimal, as the bytes a formatter writes. -/
def numeral (n : ℕ) : List UInt8 := (toDigits 10 n).map fun c => c.toNat.toUInt8

def colon : UInt8 := 58

lemma digit_range (hc : c.isDigit = true) : 48 ≤ c.toNat ∧ c.toNat ≤ 57 :=
  Char.isDigit_iff_toNat.mp hc

lemma toUInt8_digit (hc : c.isDigit = true) : c.toNat.toUInt8.toNat = c.toNat := by
  have h := digit_range hc
  simp only [toUInt8_eq, UInt8.toNat_ofNat']
  omega

lemma colon_notMem_numeral (n : ℕ) : colon ∉ numeral n := by
  intro h
  obtain ⟨c, hc, hcol⟩ := mem_map.mp h
  have hd : c.isDigit = true := isDigit_of_mem_toDigits (by decide) (by decide) hc
  have hval := toUInt8_digit hd
  rw [hcol] at hval
  have h58 : c.toNat = 58 := hval.symm
  have := digit_range hd
  omega

lemma numeral_read (n : ℕ) : (numeral n).map (fun b => Char.ofNat b.toNat) = toDigits 10 n := by
  rw [numeral, map_map]
  refine (map_congr_left fun c hc => ?_).trans (map_id _)
  have hd : c.isDigit = true := isDigit_of_mem_toDigits (by decide) (by decide) hc
  rw [Function.comp_apply, toUInt8_digit hd, Char.ofNat_toNat, id]

lemma numeral_inj (h : numeral m = numeral n) : m = n := by
  have hchars : toDigits 10 m = toDigits 10 n := by
    rw [← numeral_read, h, numeral_read]
  rw [← ofDigitChars_ten_toDigits (n := m), hchars, ofDigitChars_ten_toDigits]

/-- One field behind its byte length and a colon. -/
def lengthPrefixed (s : String) : List UInt8 := numeral s.utf8ByteSize ++ colon :: bytes s

/-- **A length-prefixed field is delimited by its prefix**, whatever follows it. -/
lemma lengthPrefixed_append_inj {s t : String} {x y : List UInt8}
    (h : lengthPrefixed s ++ x = lengthPrefixed t ++ y) : s = t ∧ x = y := by
  simp only [lengthPrefixed, append_assoc, cons_append] at h
  -- the first colon ends the decimal length on both sides
  obtain ⟨hnum, hrest⟩ := append_sep_inj (colon_notMem_numeral _) (colon_notMem_numeral _) h
  have hlen : (bytes s).length = (bytes t).length := by
    rw [length_bytes, length_bytes, numeral_inj hnum]
  obtain ⟨hst, hxy⟩ := append_inj hrest hlen
  exact ⟨bytes_inj hst, hxy⟩

def encodeFields (fields : List String) : List UInt8 := fields.flatMap lengthPrefixed

/-- **The encoding of a list of fields determines the fields.** -/
theorem encodeFields_inj : ∀ {fs gs : List String}, encodeFields fs = encodeFields gs → fs = gs
  | [], [], _ => rfl
  | [], g :: gs, h => by simp [encodeFields, lengthPrefixed] at h
  | f :: fs, [], h => by simp [encodeFields, lengthPrefixed] at h
  | f :: fs, g :: gs, h => by
    simp only [encodeFields, flatMap_cons] at h
    obtain ⟨hfg, hrest⟩ := lengthPrefixed_append_inj h
    rw [hfg, encodeFields_inj hrest]

/-! ## Numbered keys -/

/-- A text, a colon, and a number in decimal. -/
def numbered (pre : String) (n : ℕ) : String := pre ++ ":" ++ n.repr

lemma numbered_inj {p q : String} (h : numbered p m = numbered q n) : p = q ∧ m = n := by
  have hcolon : ∀ k : ℕ, ':' ∉ (toDigits 10 k).reverse := fun k hc =>
    Bool.noConfusion (isDigit_of_mem_toDigits (by decide) (by decide)
      (mem_reverse.mp hc) : ':'.isDigit = true)
  -- read from the right, both keys reach their last colon behind the digits
  have hrev : (toDigits 10 m).reverse ++ ':' :: p.toList.reverse
      = (toDigits 10 n).reverse ++ ':' :: q.toList.reverse := by
    have hchars := congrArg (fun s => s.toList.reverse) h
    simpa [numbered] using hchars
  obtain ⟨hdigits, htext⟩ := append_sep_inj (hcolon m) (hcolon n) hrev
  refine ⟨String.toList_inj.mp (reverse_injective htext), ?_⟩
  rw [← ofDigitChars_ten_toDigits (n := m), reverse_injective hdigits, ofDigitChars_ten_toDigits]

end H2Fleet
