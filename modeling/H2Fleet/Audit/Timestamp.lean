import H2Fleet.Core.Codec

/-!
# The timestamp of an audit row

An audit entry carries a `time.Time`, nanoseconds included; the hash is taken over its rendering in
`time.RFC3339Nano`, while the column `ts timestamptz` keeps whole microseconds.  Instants are
counted in nanoseconds since the Unix epoch.
-/

namespace H2Fleet.Audit

/-! ## Dates -/

structure Civil where
  year : ℤ
  month : ℤ
  day : ℤ

/-- The year of an era that its day `doe` falls in; years start in March, a leap day ends one. -/
def yearOfEra (doe : ℤ) : ℤ :=
  let century := min (doe / 36524) 3
  let cycle := (doe - 36524 * century) / 1461
  let year := min ((doe - 36524 * century - 1461 * cycle) / 365) 3
  100 * century + 4 * cycle + year

/-- The days of the era before its year `yoe`. -/
def daysBefore (yoe : ℤ) : ℤ := 365 * yoe + yoe / 4 - yoe / 100

/-- The month counted from March, for a day of such a year. -/
def monthFromMarch (doy : ℤ) : ℤ := (5 * doy + 2) / 153

/-- The date of day `doy` of year `yoe` of an era. -/
def civilOfEra (era yoe doy : ℤ) : Civil :=
  let mp := monthFromMarch doy
  { year := yoe + era * 400 + (if mp < 10 then 0 else 1)
    month := if mp < 10 then mp + 3 else mp - 9
    day := doy - (153 * mp + 2) / 5 + 1 }

/-- The date of the day `days` after 1970-01-01. -/
def civil (days : ℤ) : Civil :=
  let z := days + 719468
  let doe := z % 146097
  civilOfEra (z / 146097) (yearOfEra doe) (doe - daysBefore (yearOfEra doe))

/-- The day number of a date: the inverse of `civil`. -/
def dayNumber (c : Civil) : ℤ :=
  let y := if c.month ≤ 2 then c.year - 1 else c.year
  let mp := if c.month ≤ 2 then c.month + 9 else c.month - 3
  y / 400 * 146097 + daysBefore (y % 400) + ((153 * mp + 2) / 5 + c.day - 1) - 719468

lemma yearOfEra_range {doe : ℤ} (h0 : 0 ≤ doe) (h1 : doe < 146097) :
    0 ≤ yearOfEra doe ∧ yearOfEra doe < 400 := by
  simp only [yearOfEra]
  constructor <;> omega

lemma dayOfYear_range {doe : ℤ} (h0 : 0 ≤ doe) (h1 : doe < 146097) :
    0 ≤ doe - daysBefore (yearOfEra doe) ∧ doe - daysBefore (yearOfEra doe) ≤ 365 := by
  simp only [yearOfEra]
  generalize hc : min (doe / 36524) 3 = c
  generalize hq : (doe - 36524 * c) / 1461 = q
  generalize hy : min ((doe - 36524 * c - 1461 * q) / 365) 3 = y
  -- the leap days before the year are those of the whole cycles and centuries before it
  have hbefore : daysBefore (100 * c + 4 * q + y) = 36524 * c + 1461 * q + 365 * y := by
    have h4 : (100 * c + 4 * q + y) / 4 = 25 * c + q := by omega
    have h100 : (100 * c + 4 * q + y) / 100 = c := by omega
    rw [daysBefore, h4, h100]
    ring
  rw [hbefore]
  constructor <;> omega

lemma dayNumber_civilOfEra {era yoe doy : ℤ} (hy : 0 ≤ yoe ∧ yoe < 400) (hd : 0 ≤ doy ∧ doy ≤ 365) :
    dayNumber (civilOfEra era yoe doy) = era * 146097 + daysBefore yoe + doy - 719468 := by
  have hmp : 0 ≤ monthFromMarch doy ∧ monthFromMarch doy ≤ 11 := by
    simp only [monthFromMarch]
    constructor <;> omega
  by_cases hlt : monthFromMarch doy < 10
  · have hm : ¬ monthFromMarch doy + 3 ≤ 2 := by omega
    have hq : (yoe + era * 400 + 0) / 400 = era := by omega
    have hr : (yoe + era * 400 + 0) % 400 = yoe := by omega
    simp only [dayNumber, civilOfEra, if_pos hlt, if_neg hm, hq, hr]
    omega
  · have hm : monthFromMarch doy - 9 ≤ 2 := by omega
    have hq : (yoe + era * 400 + 1 - 1) / 400 = era := by omega
    have hr : (yoe + era * 400 + 1 - 1) % 400 = yoe := by omega
    simp only [dayNumber, civilOfEra, if_neg hlt, if_pos hm, hq, hr]
    omega

lemma dayNumber_civil (days : ℤ) : dayNumber (civil days) = days := by
  have h0 : 0 ≤ (days + 719468) % 146097 := by omega
  have h1 : (days + 719468) % 146097 < 146097 := by omega
  rw [civil, dayNumber_civilOfEra (yearOfEra_range h0 h1) (dayOfYear_range h0 h1)]
  omega

lemma civil_inj {d d' : ℤ} (h : civil d = civil d') : d = d' := by
  rw [← dayNumber_civil d, h, dayNumber_civil]

lemma civil_range (days : ℤ) : (0 ≤ (civil days).month ∧ (civil days).month < 100) ∧
    (0 ≤ (civil days).day ∧ (civil days).day < 100) := by
  have h0 : 0 ≤ (days + 719468) % 146097 := by omega
  have h1 : (days + 719468) % 146097 < 146097 := by omega
  have hdoy := dayOfYear_range h0 h1
  rw [civil, civilOfEra]
  generalize (days + 719468) % 146097 - daysBefore
    (yearOfEra ((days + 719468) % 146097)) = doy at hdoy ⊢
  simp only [monthFromMarch]
  split_ifs <;> refine ⟨⟨?_, ?_⟩, ?_, ?_⟩ <;> omega

/-! ## Rendering -/

def nanosPerSecond : ℤ := 1000000000

/-- Days since the epoch, second of the day, nanosecond of the second. -/
def dayOf (t : ℤ) : ℤ := t / nanosPerSecond / 86400
def secondOfDay (t : ℤ) : ℕ := (t / nanosPerSecond % 86400).toNat
def nanosecond (t : ℤ) : ℕ := (t % nanosPerSecond).toNat

/-- At least four digits, behind a minus sign if negative. -/
def appendYear (y : ℤ) : List Char := (if y < 0 then ['-'] else []) ++ pad 4 y.natAbs

/-- What `appendFormatRFC3339` writes for UTC. -/
def formatChars (t : ℤ) : List Char :=
  appendYear (civil (dayOf t)).year ++ '-' :: (pad 2 (civil (dayOf t)).month.toNat ++
    '-' :: (pad 2 (civil (dayOf t)).day.toNat ++ 'T' :: (pad 2 (secondOfDay t / 3600) ++
    ':' :: (pad 2 (secondOfDay t / 60 % 60) ++ ':' :: (pad 2 (secondOfDay t % 60) ++
    (fraction (nanosecond t) ++ ['Z']))))))

/-- `t.UTC().Format(time.RFC3339Nano)`. -/
def formatRFC3339Nano (t : ℤ) : String := String.ofList (formatChars t)

lemma appendYear_append_inj {y y' : ℤ} {x x' : List Char}
    (h : appendYear y ++ '-' :: x = appendYear y' ++ '-' :: x') : y = y' ∧ x = x' := by
  have hdash : ∀ n, '-' ∉ pad 4 n := fun n => notMem_pad rfl
  -- a negative and a non-negative year differ in their first character
  have hsign : ∀ {a b : ℕ} {u v : List Char},
    ['-'] ++ pad 4 a ++ '-' :: u ≠ pad 4 b ++ '-' :: v := by
    intro a b u v heq
    obtain ⟨c, cs, hb⟩ := List.exists_cons_of_ne_nil (pad_ne_nil 4 b)
    rw [hb] at heq
    have hc : '-' = c := (List.cons.inj heq).1
    exact hdash b (by rw [hb, ← hc]; exact List.mem_cons_self)
  unfold appendYear at h
  split_ifs at h with hy hy' hy'
  · simp only [List.cons_append, List.nil_append, List.cons.injEq, true_and] at h
    obtain ⟨hp, hx⟩ := append_sep_inj (hdash _) (hdash _) h
    have := pad_inj hp
    exact ⟨by omega, hx⟩
  · exact absurd h hsign
  · exact absurd h.symm hsign
  · obtain ⟨hp, hx⟩ := append_sep_inj (hdash _) (hdash _) h
    have := pad_inj hp
    exact ⟨by omega, hx⟩

lemma nanosecond_lt (t : ℤ) : nanosecond t < 10 ^ 9 := by
  have := Int.emod_lt_of_pos t (show (0 : ℤ) < nanosPerSecond by decide)
  unfold nanosecond nanosPerSecond at *
  omega

lemma instant_ext {t t' : ℤ} (hd : dayOf t = dayOf t') (hs : secondOfDay t = secondOfDay t')
    (hn : nanosecond t = nanosecond t') : t = t' := by
  unfold dayOf at hd
  unfold secondOfDay at hs
  unfold nanosecond at hn
  unfold nanosPerSecond at *
  omega

/-- **One rendering, one instant.**  The fields end at their separators, the fraction before `Z`. -/
theorem formatRFC3339Nano_inj {t t' : ℤ} (h : formatRFC3339Nano t = formatRFC3339Nano t') :
    t = t' := by
  have hchars : formatChars t = formatChars t' := by
    have := congrArg String.toList h
    simpa [formatRFC3339Nano] using this
  unfold formatChars at hchars
  obtain ⟨hyear, h1⟩ := appendYear_append_inj hchars
  obtain ⟨hmonth, h2⟩ := append_sep_inj (notMem_pad rfl) (notMem_pad rfl) h1
  obtain ⟨hday, h3⟩ := append_sep_inj (notMem_pad rfl) (notMem_pad rfl) h2
  obtain ⟨hhour, h4⟩ := append_sep_inj (notMem_pad rfl) (notMem_pad rfl) h3
  obtain ⟨hmin, h5⟩ := append_sep_inj (notMem_pad rfl) (notMem_pad rfl) h4
  have hwidth : ∀ s : ℕ, (pad 2 (s % 60)).length = 2 := fun s =>
    length_pad (by decide) (by omega)
  obtain ⟨hsec, h6⟩ := List.append_inj h5 (by rw [hwidth, hwidth])
  have hfrac := List.append_cancel_right h6
  have hdate : civil (dayOf t) = civil (dayOf t') := by
    have hr := civil_range (dayOf t)
    have hr' := civil_range (dayOf t')
    have hm := pad_inj hmonth
    have hd := pad_inj hday
    rw [Civil.mk.injEq]
    exact ⟨hyear, by omega, by omega⟩
  refine instant_ext (civil_inj hdate) ?_ (fraction_inj (nanosecond_lt t) (nanosecond_lt t') hfrac)
  have hh := pad_inj hhour
  have hmi := pad_inj hmin
  have hse := pad_inj hsec
  omega

example : formatRFC3339Nano 1735787045000000000 = "2025-01-02T03:04:05Z" := by decide +kernel

example : formatRFC3339Nano (-1500000) = "1969-12-31T23:59:59.9985Z" := by decide +kernel

/-! ## The column -/

/-- The value of a `timestamptz` column: the driver divides by 1000, rounding to the past. -/
def toMicros (t : ℤ) : ℤ := t / 1000

/-- The instant read back from the column. -/
def ofMicros (us : ℤ) : ℤ := us * 1000

lemma ofMicros_toMicros_iff (t : ℤ) : ofMicros (toMicros t) = t ↔ t % 1000 = 0 := by
  unfold ofMicros toMicros
  omega

end H2Fleet.Audit
