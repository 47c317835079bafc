import Mathlib.Tactic
import Mathlib.Data.Int.Basic

/-!
# Fares

The rows of `commerce.fare_payments` and the calculations of the payment handlers that need no
database: the daily cap and the other settings, the entitlement loop of `resolveEntitlement` over
the rows its query returns, the clamp to the remaining allowance, the classification of switch
failures, and the amount a refund request asks for.
-/

namespace H2Fleet.Commerce

open List

/-- Arithmetic of an `int64`, modulo `2 ^ 64`. -/
def toInt64 (x : ℤ) : ℤ := (x + 2 ^ 63) % 2 ^ 64 - 2 ^ 63

def InInt64 (x : ℤ) : Prop := -2 ^ 63 ≤ x ∧ x < 2 ^ 63
  deriving Decidable

lemma toInt64_eq {x : ℤ} (h : InInt64 x) : toInt64 x = x := by
  obtain ⟨hlow, hhigh⟩ := h
  rw [toInt64, Int.emod_eq_of_lt (by omega) (by omega)]
  ring

lemma toInt64_inInt64 (x : ℤ) : InInt64 (toInt64 x) := by
  rw [toInt64]
  constructor <;> omega

lemma toInt64_le {x : ℤ} (h : 0 ≤ x) : toInt64 x ≤ x := by
  rw [toInt64]
  omega

/-! ## Payments -/

inductive Status where
  | initiated
  | settled
  | failed
  | partiallyRefunded
  | refunded
  | mojaloopPayeeNotFound
  | mojaloopQuoteRejected
  | mojaloopTransferRejected
  | mojaloopTimeout
  | mojaloopUnavailable
  deriving DecidableEq

def Status.text : Status → String
  | .initiated => "initiated"
  | .settled => "settled"
  | .failed => "failed"
  | .partiallyRefunded => "partially_refunded"
  | .refunded => "refunded"
  | .mojaloopPayeeNotFound => "mojaloop_payee_not_found"
  | .mojaloopQuoteRejected => "mojaloop_quote_rejected"
  | .mojaloopTransferRejected => "mojaloop_transfer_rejected"
  | .mojaloopTimeout => "mojaloop_timeout"
  | .mojaloopUnavailable => "mojaloop_unavailable"

/-- `Payment`: a row of `commerce.fare_payments`. -/
structure Payment (ID : Type) where
  id : String
  riderSub : String
  amountMinor : ℤ
  chargedMinor : Option ℤ
  currency : String
  mojaloopTransferID : Option String
  tbTransferID : Option ID
  idempotencyKey : Option String
  status : Status
  refundedMinor : ℤ
  createdAt : ℤ
  deriving DecidableEq

def Payment.effectiveCharged {ID : Type} (p : Payment ID) : ℤ := p.chargedMinor.getD p.amountMinor

/-- The statuses of a settled payment, whatever has been refunded since. -/
def Status.charged : Status → Bool
  | .settled | .partiallyRefunded | .refunded => true
  | _ => false

/-- What the rider has paid for the payment and not got back. -/
def Payment.net {ID : Type} (p : Payment ID) : ℤ :=
  if p.status.charged then p.effectiveCharged - p.refundedMinor else 0

/-! ## Settings -/

/-- Decided along the list, not over all characters. -/
instance decidableHasNonDigit (cs : List Char) : Decidable (∃ c ∈ cs, c.isDigit = false) :=
  decidableBEx _ cs

def digitsValue (cs : List Char) : Option ℕ :=
  if cs = [] ∨ ∃ c ∈ cs, c.isDigit = false then none
  else some (cs.foldl (fun n c => 10 * n + (c.toNat - '0'.toNat)) 0)

/-- `strconv.ParseInt` with base 10 and 64 bits. -/
def parseInt64 (raw : String) : Option ℤ :=
  let value : Option ℤ :=
    match raw.toList with
    | '-' :: cs => (digitsValue cs).map fun n => -(n : ℤ)
    | '+' :: cs => (digitsValue cs).map fun n => (n : ℤ)
    | cs => (digitsValue cs).map fun n => (n : ℤ)
  value.filter fun n => decide (InInt64 n)

def dailyCapMinor (raw : String) : ℤ :=
  if raw = "" then 800
  else
    match parseInt64 raw with
    | none => 800
    | some n => if n < 0 then 800 else n

def fareCapTimezone (tz : String) : String := if tz ≠ "" then tz else "UTC"

def platformCurrency (c : String) : String := if c ≠ "" then c else "EUR"

lemma dailyCapMinor_inInt64 (raw : String) : 0 ≤ dailyCapMinor raw ∧
    dailyCapMinor raw < 2 ^ 63 := by
  rw [dailyCapMinor]
  split_ifs with hraw
  · norm_num
  · cases hparse : parseInt64 raw with
    | none => norm_num
    | some n =>
      have hrange : InInt64 n := by
        have := (Option.filter_eq_some_iff.mp hparse).2
        exact of_decide_eq_true this
      dsimp only
      split_ifs with hneg
      · norm_num
      · exact ⟨not_lt.mp hneg, hrange.2⟩

/-! ## Entitlements -/

inductive ProductKind where
  | pass
  | discount
  | free

/-- A row of `commerce.rider_entitlements` with its product; percentages are 0 to 100. -/
structure Entitlement where
  id : String
  riderSub : String
  kind : ProductKind
  discountPct : Option (Fin 101)
  code : String
  payerAccount : Option String
  validFrom : ℤ
  validTo : ℤ
  active : Bool

/-- What `resolveEntitlement` returns. -/
structure Quote where
  charge : ℤ
  code : String
  entitlementID : String
  payerAccount : Option String
  deriving DecidableEq

/-- The loop over the rows, with the best discount so far. -/
def resolveRows (amount : ℤ) : List Entitlement → ℕ → Quote → Quote
  | [], best, q =>
    if 0 < best then { q with charge := (toInt64 (amount * (100 - best))).tdiv 100 } else q
  | e :: es, best, q =>
    match e.kind with
    | .free | .pass => ⟨0, e.code, e.id, e.payerAccount⟩
    | .discount =>
      let pct := (e.discountPct.getD 0).val
      if best < pct then resolveRows amount es pct ⟨amount, e.code, e.id, e.payerAccount⟩
      else resolveRows amount es best q

def resolveEntitlement (entitlements : List Entitlement) (riderSub : String) (now amount : ℤ) :
    Quote :=
  resolveRows amount (entitlements.filter fun e =>
      e.riderSub = riderSub ∧ e.validFrom ≤ now ∧ now < e.validTo ∧ e.active = true)
    0 ⟨amount, "", "", none⟩

/-- What the loop prefers: full coverage, then the larger percentage. -/
def Entitlement.rank (e : Entitlement) : ℕ :=
  match e.kind with
  | .discount => (e.discountPct.getD 0).val
  | _ => 101

/-- The rows that the query of `resolveEntitlement` returns. -/
def activeRows (entitlements : List Entitlement) (riderSub : String) (now : ℤ) : List Entitlement :=
  entitlements.filter fun e =>
    e.riderSub = riderSub ∧ e.validFrom ≤ now ∧ now < e.validTo ∧ e.active = true

def topRank (rows : List Entitlement) : ℕ := (rows.map Entitlement.rank).foldr max 0

/-- The percentage taken off: all under full coverage, else the largest. -/
def percentage (rank : ℕ) : ℕ := min rank 100

def chargeAt (amount : ℤ) (rank : ℕ) : ℤ :=
  if rank = 0 then amount else (toInt64 (amount * (100 - percentage rank))).tdiv 100

def Entitlement.quote (amount : ℤ) (e : Entitlement) : Quote :=
  ⟨chargeAt amount e.rank, e.code, e.id, e.payerAccount⟩

variable {amount now : ℤ} {e : Entitlement} {entitlements rows : List Entitlement} {rider : String}
  {q : Quote}

lemma topRank_cons : topRank (e :: rows) = max e.rank (topRank rows) := rfl

lemma topRank_le (rows : List Entitlement) : topRank rows ≤ 101 := by
  refine max_le_of_forall_le _ _ fun n hn => ?_
  obtain ⟨e, -, rfl⟩ := mem_map.mp hn
  rw [Entitlement.rank]
  split <;> omega

/-- The first of the best rows. -/
def deciding (rows : List Entitlement) : Option Entitlement :=
  rows.find? fun e => e.rank = topRank rows

lemma deciding_cons_self (h : topRank rows ≤ e.rank) : deciding (e :: rows) = some e :=
  find?_cons_of_pos (by simpa [topRank_cons] using h)

lemma deciding_cons_of_lt (h : e.rank < topRank rows) : deciding (e :: rows) = deciding rows := by
  rw [deciding, find?_cons_of_neg (by simpa [topRank_cons] using h), topRank_cons,
    max_eq_right h.le]
  rfl

lemma resolveRows_cases (rows : List Entitlement) : ∀ (best : ℕ) (q : Quote), best ≤ 100 →
    q.charge = amount →
    (topRank rows ≤ best ∧
    resolveRows amount rows best q = { q with charge := chargeAt amount best }) ∨
      (best < topRank rows ∧
        ∃ e, deciding rows = some e ∧ resolveRows amount rows best q = e.quote amount) := by
  induction rows with
  | nil =>
    rintro best q hbest rfl
    refine .inl ⟨Nat.zero_le _, ?_⟩
    rw [resolveRows, chargeAt, percentage, min_eq_left hbest]
    by_cases hzero : best = 0
    · simp [hzero]
    · simp [hzero, Nat.pos_of_ne_zero hzero]
  | cons e rows ih =>
    intro best q hbest hq
    rw [resolveRows, topRank_cons]
    cases hkind : e.kind with
    | free | pass =>
      have hrank : e.rank = 101 := by rw [Entitlement.rank, hkind]
      refine .inr ⟨by omega, e, deciding_cons_self (hrank ▸ topRank_le rows), ?_⟩
      simp [Entitlement.quote, hrank, chargeAt, percentage, toInt64]
    | discount =>
      have hrank : e.rank = (e.discountPct.getD 0).val := by rw [Entitlement.rank, hkind]
      simp only [← hrank]
      split_ifs with hlt
      · rcases ih e.rank ⟨amount, e.code, e.id, e.payerAccount⟩ (by omega) rfl with
          ⟨htop, heq⟩ | ⟨htop, hrest⟩
        · exact .inr ⟨by omega, e, deciding_cons_self htop, heq⟩
        · exact .inr ⟨by omega, deciding_cons_of_lt htop ▸ hrest⟩
      · rcases ih best q hbest hq with ⟨htop, heq⟩ | ⟨htop, hrest⟩
        · exact .inl ⟨by omega, heq⟩
        · exact .inr ⟨by omega, deciding_cons_of_lt (by omega : e.rank < topRank rows) ▸ hrest⟩

lemma resolveEntitlement_cases (amount : ℤ) (hrows : activeRows entitlements rider now = rows) :
    (topRank rows = 0 ∧ resolveEntitlement entitlements rider now amount = ⟨amount, "", "", none⟩) ∨
      (0 < topRank rows ∧ ∃ e ∈ rows, e.rank = topRank rows ∧ deciding rows = some e ∧
        resolveEntitlement entitlements rider now amount = e.quote amount) := by
  subst hrows
  refine (resolveRows_cases _ 0 ⟨amount, "", "", none⟩ (Nat.zero_le _) rfl).imp
    (And.imp_left Nat.le_zero.mp) (And.imp_right ?_)
  rintro ⟨e, he, heq⟩
  exact ⟨e, mem_of_find?_eq_some he, by simpa using find?_some he, he, heq⟩

lemma resolveEntitlement_chargeAt (hrows : activeRows entitlements rider now = rows) :
    (resolveEntitlement entitlements rider now amount).charge = chargeAt amount (topRank rows) := by
  rcases resolveEntitlement_cases amount hrows with ⟨htop, heq⟩ | ⟨-, e, -, hrank, -, heq⟩
  · rw [heq, htop]
    rfl
  · rw [heq, ← hrank]
    rfl

lemma discounted_le (hpos : 0 < amount) (best : ℕ) (hbest : best ≤ 100) :
    -2 ^ 63 ≤ (toInt64 (amount * (100 - best))).tdiv 100 ∧
      (toInt64 (amount * (100 - best))).tdiv 100 ≤ amount := by
  have hproduct : 0 ≤ amount * (100 - (best : ℤ)) := by
    apply mul_nonneg <;> omega
  have hle : amount * (100 - (best : ℤ)) ≤ amount * 100 := by
    apply mul_le_mul_of_nonneg_left <;> omega
  have hwrapped := toInt64_le hproduct
  obtain ⟨hlow, -⟩ := toInt64_inInt64 (amount * (100 - (best : ℤ)))
  generalize toInt64 (amount * (100 - (best : ℤ))) = x at *
  rcases le_total 0 x with hx | hx
  · rw [Int.tdiv_eq_ediv_of_nonneg hx]
    omega
  · obtain ⟨y, rfl⟩ : ∃ y, x = -y := ⟨-x, by omega⟩
    rw [Int.neg_tdiv, Int.tdiv_eq_ediv_of_nonneg (by omega)]
    omega

lemma resolveEntitlement_charge (hpos : 0 < amount) (entitlements : List Entitlement)
    (rider : String) (now : ℤ) :
    -2 ^ 63 ≤ (resolveEntitlement entitlements rider now amount).charge ∧
      (resolveEntitlement entitlements rider now amount).charge ≤ amount := by
  rw [resolveEntitlement_chargeAt rfl, chargeAt]
  split_ifs
  · omega
  · exact discounted_le hpos _ (min_le_right _ _)

/-- A product out of range is off by a multiple of `2 ^ 64`, and so is the quotient. -/
lemma chargeAt_eq_iff (hpos : 0 < amount) (rank : ℕ) :
    chargeAt amount rank = amount * (100 - percentage rank) / 100 ↔
      percentage rank = 0 ∨ amount * (100 - percentage rank) < 2 ^ 63 := by
  rw [chargeAt]
  split_ifs with hrank
  · simp [hrank, percentage]
  · have hp : percentage rank ≠ 0 ∧ percentage rank ≤ 100 := by
      rw [percentage]
      omega
    have hproduct : 0 ≤ amount * (100 - (percentage rank : ℤ)) := mul_nonneg hpos.le (by omega)
    generalize amount * (100 - (percentage rank : ℤ)) = x at *
    rcases lt_or_ge x (2 ^ 63) with hlt | hge
    · rw [toInt64_eq ⟨by omega, hlt⟩, Int.tdiv_eq_ediv_of_nonneg hproduct]
      exact iff_of_true rfl (.inr hlt)
    · have hless : (toInt64 x).tdiv 100 ≤ (x - 100).tdiv 100 :=
        Int.tdiv_le_tdiv (by norm_num) (by rw [toInt64]; omega)
      rw [Int.tdiv_eq_ediv_of_nonneg (a := x - 100) (by omega)] at hless
      omega

/-- **When a discount is exact**: the charge is the fare less the percentage, rounded down, if and
only if no percentage applies or the product fits into an `int64`. -/
theorem discount_exact_iff (hpos : 0 < amount) (hrows : activeRows entitlements rider now = rows)
    (hq : resolveEntitlement entitlements rider now amount = q) :
    (q.charge = amount * (100 - percentage (topRank rows)) / 100 ∧ 0 ≤ q.charge ∧
    q.charge ≤ amount) ↔
      percentage (topRank rows) = 0 ∨ amount * (100 - percentage (topRank rows)) < 2 ^ 63 := by
  subst hq
  rw [← chargeAt_eq_iff hpos, ← resolveEntitlement_chargeAt hrows]
  refine ⟨And.left, fun hexact => ⟨hexact, ?_, (resolveEntitlement_charge hpos _ _ _).2⟩⟩
  rw [hexact]
  refine Int.ediv_nonneg (mul_nonneg hpos.le ?_) (by norm_num)
  rw [percentage]
  omega

def halfOff (id : String) (payer : Option String) : Entitlement :=
  ⟨id, "rider-1", .discount, some 50, "half", payer, 0, 10, true⟩

theorem half_fare_exact : (resolveEntitlement [halfOff "e-1" none] "rider-1" 5 250).charge = 125 :=
  ((discount_exact_iff (by norm_num : (0 : ℤ) < 250) rfl rfl).mpr (by decide)).1

/-- Half of a fare whose product does not fit is a negative charge. -/
theorem discount_overflows : (resolveEntitlement [halfOff "e-1" none] "rider-1" 5 (2 ^ 62)).charge =
    -92233720368547758 := by
  decide +kernel

lemma exists_order (amount : ℤ) (hrows : activeRows entitlements rider now = rows) (he : e ∈ rows)
    (hrank : e.rank = topRank rows) (hpos : 0 < e.rank) :
    ∃ es, es ~ entitlements ∧ resolveEntitlement es rider now amount = e.quote amount := by
  subst hrows
  obtain ⟨hmem, hactive⟩ := mem_filter.mp he
  obtain ⟨before, after, rfl⟩ := append_of_mem hmem
  refine ⟨e :: (before ++ after), perm_middle.symm, ?_⟩
  have hfirst : activeRows (e :: (before ++ after)) rider now =
      e :: activeRows (before ++ after) rider now := filter_cons_of_pos hactive
  have htop : topRank (e :: activeRows (before ++ after) rider now) = e.rank := by
    rw [hrank, ← hfirst]
    exact ((perm_middle.symm.filter _).map _).foldr_eq 0
  rcases resolveEntitlement_cases amount hfirst with ⟨hzero, -⟩ | ⟨-, f, -, -, hf, hq⟩
  · omega
  · rw [topRank_cons, max_eq_left_iff] at htop
    rw [deciding_cons_self htop] at hf
    cases hf
    exact hq

/-- **When the order of the rows does not matter**: if and only if all best rows give the same quote
and the charge is exact. -/
theorem resolution_order_iff (hpos : 0 < amount) (hrows : activeRows entitlements rider now = rows)
    (hq : resolveEntitlement entitlements rider now amount = q) :
    ((∀ es, es ~ entitlements → resolveEntitlement es rider now amount = q) ∧
      q.charge = amount * (100 - percentage (topRank rows)) / 100) ↔
    (∀ e ∈ rows, ∀ f ∈ rows, e.rank = topRank rows → f.rank = e.rank → 0 < e.rank →
        e.quote amount = f.quote amount) ∧
      (percentage (topRank rows) = 0 ∨ amount * (100 - percentage (topRank rows)) < 2 ^ 63) := by
  subst hq
  rw [resolveEntitlement_chargeAt hrows, chargeAt_eq_iff hpos]
  refine and_congr_left fun _ =>
    ⟨fun horder e he f hf hrank hsame hbest => ?_, fun hties es hes => ?_⟩
  · obtain ⟨es, hes, heq⟩ := exists_order amount hrows he hrank hbest
    obtain ⟨fs, hfs, hfeq⟩ := exists_order amount hrows hf (hsame.trans hrank) (hsame ▸ hbest)
    rw [← heq, ← hfeq, horder es hes, horder fs hfs]
  · have hperm : activeRows es rider now ~ rows := hrows ▸ hes.filter _
    have htop : topRank (activeRows es rider now) = topRank rows := (hperm.map _).foldr_eq 0
    rcases resolveEntitlement_cases amount (Eq.refl (activeRows es rider now)) with
      ⟨hzero, heq⟩ | ⟨hbest, e, he, hrank, -, heq⟩ <;>
    rcases resolveEntitlement_cases amount hrows with ⟨hzero', heq'⟩ | ⟨hbest', f, hf,
      hrank', -, heq'⟩
    · rw [heq, heq']
    · omega
    · omega
    · rw [heq, heq']
      exact hties e (hperm.mem_iff.mp he) f hf (by omega) (by omega) (by omega)

def quarterOff (id : String) : Entitlement :=
  ⟨id, "rider-1", .discount, some 25, "quarter", none, 0, 10, true⟩

/-- The larger of two discounts decides, and the employer pays in either order. -/
theorem larger_discount_resolves :
    resolveEntitlement [quarterOff "e-1", halfOff "e-2" (some "acme")] "rider-1" 5 250 =
        ⟨125, "half", "e-2", some "acme"⟩ ∧
      resolveEntitlement [halfOff "e-2" (some "acme"), quarterOff "e-1"] "rider-1" 5 250 =
        ⟨125, "half", "e-2", some "acme"⟩ := by
  have hquote : resolveEntitlement [quarterOff "e-1", halfOff "e-2" (some "acme")] "rider-1" 5 250 =
      ⟨125, "half", "e-2", some "acme"⟩ := by decide +kernel
  have horder := ((resolution_order_iff (by norm_num) rfl hquote).mpr (by decide +kernel)).1
  exact ⟨hquote, horder _ (.swap _ _ _)⟩

/-- Of two equal discounts, one of an employer, the order decides who is billed. -/
theorem order_decides_payer :
    resolveEntitlement [halfOff "e-1" none, halfOff "e-2" (some "acme")] "rider-1" 5 250 =
        ⟨125, "half", "e-1", none⟩ ∧
      resolveEntitlement [halfOff "e-2" (some "acme"), halfOff "e-1" none] "rider-1" 5 250 =
        ⟨125, "half", "e-2", some "acme"⟩ := by
  decide +kernel

/-! ## The cap -/

/-- The query for what the rider has been charged since `dayStart`. -/
def spentToday {ID : Type} (rows : List (Payment ID)) (riderSub : String) (dayStart : ℤ) : ℤ :=
  ((rows.filter fun p => p.riderSub = riderSub ∧ p.status = .settled ∧ dayStart ≤ p.createdAt).map
    Payment.effectiveCharged).sum

/-- The clamp to what is left of the cap. -/
def applyCap (cap spent charge : ℤ) : ℤ :=
  let remaining := toInt64 (cap - spent)
  if remaining < charge then max remaining 0 else charge

lemma applyCap_nonneg {cap spent charge : ℤ} (h : 0 ≤ charge) : 0 ≤ applyCap cap spent charge := by
  simp only [applyCap]
  split_ifs with hlt
  · exact le_max_right _ _
  · exact h

lemma applyCap_le_charge {cap spent charge : ℤ} (h : 0 ≤ charge) :
    applyCap cap spent charge ≤ charge := by
  simp only [applyCap]
  split_ifs with hlt
  · exact max_le hlt.le h
  · exact le_rfl

/-- **The charge fits into the cap**, or nothing is left and nothing charged. -/
lemma applyCap_le {cap spent : ℤ} (charge : ℤ) (hcap : 0 ≤ cap ∧ cap < 2 ^ 63)
    (hspent : 0 ≤ spent ∧ spent < 2 ^ 63) :
    spent + applyCap cap spent charge ≤ cap ∨ applyCap cap spent charge = 0 := by
  have hrange : InInt64 (cap - spent) := by
    constructor <;> omega
  simp only [applyCap, toInt64_eq hrange]
  split_ifs with hlt
  · rcases le_total (cap - spent) 0 with hneg | hpos
    · exact .inr (max_eq_right hneg)
    · left
      rw [max_eq_left hpos]
      omega
  · left
    omega

/-! ## The switch -/

inductive ErrorKind where
  | validation
  | payeeNotFound
  | quoteRejected
  | transferRejected
  | duplicate
  | timeout
  | unavailable
  deriving DecidableEq

def ErrorKind.text : ErrorKind → String
  | .validation => "validation"
  | .payeeNotFound => "payee_not_found"
  | .quoteRejected => "quote_rejected"
  | .transferRejected => "transfer_rejected"
  | .duplicate => "duplicate"
  | .timeout => "timeout"
  | .unavailable => "switch_unavailable"

/-- `mojaloop.Error`, as far as its text and its kind go. -/
structure MojaloopError where
  op : String
  kind : ErrorKind
  httpStatus : ℕ
  message : String

inductive SwitchError where
  | classified (e : MojaloopError)
  | plain (text : String)

def SwitchError.text : SwitchError → String
  | .plain text => text
  | .classified e =>
    if e.httpStatus ≠ 0 then
      "mojaloop " ++ e.op ++ ": " ++ e.kind.text ++ " (http " ++ e.httpStatus.repr ++ "): " ++
        e.message
    else "mojaloop " ++ e.op ++ ": " ++ e.kind.text ++ ": " ++ e.message

def paymentStatus : Option SwitchError → Status
  | none => .settled
  | some err =>
    let kind :=
      match err with
      | .classified e => e.kind
      | .plain _ => .unavailable
    match kind with
    | .payeeNotFound => .mojaloopPayeeNotFound
    | .quoteRejected => .mojaloopQuoteRejected
    | .transferRejected => .mojaloopTransferRejected
    | .timeout => .mojaloopTimeout
    | .validation => .failed
    | .duplicate | .unavailable => .mojaloopUnavailable

lemma paymentStatus_not_charged (err : SwitchError) :
    (paymentStatus (some err)).charged = false := by
  rcases err with e | text
  · obtain ⟨op, kind, http, message⟩ := e
    cases kind <;> rfl
  · rfl

/-! ## Responses and refund requests -/

structure Response (ID : Type) where
  code : ℕ
  error : Option String
  payment : Option (Payment ID)

def Response.refuse {ID : Type} (code : ℕ) (text : String) : Response ID := ⟨code, some text, none⟩

def internalError {ID : Type} : Response ID := .refuse 500 "internal error"

/-- The first part of `RefundPayment`, on the loaded row and the amount. -/
def refundAmount {ID : Type} (row : Option (Payment ID)) (requested : Option ℤ) :
    Except (Response ID) (Payment ID × ℤ) :=
  match row with
  | none => .error (.refuse 404 "payment not found")
  | some p =>
    if p.status = .refunded then .error ⟨200, none, some p⟩
    else if p.status ≠ .settled ∧ p.status ≠ .partiallyRefunded then
      .error (.refuse 409
        ("only settled payments can be refunded (status " ++ p.status.text ++ ")"))
    else
      let remainder := max (p.effectiveCharged - p.refundedMinor) 0
      match requested with
      | none => .ok (p, remainder)
      | some n =>
        if n ≤ 0 ∨ remainder < n then
          .error (.refuse 422 ("amount_minor must be between 1 and the refundable remainder (" ++
              toString remainder ++ ")"))
        else .ok (p, n)

/-- **What an accepted refund request asks for.** -/
lemma refundAmount_ok {ID : Type} {row : Option (Payment ID)} {requested : Option ℤ}
    {p : Payment ID} (h : refundAmount row requested = .ok (p, amount)) :
    row = some p ∧ (p.status = .settled ∨ p.status = .partiallyRefunded) ∧
      0 ≤ amount ∧ amount ≤ max (p.effectiveCharged - p.refundedMinor) 0 := by
  cases row with
  | none => simp [refundAmount] at h
  | some q =>
    simp only [refundAmount] at h
    by_cases hrefunded : q.status = .refunded
    · rw [if_pos hrefunded] at h
      cases h
    · rw [if_neg hrefunded] at h
      by_cases hstatus : q.status ≠ .settled ∧ q.status ≠ .partiallyRefunded
      · rw [if_pos hstatus] at h
        cases h
      · rw [if_neg hstatus] at h
        have hor : q.status = .settled ∨ q.status = .partiallyRefunded := by tauto
        cases requested with
        | none =>
          cases h
          exact ⟨rfl, hor, le_max_right _ _, le_rfl⟩
        | some n =>
          by_cases hn : n ≤ 0 ∨ max (q.effectiveCharged - q.refundedMinor) 0 < n
          · simp only [if_pos hn] at h
            cases h
          · simp only [if_neg hn] at h
            cases h
            rw [not_or, not_le, not_lt] at hn
            exact ⟨rfl, hor, hn.1.le, hn.2⟩

end H2Fleet.Commerce
