import H2Fleet.Commerce.Steps

/-!
# The transfer ids of the money operations

Every money operation derives its transfer id from a text: the invoice, the credit, the payment and
the running total of a refund, or the `Idempotency-Key` of the client.  Five of the six put a word
in front; a fare is posted under the bare key.  Top-ups leave no row, so nothing stops two riders
from using one key.  The text of a refund has the total that it leads to and not its amount.

* **`transferIDs_distinct_iff`** — in a run of requests all operations have ids of their own exactly
  if no request clashes with an earlier one.
-/

namespace H2Fleet.Commerce

/-- A request repeated with its key is the same operation; a refund is told apart by its amount and
the total that it leads to. -/
inductive MoneyOp where
  | fare (rider key : String)
  | topUp (rider key : String)
  | refund (paymentID : String) (amount total : ℕ)
  | trade (key : String)
  | invoice (id : String)
  | carbon (creditID : String)
  deriving DecidableEq

namespace MoneyOp

def ledgerKey : MoneyOp → String
  | .fare _ key => key
  | .topUp _ key => "topup:" ++ key
  | .refund paymentID _ total => refundKey paymentID total
  | .trade key => "trade:" ++ key
  | .invoice id => "invoice:" ++ id
  | .carbon creditID => "carbon:" ++ creditID

def transferID {ID : Type} (sha16 : String → ID) (o : MoneyOp) : ID :=
  Ledger.deterministicTransferID sha16 o.ledgerKey

def fareKey? : MoneyOp → Option String
  | .fare _ key => some key
  | _ => none

def topUpKey? : MoneyOp → Option String
  | .topUp _ key => some key
  | _ => none

/-- The payment of a refund and the total that it leads to. -/
def refundTo? : MoneyOp → Option (String × ℕ)
  | .refund paymentID _ total => some (paymentID, total)
  | _ => none

/-- The first two characters of the text, unless a client chooses them. -/
def tag : MoneyOp → Option (List Char)
  | .fare _ _ => none
  | .topUp _ _ => some ['t', 'o']
  | .refund _ _ _ => some ['r', 'e']
  | .trade _ => some ['t', 'r']
  | .invoice _ => some ['i', 'n']
  | .carbon _ => some ['c', 'a']

lemma take_ledgerKey {o : MoneyOp} {cs : List Char} (h : o.tag = some cs) :
    o.ledgerKey.toList.take 2 = cs := by
  cases o with
  | fare rider key => cases h
  | topUp _ _ | refund _ _ _ | trade _ | invoice _ | carbon _ =>
    cases h
    simp [ledgerKey, refundKey, numbered]

end MoneyOp

/-! ## Clashes -/

/-- **A clash**: a fare under the text of another operation, one top-up key for two riders, or two
refunds of different amounts to the same total. -/
def Clash (o o' : MoneyOp) : Prop :=
  o ≠ o' ∧ (o.fareKey? = some o'.ledgerKey ∨ o'.fareKey? = some o.ledgerKey ∨
    (o.topUpKey?.isSome = true ∧ o.topUpKey? = o'.topUpKey?) ∨
    (o.refundTo?.isSome = true ∧ o.refundTo? = o'.refundTo?))
  deriving Decidable

variable {o o' : MoneyOp}

lemma Clash.symm (h : Clash o o') : Clash o' o := by
  obtain ⟨hne, hfare | hfare | ⟨hsome, heq⟩ | ⟨hsome, heq⟩⟩ := h
  · exact ⟨hne.symm, .inr (.inl hfare)⟩
  · exact ⟨hne.symm, .inl hfare⟩
  · exact ⟨hne.symm, .inr (.inr (.inl ⟨heq ▸ hsome, heq.symm⟩))⟩
  · exact ⟨hne.symm, .inr (.inr (.inr ⟨heq ▸ hsome, heq.symm⟩))⟩

lemma fareKey_of_tag (ho : o.tag = none) : o.fareKey? = some o.ledgerKey := by
  cases o with
  | fare rider key => rfl
  | _ => cases ho

lemma eq_of_tag (h : o.ledgerKey = o'.ledgerKey) (htag : o.tag = o'.tag) (ho : o.tag ≠ none) :
    o = o' ∨ o.topUpKey?.isSome = true ∧ o.topUpKey? = o'.topUpKey? ∨
      o.refundTo?.isSome = true ∧ o.refundTo? = o'.refundTo? := by
  cases o <;> cases o' <;> try (simp [MoneyOp.tag] at htag; done)
  case fare.fare => exact absurd rfl ho
  case topUp.topUp => exact .inr (.inl ⟨rfl, congrArg some ((String.append_right_inj _).mp h)⟩)
  case refund.refund =>
    obtain ⟨hid, htotal⟩ := refundKey_inj (Int.natCast_nonneg _) (Int.natCast_nonneg _) h
    exact .inr
      (.inr ⟨rfl, by rw [MoneyOp.refundTo?, MoneyOp.refundTo?, hid, Int.natCast_inj.mp htotal]⟩)
  case trade.trade => exact .inl (congrArg MoneyOp.trade ((String.append_right_inj _).mp h))
  case invoice.invoice => exact .inl (congrArg MoneyOp.invoice ((String.append_right_inj _).mp h))
  case carbon.carbon => exact .inl (congrArg MoneyOp.carbon ((String.append_right_inj _).mp h))

/-- **Which operations share a text.** -/
lemma ledgerKey_eq_iff (hne : o ≠ o') : o.ledgerKey = o'.ledgerKey ↔ Clash o o' := by
  constructor
  · intro h
    refine ⟨hne, ?_⟩
    cases ho : o.tag with
    | none => exact .inl (by rw [fareKey_of_tag ho, h])
    | some cs =>
      cases ho' : o'.tag with
      | none => exact .inr (.inl (by rw [fareKey_of_tag ho', h]))
      | some cs' =>
        have htag : o.tag = o'.tag := by
          rw [ho, ho', ← MoneyOp.take_ledgerKey ho, ← MoneyOp.take_ledgerKey ho', h]
        exact .inr (.inr ((eq_of_tag h htag (by simp [ho])).resolve_left hne))
  · have hfare : ∀ {p p' : MoneyOp}, p.fareKey? = some p'.ledgerKey →
      p.ledgerKey = p'.ledgerKey := by
      intro p p' h
      cases p with
      | fare rider key => exact Option.some.inj h
      | topUp _ _ | refund _ _ _ | trade _ | invoice _ | carbon _ => cases h
    rintro ⟨-, h | h | ⟨hsome, heq⟩ | ⟨hsome, heq⟩⟩
    · exact hfare h
    · exact (hfare h).symm
    · cases o with
      | topUp rider key =>
        cases o' with
        | topUp rider' key' => exact congrArg ("topup:" ++ ·) (Option.some.inj heq)
        | fare _ _ | refund _ _ _ | trade _ | invoice _ | carbon _ => cases heq
      | fare _ _ | refund _ _ _ | trade _ | invoice _ | carbon _ => cases hsome
    · cases o with
      | refund paymentID amount total =>
        cases o' with
        | refund paymentID' amount' total' =>
          cases heq
          rfl
        | fare _ _ | topUp _ _ | trade _ | invoice _ | carbon _ => cases heq
      | fare _ _ | topUp _ _ | trade _ | invoice _ | carbon _ => cases hsome

/-! ## Requests

What the database lets through: one row for each key in `commerce.fare_payments`, until its
transaction is rolled back, one row for each key in `commerce.trades`, and every top-up, refund
step, invoice payment and credit. -/

structure Requests where
  fareKeys : List String
  tradeKeys : List String
  presented : List MoneyOp

def Requests.init : Requests := ⟨[], [], []⟩

/-- An operation gets to its ledger call, or a fare is rolled back after it. -/
inductive RequestEvent where
  | present (o : MoneyOp)
  | rollBack (key : String)

def Requests.step (s : Requests) : RequestEvent → Option Requests
  | .rollBack key => some { s with fareKeys := s.fareKeys.filter (· ≠ key) }
  | .present o =>
    let s' := { s with presented := s.presented ++ [o] }
    match o with
    | .fare _ key =>
      if key = "" ∨ key ∈ s.fareKeys then none else some { s' with fareKeys := key :: s.fareKeys }
    | .trade key =>
      if key = "" ∨ key ∈ s.tradeKeys then none
      else some { s' with tradeKeys := key :: s.tradeKeys }
    | .topUp _ key => if key = "" then none else some s'
    | .refund _ amount total => if amount = 0 ∨ total < amount then none else some s'
    | .invoice _ | .carbon _ => some s'

/-- The condition on a request: it clashes with none before it. -/
def Unclashing (s : Requests) : RequestEvent → Prop
  | .present o => ∀ o' ∈ s.presented, ¬ Clash o' o
  | .rollBack _ => True

instance (s : Requests) (e : RequestEvent) : Decidable (Unclashing s e) := by
  unfold Unclashing; split <;> infer_instance

def Separate (os : List MoneyOp) : Prop := ∀ o ∈ os, ∀ o' ∈ os, ¬ Clash o o'

lemma separate_concat {os : List MoneyOp} {o : MoneyOp} :
    Separate (os ++ [o]) ↔ Separate os ∧ ∀ o' ∈ os, ¬ Clash o' o := by
  simp only [Separate, List.mem_append, List.mem_singleton]
  constructor
  · intro h
    exact ⟨fun p hp q hq => h p (.inl hp) q (.inl hq), fun p hp => h p (.inl hp) o (.inr rfl)⟩
  · rintro ⟨hold, hnew⟩ p (hp | rfl) q (hq | rfl)
    · exact hold p hp q hq
    · exact hnew p hp
    · exact fun hclash => hnew q hq hclash.symm
    · exact fun hclash => hclash.1 rfl

variable {s s' : Requests}

lemma present_presented {o : MoneyOp} (h : s.step (.present o) = some s') :
    s'.presented = s.presented ++ [o] := by
  cases o with
  | fare | trade | topUp | refund =>
    simp only [Requests.step, Option.ite_none_left_eq_some, Option.some.injEq] at h
    rw [← h.2]
  | invoice _ | carbon _ =>
    simp only [Requests.step, Option.some.injEq] at h
    rw [← h]

lemma separate_step {e : RequestEvent} (h : s.step e = some s') :
    Separate s'.presented ↔ Separate s.presented ∧ Unclashing s e := by
  cases e with
  | rollBack key =>
    simp only [Requests.step] at h
    cases h
    simp [Unclashing]
  | present o => rw [present_presented h, separate_concat, Unclashing]

lemma separate_run {es : List RequestEvent} (hrun : run Requests.step s es = some s') :
    Separate s'.presented ↔ Separate s.presented ∧ Meets Requests.step Unclashing s es := by
  induction es generalizing s with
  | nil =>
    rw [run_nil, Option.some.injEq] at hrun
    simp [hrun, Meets]
  | cons e es ih =>
    obtain ⟨s₁, hstep, hrest⟩ := run_cons_eq_some.mp hrun
    rw [ih hrest, separate_step hstep, Meets, and_assoc]
    simp [hstep]

/-- **When no two operations present one transfer id.** -/
theorem transferIDs_distinct_iff {ID : Type} {sha16 : String → ID} (hsha : Function.Injective sha16)
    {es : List RequestEvent} {s : Requests} (hrun : run Requests.step .init es = some s) :
    (∀ o ∈ s.presented, ∀ o' ∈ s.presented, o ≠ o' → o.transferID sha16 ≠ o'.transferID sha16) ↔
      Meets Requests.step Unclashing .init es := by
  have hseparate : (∀ o ∈ s.presented, ∀ o' ∈ s.presented, o ≠ o' →
      o.transferID sha16 ≠ o'.transferID sha16) ↔ Separate s.presented := by
    refine forall₂_congr fun o _ => forall₂_congr fun o' _ => ?_
    by_cases hne : o = o'
    · exact ⟨fun _ hclash => hclash.1 hne, fun _ hne' => absurd hne hne'⟩
    · rw [ne_eq (o.transferID sha16), MoneyOp.transferID, MoneyOp.transferID,
        Ledger.deterministicTransferID_inj hsha, ledgerKey_eq_iff hne]
      exact ⟨fun h => h hne, fun h _ => h⟩
  have hinit : Separate Requests.init.presented := fun o ho => absurd ho List.not_mem_nil
  rw [hseparate, separate_run hrun, and_iff_right hinit]

def ownKeys : List MoneyOp :=
  [.topUp "rider-1" "k-1", .fare "rider-1" "k-1", .fare "rider-2" "k-2", .refund firstPayment 30 30,
    .refund firstPayment 30 60, .trade "k-1"]

theorem transferIDs_distinct_iff_own_keys :
    ∃ s, run Requests.step .init (ownKeys.map .present) = some s ∧ s.presented = ownKeys ∧
      ∀ o ∈ s.presented, ∀ o' ∈ s.presented,
        o ≠ o' → o.transferID defaultConfig.sha16 ≠ o'.transferID defaultConfig.sha16 := by
  have hend : (run Requests.step .init (ownKeys.map .present)).map Requests.presented =
      some ownKeys := rfl
  obtain ⟨s, hrun, hs⟩ := Option.map_eq_some_iff.mp hend
  exact ⟨s, hrun, hs, (transferIDs_distinct_iff defaultConfig_sha16_injective hrun).mpr
    (by decide +kernel)⟩

/-- **Three operations with one id**: two riders top up with one key, and a third pays under it. -/
theorem topUp_and_fare_share_id : ∃ s,
    run Requests.step .init [.present (.topUp "rider-1" "load-1"),
        .present (.topUp "rider-2" "load-1"), .present (.fare "rider-3" "topup:load-1")] = some s ∧
      s.presented = [.topUp "rider-1" "load-1", .topUp "rider-2" "load-1",
        .fare "rider-3" "topup:load-1"] ∧
      ∀ o ∈ s.presented, o.transferID defaultConfig.sha16 = "c51eb3a8b2803da2a2ec1188b307d79e" :=
  ⟨_, rfl, rfl, by decide +kernel⟩

/-- A refund of 30 is underway, one of 10 completes, and one of 20 leads to 30 again. -/
example : Clash (.refund firstPayment 30 30) (.refund firstPayment 20 30) := by decide

end H2Fleet.Commerce
