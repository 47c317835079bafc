import H2Fleet.Citizen.Erasure

/-!
# What an erasure leaves of a rider

`EraseMyData` replaces the subject in the subject columns.  What the operations have stored in other
columns stays.  Most of it is chosen by callers; one text is made of the subject by the code itself:
a redemption without an `Idempotency-Key` is recorded under `offer_id + ":" + sub`, and its ledger
entry under `"redeem:"` followed by that.

The condition on tombstones and fixed texts is only there for subjects that are not uuids
(`fixed_length_le`, `erasureMarker_length_le`).
-/

namespace H2Fleet.Citizen

open Row

def Occurs (s c : String) : Prop := s.toList <:+: c.toList
  deriving Decidable

variable {c id sub refID : String}

lemma Occurs.length_le {s : String} (h : Occurs s c) : s.toList.length ≤ c.toList.length :=
  List.IsInfix.length_le h

namespace Row

def columns (r : Row) : List String := r.subject.toList ++ r.stored ++ r.fixed

/-! ## Fixed texts are short -/

lemma fixed_length_le {r : Row} (hc : c ∈ r.fixed) : c.toList.length ≤ 26 := by
  cases r with
  | drtRequest d =>
    rw [List.mem_singleton.mp hc]
    cases d.status <;> decide
  | farePayment p =>
    rw [List.mem_singleton.mp hc]
    cases p.status <;> decide
  | loyaltyEntry id e =>
    rw [List.mem_singleton.mp hc]
    cases e.reason <;> decide
  | redemption id r =>
    rw [List.mem_singleton.mp hc]
    decide
  | _ => cases hc

/-! ## What an update stores -/

@[simp] lemma stored_setPoints (sub : String) (f : ℤ → ℤ) (r : Row) :
    (r.setPoints sub f).stored = r.stored := by
  cases r with
  | loyaltyAccount riderSub points =>
    simp only [setPoints]
    split_ifs <;> rfl
  | _ => rfl

@[simp] lemma stored_refund (id : String) (amount : ℤ) (r : Row) :
    (r.refund id amount).stored = r.stored := by
  cases r with
  | farePayment p =>
    simp only [refund]
    split_ifs <;> rfl
  | _ => rfl

@[simp] lemma stored_cancel (id : String) (r : Row) : (r.cancel id).stored = r.stored := by
  cases r with
  | drtRequest d =>
    simp only [cancel]
    split_ifs <;> rfl
  | _ => rfl

@[simp] lemma stored_progress (id : String) (p : Progression) (r : Row) :
    (r.progress id p).stored = r.stored := by
  cases r with
  | drtRequest d =>
    simp only [progress]
    split_ifs <;> rfl
  | _ => rfl

def Assigns (id : String) : Row → Prop
  | drtRequest d => d.id = id ∧ d.status = .requested
  | _ => False

instance (id : String) (r) : Decidable (Assigns id r) := by
  unfold Assigns; split <;> infer_instance

/-- An assignment overwrites nothing: a `requested` one has no vehicle and no driver. -/
lemma mem_stored_assign {vehicle : String} {driver : Option String} {r : Row} :
    c ∈ (r.assign id vehicle driver).stored ↔
      c ∈ r.stored ∨ r.Assigns id ∧ c ∈ vehicle :: driver.toList := by
  cases r with
  | drtRequest d =>
    by_cases hd : d.id = id ∧ d.status = .requested
    · obtain ⟨hv, hdriver⟩ := d.unassigned hd.2
      simp only [assign, hd, and_self, if_true, stored, Assigns, hv, hdriver, true_and,
        List.mem_append, List.mem_cons, Option.toList_some, Option.toList_none, List.not_mem_nil,
        or_false, or_assoc]
    · simp [assign, hd, Assigns]
  | _ => simp [assign, Assigns]

end Row

namespace Tables

open List

variable {cfg : ErasureConfig} {t t' : Tables} {s c : String}

/-- No column of any row contains the subject. -/
def Untraceable (t : Tables) (s : String) : Prop := ∀ r ∈ t, ∀ c ∈ r.columns, ¬ Occurs s c
  deriving Decidable

/-- The text is in a column that is no subject column and has no fixed text. -/
def Stored (t : Tables) (c : String) : Prop := ∃ r ∈ t, c ∈ r.stored

/-! ## What a transaction stores -/

/-- What a transaction stores outside the subject columns, if committed. -/
def newTexts (t : Tables) : Tx → List String
  | .createPayment p payer chargeID =>
    (farePayment p).stored ++ (chargesOf p payer chargeID).flatMap stored
  | .accrueLoyaltyPoints entryID paymentID _ _ => [entryID, paymentID]
  | .clawbackLoyaltyPoints entryID paymentID _ newTotal _ =>
    [entryID, "refund:" ++ paymentID ++ ":" ++ toString newTotal]
  | .redeemOffer id entryID sub offerID header _ =>
    [id, offerID, redemptionKey offerID sub header] ++
      if t.HasRef ("redeem:" ++ redemptionKey offerID sub header) then []
      else [entryID, "redeem:" ++ redemptionKey offerID sub header]
  | .grantEntitlement e => (entitlement e).stored
  | .createDRTRequest id _ pickupLabel dropoffLabel => [id, pickupLabel, dropoffLabel]
  | .assignDRT id vehicle driver =>
    if ∃ r ∈ t, r.Assigns id then vehicle :: driver.toList else []
  | .riderAccount _ | .getLoyaltyBalance _ | .refundPayment _ _ | .cancelDRTRequest _
  | .progressDRTRequest _ _ | .eraseMyData _ => []

lemma stored_append {u : Tables} : Stored (t ++ u) c ↔ t.Stored c ∨ Stored u c := by
  simp only [Stored, mem_append, or_and_right, exists_or]

lemma stored_map {f : Row → Row} (hf : ∀ r, (f r).stored = r.stored) :
    Stored (t.map f) c ↔ t.Stored c := by
  simp [Stored, hf]

lemma stored_ensureLoyaltyAccount : Stored (t.ensureLoyaltyAccount sub) c ↔ t.Stored c := by
  unfold ensureLoyaltyAccount
  split_ifs
  · rfl
  · rw [stored_append]
    simp [Stored, stored]

lemma stored_ensureRiderAccount : Stored (t.ensureRiderAccount sub) c ↔ t.Stored c := by
  unfold ensureRiderAccount
  split_ifs
  · rfl
  · rw [stored_append]
    simp [Stored, stored]

lemma hasRef_map_setPoints {f : ℤ → ℤ} : HasRef (t.map (.setPoints sub f)) refID ↔
    t.HasRef refID := by
  simp only [HasRef, mem_map, exists_exists_and_eq_and]
  refine exists_congr fun r => and_congr_right fun _ => ?_
  cases r with
  | loyaltyAccount riderSub points =>
    simp only [setPoints]
    split_ifs <;> simp
  | _ => simp [setPoints]

lemma hasRef_append {u : Tables} : HasRef (t ++ u) refID ↔ t.HasRef refID ∨ HasRef u refID := by
  simp only [HasRef, mem_append, or_and_right, exists_or]

lemma hasRef_ensureLoyaltyAccount : HasRef (t.ensureLoyaltyAccount sub) refID ↔ t.HasRef refID := by
  unfold ensureLoyaltyAccount
  split_ifs
  · rfl
  · rw [hasRef_append]
    simp [HasRef]

lemma stored_insertEntry {e : Commerce.LoyaltyEntry} : Stored (t.insertEntry id e) c ↔
      t.Stored c ∨ c ∈ (if t.HasRef e.refID then [] else [id, e.refID]) := by
  unfold insertEntry
  split_ifs
  · simp
  · rw [stored_append]
    simp [Stored, stored]

lemma stored_map_assign {vehicle : String} {driver : Option String} :
    Stored (t.map (.assign id vehicle driver)) c ↔
      t.Stored c ∨ (∃ r ∈ t, r.Assigns id) ∧ c ∈ vehicle :: driver.toList := by
  simp only [Stored, mem_map, exists_exists_and_eq_and, mem_stored_assign]
  constructor
  · rintro ⟨r, hr, hold | ⟨hassigns, hnew⟩⟩
    · exact .inl ⟨r, hr, hold⟩
    · exact .inr ⟨⟨r, hr, hassigns⟩, hnew⟩
  · rintro (⟨r, hr, hold⟩ | ⟨⟨r, hr, hassigns⟩, hnew⟩)
    · exact ⟨r, hr, .inl hold⟩
    · exact ⟨r, hr, .inr ⟨hassigns, hnew⟩⟩

lemma hasRef_redeemed {cost : ℤ} {d : Commerce.Redemption} :
    HasRef ((t.ensureLoyaltyAccount sub).map (.setPoints sub (· - cost)) ++ [.redemption id d])
    refID ↔
      t.HasRef refID := by
  rw [hasRef_append, hasRef_map_setPoints, hasRef_ensureLoyaltyAccount]
  simp [HasRef]

/-- **One transaction** adds its new texts; nothing stored is overwritten. -/
lemma stored_transact {tx : Tx} (h : t.transact cfg tx = some t') :
    t'.Stored c ↔ t.Stored c ∨ c ∈ t.newTexts tx := by
  cases tx with
  | riderAccount sub =>
    cases h
    simp [newTexts, stored_ensureRiderAccount]
  | getLoyaltyBalance sub =>
    simp only [transact] at h
    split_ifs at h
    cases h
    simp [newTexts, stored_ensureLoyaltyAccount]
  | createPayment p payer chargeID =>
    simp only [transact] at h
    split at h
    · cases h
    · split_ifs at h
      cases h
      rw [stored_append]
      simp [newTexts, Stored]
  | accrueLoyaltyPoints entryID paymentID sub amountMinor =>
    simp only [transact] at h
    split_ifs at h
    cases h
    rw [stored_append, stored_map (stored_setPoints _ _), stored_ensureLoyaltyAccount]
    simp [Stored, stored, newTexts]
  | refundPayment id amount =>
    cases h
    simp [newTexts, stored_map (stored_refund id amount)]
  | clawbackLoyaltyPoints entryID paymentID sub newTotal refundedMinor =>
    simp only [transact] at h
    split_ifs at h
    cases h
    rw [stored_append, stored_map (stored_setPoints _ _)]
    simp [Stored, stored, newTexts]
  | redeemOffer id entryID sub offerID header cost =>
    simp only [transact] at h
    split_ifs at h
    cases h
    rw [stored_insertEntry, stored_append, stored_map (stored_setPoints _ _),
      stored_ensureLoyaltyAccount]
    simp only [hasRef_redeemed, newTexts, mem_append, or_assoc]
    simp [Stored, stored]
  | grantEntitlement e =>
    simp only [transact] at h
    split_ifs at h
    cases h
    rw [stored_append]
    simp [Stored, newTexts]
  | createDRTRequest id sub pickupLabel dropoffLabel =>
    simp only [transact] at h
    split_ifs at h
    cases h
    rw [stored_append]
    simp [Stored, newTexts, stored]
  | cancelDRTRequest id =>
    cases h
    simp [newTexts, stored_map (stored_cancel id)]
  | assignDRT id vehicle driver =>
    cases h
    rw [stored_map_assign, newTexts]
    by_cases hreq : ∃ r ∈ t, r.Assigns id
    · rw [if_pos hreq, and_iff_right hreq]
    · simp [hreq]
  | progressDRTRequest id p =>
    cases h
    simp [newTexts, stored_map (stored_progress id p)]
  | eraseMyData sub =>
    simp only [transact] at h
    split_ifs at h
    cases h
    rw [erase, stored_map]
    · simp [newTexts]
    · intro r
      split_ifs <;> simp

/-! ## Histories -/

/-- A committed transaction stores the subject in no column but its own. -/
def Discreet (cfg : ErasureConfig) (s : String) (t : Tables) (tx : Tx) : Prop :=
  t.transact cfg tx ≠ none → ∀ c ∈ t.newTexts tx, ¬ Occurs s c
  deriving Decidable

def Unstored (t : Tables) (s : String) : Prop := ∀ c, t.Stored c → ¬ Occurs s c

lemma unstored_step {tx : Tx} (hstep : t.step cfg tx = some t') :
    t'.Unstored s ↔ t.Unstored s ∧ Discreet cfg s t tx := by
  cases hstep
  cases htx : t.transact cfg tx with
  | none => simp [Discreet, htx]
  | some u =>
    simp only [Unstored, Option.getD_some, stored_transact htx, or_imp, forall_and, Discreet, htx,
      ne_eq, reduceCtorEq, not_false_eq_true, true_imp_iff]

lemma unstored_run : ∀ {txs : List Tx} {t t' : Tables}, run (step cfg) t txs = some t' →
    (t'.Unstored s ↔ t.Unstored s ∧ Meets (step cfg) (Discreet cfg s) t txs)
  | [], t, t', hrun => by
    cases hrun
    simp [Meets]
  | tx :: txs, t, t', hrun => by
    obtain ⟨u, hu, hrest⟩ := run_cons_eq_some.mp hrun
    rw [unstored_run hrest, unstored_step hu, Meets]
    simp only [hu, Option.some.injEq, forall_eq', and_assoc]

/-! ## The erasure -/

/-- The tombstone of the subject, if in use, and other subjects do not contain it. -/
def SubjectsApart (cfg : ErasureConfig) (t : Tables) (s : String) : Prop :=
  (¬ t.Erased s → ¬ Occurs s (erasureMarker cfg s)) ∧
    ∀ r ∈ t, ∀ sub ∈ r.subject, sub ≠ s → ¬ Occurs s sub
  deriving Decidable

def FixedApart (t : Tables) (s : String) : Prop := ∀ r ∈ t, ∀ c ∈ r.fixed, ¬ Occurs s c
  deriving Decidable

lemma erasureMarker_length_le (cfg : ErasureConfig) (sub : String) :
    (erasureMarker cfg sub).toList.length ≤ 23 := by
  have htake : ((cfg.sha256 (cfg.salt ++ "|" ++ sub)).take 8).length ≤ 8 := length_take_le _ _
  have hhex : ∀ bytes : List UInt8, (hexEncode bytes).toList.length = 2 * bytes.length := by
    intro bytes
    simp [hexEncode, length_flatMap, mul_comm]
  rw [erasureMarker, String.toList_append, length_append, hhex]
  have herased : "erased:".toList.length = 7 := by decide
  omega

lemma fixedApart_of_uuid (t : Tables) (hs : s.toList.length = 36) : t.FixedApart s := by
  intro r _ c hc hoccurs
  have hlong := hoccurs.length_le
  have hshort := fixed_length_le hc
  omega

lemma not_occurs_marker_of_uuid (hs : s.toList.length = 36) : ¬ Occurs s (erasureMarker cfg s) := by
  intro hoccurs
  have hlong := hoccurs.length_le
  have hshort := erasureMarker_length_le cfg s
  omega

lemma subjects_erase {marker : String} :
    (∀ r ∈ t.erase s marker, ∀ sub ∈ r.subject, ¬ Occurs s sub) ↔
      (¬ t.Erased s → ¬ Occurs s marker) ∧ ∀ r ∈ t, ∀ sub ∈ r.subject, sub ≠ s →
      ¬ Occurs s sub := by
  simp only [erase, forall_mem_map]
  constructor
  · intro h
    refine ⟨fun herased => ?_, fun r hr sub hsub hne => ?_⟩
    · simp only [Erased, not_forall, not_not] at herased
      obtain ⟨r, hr, hsub⟩ := herased
      have hrow := h r hr
      rw [if_pos hsub, subject_withSubject, hsub] at hrow
      exact hrow marker rfl
    · have hrow := h r hr
      rw [if_neg fun hs => hne (Option.some.inj (hsub.symm.trans hs))] at hrow
      exact hrow sub hsub
  · rintro ⟨hmarker, hothers⟩ r hr sub hsub
    split_ifs at hsub with hs
    · rw [subject_withSubject, hs] at hsub
      cases hsub
      exact hmarker fun herased => herased r hr hs
    · refine hothers r hr sub hsub fun heq => hs ?_
      rw [← heq]
      exact hsub

/-- **What an erasure needs to leave no trace**, of the rows it finds. -/
lemma untraceable_erase {marker : String} : Untraceable (t.erase s marker) s ↔ t.Unstored s ∧
      ((¬ t.Erased s → ¬ Occurs s marker) ∧ ∀ r ∈ t, ∀ sub ∈ r.subject, sub ≠ s → ¬ Occurs s sub) ∧
      t.FixedApart s := by
  have hrow : ∀ r : Row, (∀ c ∈ r.columns, ¬ Occurs s c) ↔ (∀ sub ∈ r.subject, ¬ Occurs s sub) ∧
      (∀ c ∈ r.stored, ¬ Occurs s c) ∧ ∀ c ∈ r.fixed, ¬ Occurs s c := by
    intro r
    simp only [columns, mem_append, Option.mem_toList, or_imp, forall_and, and_assoc]
    rfl
  have hstored : (∀ r ∈ t.erase s marker, ∀ c ∈ r.stored, ¬ Occurs s c) ↔ t.Unstored s := by
    simp only [erase, forall_mem_map, apply_ite stored, stored_withSubject, ite_self]
    exact ⟨fun h c ⟨r, hr, hc⟩ => h r hr c hc, fun h r hr c hc => h c ⟨r, hr, hc⟩⟩
  have hfixed : (∀ r ∈ t.erase s marker, ∀ c ∈ r.fixed, ¬ Occurs s c) ↔ t.FixedApart s := by
    simp only [erase, forall_mem_map, apply_ite fixed, fixed_withSubject, ite_self]
    rfl
  simp only [Untraceable, hrow, forall_and]
  rw [hstored, hfixed, subjects_erase]
  tauto

/-- **What an erasure leaves of a rider**: after any history and an erasure that commits, no column
contains the subject exactly if every transaction has stored it in subject columns only, and no
tombstone, other subject or fixed text contains it. -/
theorem erasure_untraceable_iff (cfg : ErasureConfig) {s : String} {t₀ t t' : Tables}
    {txs : List Tx} (h₀ : t₀.Untraceable s) (hrun : run (step cfg) t₀ txs = some t)
    (herase : t.transact cfg (.eraseMyData s) = some t') :
    t'.Untraceable s ↔ Meets (step cfg) (Discreet cfg s) t₀ txs ∧ SubjectsApart cfg t s ∧
      t.FixedApart s := by
  have hstart : t₀.Unstored s := by
    rintro c ⟨r, hr, hc⟩
    exact h₀ r hr c (by simp [columns, hc])
  simp only [transact] at herase
  split_ifs at herase
  cases herase
  rw [untraceable_erase, unstored_run hrun]
  simp [hstart, SubjectsApart]

/-- A subject as Keycloak makes them. -/
def adaSub : String := "2f9c1d3e-5a7b-4c8d-9e0f-112233445566"

def coffeeID : String := "7b1e0c52-3d4f-4a6b-8c9d-a0b1c2d3e4f5"

/-- A rider's history, up to a redemption with the given header. -/
def historyWith (header : String) : List Tx :=
  [.riderAccount adaSub,
   .createPayment ⟨"p1", adaSub, 500, some 500, "EUR", none, some "t1", some "k1", .settled, 0,
   0⟩ none "", .accrueLoyaltyPoints "l1" "p1" adaSub 500,
   .refundPayment "p1" 100, .clawbackLoyaltyPoints "l2" "p1" adaSub 100 100,
   .grantEntitlement ⟨"e1", adaSub, "monthly-pass", none, "operator"⟩,
   .createDRTRequest "d1" adaSub "home" "work", .assignDRT "d1" "bus" (some "driver"),
   .redeemOffer "r1" "l3" adaSub coffeeID header 3]

theorem keyed_redemption_untraceable : ∃ t t',
    run (step plainErasure) [] (historyWith "k2") = some t ∧
      t.transact plainErasure (.eraseMyData adaSub) = some t' ∧ t'.Untraceable adaSub := by
  refine ⟨_, _, rfl, rfl, ?_⟩
  refine (@erasure_untraceable_iff plainErasure adaSub [] _ _ (historyWith "k2") ?_ rfl rfl).mpr ?_
  · intro r hr
    cases hr
  · refine ⟨by decide +kernel, ⟨fun _ => not_occurs_marker_of_uuid (by decide), by decide +kernel⟩,
      ?_⟩
    exact fixedApart_of_uuid _ (by decide)

/-- **The subject stays behind**, in redemption and ledger entry, without an `Idempotency-Key`. -/
theorem unkeyed_redemption_traceable : ∃ t t',
    run (step plainErasure) [] (historyWith "") = some t ∧
      t.transact plainErasure (.eraseMyData adaSub) = some t' ∧ ¬ t'.Untraceable adaSub ∧
      t'.Stored ("redeem:" ++ coffeeID ++ ":" ++ adaSub) := by
  refine ⟨_, _, rfl, rfl, by decide +kernel, ?_⟩
  exact ⟨.loyaltyEntry "l3" ⟨erasureMarker plainErasure adaSub, -3, .offerRedeem,
    "redeem:" ++ coffeeID ++ ":" ++ adaSub⟩, by decide +kernel, by decide +kernel⟩

end Tables

end H2Fleet.Citizen
