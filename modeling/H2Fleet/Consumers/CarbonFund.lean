import H2Fleet.Consumers.Handlers
import H2Fleet.Ledger.Cluster

/-!
# The carbon fund leg over recomputed credits

carbon-analytics issues the same credit id whenever it recomputes a period, with the avoided
kilograms it then finds, and `PostCarbonFundLeg` derives the transfer id from the credit id alone.
Here the consumer posts one event after another to a reachable cluster.
-/

namespace H2Fleet.Consumers

open List Function Ledger

/-- Whole kilograms, as the ledger gets them. -/
def CarbonCreditIssued.amount (c : CarbonCreditIssued) : ℕ := round (max c.kgCO2Avoided 0)

def CarbonCreditIssued.WellFormed (c : CarbonCreditIssued) : Prop := c.creditID ≠ "" ∧ c.period ≠ ""
  deriving Decidable

def CarbonCreditIssued.Moves (c : CarbonCreditIssued) : Prop := c.WellFormed ∧ c.amount ≠ 0
  deriving Decidable

def SameAmounts (events : List CarbonCreditIssued) : Prop :=
  ∀ c ∈ events, ∀ c' ∈ events, c.Moves → c'.Moves → c.creditID = c'.creditID → c.amount = c'.amount
  deriving Decidable

section Requests

variable {ID : Type} (sha16 : String → ID)

def carbonTransferID (creditID : String) : ID :=
  deterministicTransferID sha16 ("carbon:" ++ creditID)

def carbonRequest (c : CarbonCreditIssued) : Request ID where
  id := carbonTransferID sha16 c.creditID
  debit := carbonIssuanceAccount
  credit := carbonFundAccount
  amount := c.amount
  code := codeCarbon

variable {sha16}

lemma carbonTransferID_inj (hsha : Injective sha16) {i j : String} :
    carbonTransferID sha16 i = carbonTransferID sha16 j ↔ i = j := by
  rw [carbonTransferID, carbonTransferID, deterministicTransferID_inj hsha]
  exact String.append_right_inj _

lemma carbonRequest_transfer_eq (hsha : Injective sha16) {c c' : CarbonCreditIssued} :
    (carbonRequest sha16 c).transfer = (carbonRequest sha16 c').transfer ↔
      c.creditID = c'.creditID ∧ c.amount = c'.amount := by
  simp [Request.transfer, transferFor, carbonRequest, carbonTransferID_inj hsha]

end Requests

/-! ## What one event can do -/

section Outcomes

variable {ID : Type}

/-- What one event does: `after` are the transfers posted behind it. -/
inductive Leg (sha16 : String → ID) (b : Books ID) (c : CarbonCreditIssued)
    (after : List (Transfer ID)) : Except String Unit → Prop where
  | still (res : Except String Unit) : ¬ c.Moves → (c.WellFormed → res = .ok ()) →
      after = b.posted → Leg sha16 b c after res
  | posted : c.Moves → b.Fresh (carbonTransferID sha16 c.creditID) →
      after = b.posted ++ [(carbonRequest sha16 c).transfer] → Leg sha16 b c after (.ok ())
  | repeated : c.Moves → (carbonRequest sha16 c).transfer ∈ b.posted → after = b.posted →
      Leg sha16 b c after (.ok ())
  | refused (text : String) : c.Moves → (carbonRequest sha16 c).transfer ∉ b.posted →
      ¬ b.Fresh (carbonTransferID sha16 c.creditID) → after = b.posted →
      Leg sha16 b c after (.error text)

variable {sha16 : String → ID} {c : CarbonCreditIssued} {res : Except String Unit}

lemma Leg.uniqueIds {b b' : Books ID} (h : Leg sha16 b c b'.posted res) (hb : b.UniqueIds) :
    b'.UniqueIds := by
  cases h with
  | still _ _ _ hafter => simpa only [Books.UniqueIds, hafter] using hb
  | posted _ hfresh hafter =>
    rw [Books.UniqueIds, hafter]
    exact Books.uniqueIds_post hb hfresh
  | repeated _ _ hafter => simpa only [Books.UniqueIds, hafter] using hb
  | refused _ _ _ _ hafter => simpa only [Books.UniqueIds, hafter] using hb

def Expected (sha16 : String → ID) (b : Books ID) (events : List CarbonCreditIssued) : Prop :=
  ∀ c ∈ events, c.Moves → ∀ t ∈ b.posted, t.id = carbonTransferID sha16 c.creditID →
    t = (carbonRequest sha16 c).transfer

variable {after : List (Transfer ID)}

lemma Leg.handled_iff {b : Books ID} (h : Leg sha16 b c after res) (hb : b.UniqueIds) :
    (c.WellFormed → res = .ok ()) ↔ Expected sha16 b [c] := by
  simp only [Expected, mem_singleton, forall_eq]
  cases h with
  | still _ hnot hres => exact ⟨fun _ hmoves => absurd hmoves hnot, fun _ => hres⟩
  | posted _ hfresh => exact ⟨fun _ _ t ht hid => absurd hid (hfresh t ht), fun _ _ => rfl⟩
  | repeated _ hmem => exact ⟨fun _ _ t ht hid => hb.eq ht hmem hid, fun _ _ => rfl⟩
  | refused _ hmoves hmem htaken =>
    refine ⟨fun hok => absurd (hok hmoves.1) (by simp), fun hexp => ?_⟩
    simp only [Books.Fresh, not_forall, not_not] at htaken
    obtain ⟨t, ht, hid⟩ := htaken
    exact absurd (hexp hmoves t ht hid ▸ ht) hmem

lemma Leg.mem_cases {b : Books ID} (h : Leg sha16 b c after res) {t : Transfer ID}
    (ht : t ∈ after) : t ∈ b.posted ∨ (c.Moves ∧ t = (carbonRequest sha16 c).transfer) := by
  cases h with
  | still _ _ _ hafter => exact .inl (hafter ▸ ht)
  | posted hmoves _ hafter =>
    rw [hafter, mem_append, mem_singleton] at ht
    exact ht.imp_right fun heq => ⟨hmoves, heq⟩
  | repeated _ _ hafter => exact .inl (hafter ▸ ht)
  | refused _ _ _ _ hafter => exact .inl (hafter ▸ ht)

lemma Leg.mem_of_mem {b : Books ID} (h : Leg sha16 b c after res) {t : Transfer ID}
    (ht : t ∈ b.posted) : t ∈ after := by
  cases h with
  | still _ _ _ hafter => exact hafter ▸ ht
  | posted _ _ hafter => exact hafter ▸ mem_append_left _ ht
  | repeated _ _ hafter => exact hafter ▸ ht
  | refused _ _ _ _ hafter => exact hafter ▸ ht

/-- The first event is handled and leaves the others what they expect, exactly if the books are what
all expect and the others move what it does. -/
lemma Leg.expected_iff (hsha : Injective sha16) {b b' : Books ID} {es : List CarbonCreditIssued}
    (h : Leg sha16 b c b'.posted res) (hb : b.UniqueIds) :
    ((c.WellFormed → res = .ok ()) ∧ Expected sha16 b' es) ↔ Expected sha16 b (c :: es) ∧
        ∀ c' ∈ es, c.Moves → c'.Moves → c.creditID = c'.creditID → c.amount = c'.amount := by
  constructor
  · rintro ⟨hok, hexp⟩
    refine ⟨fun c' hc' hmoves t ht hid => ?_, fun c' hc' hmoves hmoves' hcredit => ?_⟩
    · rcases mem_cons.mp hc' with rfl | hc'
      · exact (h.handled_iff hb).mp hok c' mem_cons_self hmoves t ht hid
      · exact hexp c' hc' hmoves t (h.mem_of_mem ht) hid
    · have hmem : (carbonRequest sha16 c).transfer ∈ b'.posted := by
        cases h with
        | still _ hnot => exact absurd hmoves hnot
        | posted _ _ hafter => simp [hafter]
        | repeated _ hmem hafter => exact hafter ▸ hmem
        | refused => exact absurd (hok hmoves.1) (by simp)
      have hself := hexp c' hc' hmoves' _ hmem ((carbonTransferID_inj hsha).mpr hcredit)
      exact ((carbonRequest_transfer_eq hsha).mp hself).2
  · rintro ⟨hexp, hsame⟩
    refine ⟨(h.handled_iff hb).mpr fun c' hc' => hexp c' ?_, fun c' hc' hmoves t ht hid => ?_⟩
    · exact mem_cons.mpr (.inl (mem_singleton.mp hc'))
    · rcases h.mem_cases ht with ht | ⟨hmoves₀, rfl⟩
      · exact hexp c' (mem_cons_of_mem _ hc') hmoves t ht hid
      · have hcredit := (carbonTransferID_inj hsha).mp hid
        exact (carbonRequest_transfer_eq hsha).mpr ⟨hcredit, hsame c' hc' hmoves₀ hmoves hcredit⟩

end Outcomes

/-! ## One event -/

section Leg

variable {ID : Type} [DecidableEq ID] (sha16 : String → ID)

/-- `PostCarbonFundLeg` with the replies of a reachable cluster. -/
def fundLeg (b : Books ID) (c : CarbonCreditIssued) : Option (Books ID × Except String Unit) :=
  postCarbonFundLeg sha16 b c ((carbonRequest sha16 c).replies b)

/-- The books after an event, whatever the consumer made of it. -/
def fundStep (b : Books ID) (c : CarbonCreditIssued) : Option (Books ID) :=
  (fundLeg sha16 b c).map Prod.fst

def Handled (b : Books ID) (c : CarbonCreditIssued) : Prop :=
  c.WellFormed → (fundLeg sha16 b c).map Prod.snd = some (.ok ())
  deriving Decidable

def fundPosts (b : Books ID) (creditID : String) : List (Transfer ID) :=
  b.posted.filter fun t =>
    t.id = carbonTransferID sha16 creditID ∧ t.credit = carbonFundAccount

variable {sha16}

lemma fundLeg_of_moves {c : CarbonCreditIssued} (h : c.Moves) (b : Books ID) :
    fundLeg sha16 b c = (perform b (carbonRequest sha16 c)).map fun
      | (b', .error e) => (b', .error e.text)
      | (b', .ok _) => (b', .ok ()) := by
  obtain ⟨⟨hcredit, hperiod⟩, hamount⟩ := h
  have hform := not_or.mpr ⟨hcredit, hperiod⟩
  rw [CarbonCreditIssued.amount] at hamount
  simp only [fundLeg, postCarbonFundLeg, if_neg hform, if_neg hamount]
  rfl

variable {b : Books ID}

/-- **What one event does** on books whose accounts are in order. -/
theorem fundLeg_spec (sha16 : String → ID) (hb : Chart b.accounts) (c : CarbonCreditIssued) :
    ∃ b' res, fundLeg sha16 b c = some (b', res) ∧ Chart b'.accounts ∧
    Leg sha16 b c b'.posted res := by
  by_cases hmoves : c.Moves
  · obtain ⟨b', res, hcall, hchart, hperformed⟩ :=
      perform_spec hb (carbonRequest sha16 c)
    rw [fundLeg_of_moves hmoves, hcall]
    cases hperformed with
    | conflict e hconflict =>
      have hcode : ∀ id, accountFor id codeCarbon ∈ (bootstrapped : Books ℕ).accounts →
          ¬ b.Conflicts (accountFor id codeCarbon) :=
        fun _ hplatform hconflict => hconflict.1 (hb.platform hplatform)
      rcases hconflict with hdebit | hcredit
      · exact absurd hdebit (hcode carbonIssuanceAccount (by decide))
      · exact absurd hcredit (hcode carbonFundAccount (by decide))
    | repeated _ hmem hafter => exact ⟨_, _, rfl, hchart, .repeated hmoves hmem hafter⟩
    | refused e _ hmem hwhy _ hafter =>
      have hne : carbonIssuanceAccount ≠ carbonFundAccount := by decide
      exact ⟨_, _, rfl, hchart, .refused _ hmoves hmem (hwhy.resolve_right hne) hafter⟩
    | overdrawn e _ _ _ hover =>
      -- the issuance source is not among the accounts that must stay covered
      have hfree : capped carbonIssuanceAccount = false := by decide
      exact absurd hover.1 (by simp only [carbonRequest, hfree]; decide)
    | posted _ hfresh _ _ hafter => exact ⟨_, _, rfl, hchart, .posted hmoves hfresh hafter⟩
  · simp only [fundLeg, postCarbonFundLeg]
    split_ifs with hform hamount
    · refine ⟨b, _, rfl, hb, .still _ hmoves (fun ⟨hcredit, hperiod⟩ => ?_) rfl⟩
      exact absurd hform (not_or.mpr ⟨hcredit, hperiod⟩)
    · exact ⟨b, _, rfl, hb, .still _ hmoves (fun _ => rfl) rfl⟩
    · exact absurd ⟨not_or.mp hform, hamount⟩ hmoves

/-! ## Any number of events -/

/-- The accounts are in order, and no id is posted twice. -/
structure FundBooks (b : Books ID) : Prop where
  chart : Chart b.accounts
  uniqueIds : b.UniqueIds

lemma fundRun_total (sha16 : String → ID) (hb : FundBooks b) (events : List CarbonCreditIssued) :
    ∃ b', run (fundStep sha16) b events = some b' ∧ FundBooks b' := by
  have hstep : ∀ b c, FundBooks b → True → True → ∃ b', fundStep sha16 b c = some b' ∧
    FundBooks b' := by
    intro b c hb _ _
    obtain ⟨b', res, hcall, hchart, hleg⟩ := fundLeg_spec sha16 hb.chart c
    exact ⟨b', by rw [fundStep, hcall]; rfl, hchart, hleg.uniqueIds hb.uniqueIds⟩
  exact run_total hstep hb (fun _ _ => trivial) (Meets.of_forall fun _ _ => trivial)

lemma fundPosts_length_le (hb : b.UniqueIds) (creditID : String) :
    (fundPosts sha16 b creditID).length ≤ 1 := by
  have hnodup : ((fundPosts sha16 b creditID).map Transfer.id).Nodup :=
    Nodup.sublist (filter_sublist.map _) hb
  have hsame : ∀ i ∈ (fundPosts sha16 b creditID).map Transfer.id,
      i = carbonTransferID sha16 creditID := by
    intro i hi
    obtain ⟨t, ht, rfl⟩ := mem_map.mp hi
    simp only [fundPosts, mem_filter, decide_eq_true_eq] at ht
    exact ht.2.1
  have hcount := nodup_iff_count_le_one.mp hnodup (carbonTransferID sha16 creditID)
  rwa [count_eq_length.mpr fun i hi => (hsame i hi).symm, length_map] at hcount

lemma handled_iff {b b' : Books ID} {c : CarbonCreditIssued} {res : Except String Unit}
    (hcall : fundLeg sha16 b c = some (b', res)) :
    Handled sha16 b c ↔ (c.WellFormed → res = .ok ()) := by
  rw [Handled, hcall]
  simp

lemma sameAmounts_cons {c : CarbonCreditIssued} {es : List CarbonCreditIssued} :
    SameAmounts (c :: es) ↔
      (∀ c' ∈ es, c.Moves → c'.Moves → c.creditID = c'.creditID → c.amount = c'.amount) ∧
        SameAmounts es := by
  constructor
  · intro h
    exact ⟨fun c' hc' => h c mem_cons_self c' (mem_cons_of_mem _ hc'),
      fun c₁ h₁ c₂ h₂ => h c₁ (mem_cons_of_mem _ h₁) c₂ (mem_cons_of_mem _ h₂)⟩
  · rintro ⟨hhead, htail⟩ c₁ h₁ c₂ h₂ hm₁ hm₂ hcredit
    rcases mem_cons.mp h₁ with rfl | hes₁
    · rcases mem_cons.mp h₂ with rfl | hes₂
      · rfl
      · exact hhead c₂ hes₂ hm₁ hm₂ hcredit
    · rcases mem_cons.mp h₂ with rfl | hes₂
      · exact (hhead c₁ hes₁ hm₂ hm₁ hcredit.symm).symm
      · exact htail c₁ hes₁ c₂ hes₂ hm₁ hm₂ hcredit

/-- **Which runs have all their events handled**: the first settles what the others find. -/
lemma meets_handled_iff (hsha : Injective sha16) :
    ∀ {b : Books ID} (events : List CarbonCreditIssued), FundBooks b →
      (Meets (fundStep sha16) (Handled sha16) b events ↔ Expected sha16 b events ∧
      SameAmounts events)
  | b, [], _ => by simp [Meets, Expected, SameAmounts]
  | b, c :: es, hb => by
    obtain ⟨b', res, hcall, hchart, hleg⟩ := fundLeg_spec sha16 hb.chart c
    have hstep : fundStep sha16 b c = some b' := by rw [fundStep, hcall]; rfl
    have ih := meets_handled_iff hsha es ⟨hchart, hleg.uniqueIds hb.uniqueIds⟩
    rw [Meets, Consumers.handled_iff hcall, sameAmounts_cons, ← and_assoc,
      ← hleg.expected_iff hsha hb.uniqueIds, and_assoc, ← ih]
    simp [hstep]

/-- Accounts in order, no id posted twice, and none of a carbon credit. -/
structure NoCarbonPosted (sha16 : String → ID) (b : Books ID) : Prop extends FundBooks b where
  fresh : ∀ creditID, b.Fresh (carbonTransferID sha16 creditID)

/-- **Whether the fund leg is idempotent.**  The fund got every credit at most once, and no
well-formed event is refused if and only if the events of one credit ask for the same amount. -/
theorem fundLeg_idempotent_iff (hsha : Injective sha16) {b : Books ID} (hb : NoCarbonPosted sha16 b)
    (events : List CarbonCreditIssued) :
    (Meets (fundStep sha16) (Handled sha16) b events ∧
      ∀ seen rest, events = seen ++ rest → ∃ b', run (fundStep sha16) b seen = some b' ∧
        ∀ creditID, (fundPosts sha16 b' creditID).length ≤ 1) ↔ SameAmounts events := by
  have honce : ∀ seen rest, events = seen ++ rest → ∃ b', run (fundStep sha16) b seen = some b' ∧
      ∀ creditID, (fundPosts sha16 b' creditID).length ≤ 1 := by
    intro seen rest _
    obtain ⟨b', hrun, hbooks⟩ := fundRun_total sha16 hb.toFundBooks seen
    exact ⟨b', hrun, fundPosts_length_le hbooks.uniqueIds⟩
  have hexp : Expected sha16 b events :=
    fun c _ _ t ht hid => absurd hid (hb.fresh c.creditID t ht)
  rw [and_iff_left honce, meets_handled_iff hsha events hb.toFundBooks]
  exact and_iff_right hexp

end Leg

/-! ## Two computations of one period -/

lemma bootstrapped_noCarbonPosted : NoCarbonPosted (fun key : String => key) bootstrapped where
  chart := Chart.bootstrapped
  uniqueIds := nodup_nil
  fresh := fun _ _ ht => absurd ht not_mem_nil

/-- January redelivered, with a value that rounds to the same kilogram, and with nothing avoided. -/
def januaryRecomputed : List CarbonCreditIssued :=
  [⟨"c-january", "2026-01", 10⟩, ⟨"c-january", "2026-01", 10⟩,
    ⟨"c-january", "2026-01", 1013 / 100⟩, ⟨"c-january", "2026-01", -3⟩]

/-- January, recomputed after late telemetry. -/
def januaryLate : List CarbonCreditIssued :=
  [⟨"c-january", "2026-01", 10⟩, ⟨"c-january", "2026-01", 12⟩]

theorem fundLeg_idempotent_january : SameAmounts januaryRecomputed ∧
      Meets (fundStep fun key : String => key) (Handled fun key => key) bootstrapped
        januaryRecomputed := by
  have hsame : SameAmounts januaryRecomputed := by decide +kernel
  exact ⟨hsame, ((fundLeg_idempotent_iff (fun _ _ h => h) bootstrapped_noCarbonPosted
    januaryRecomputed).mpr hsame).1⟩

/-- Two more kilograms are refused, and the record stays uncommitted. -/
theorem recomputed_credit_refused : ∃ first second, januaryLate = [first, second] ∧
    second.WellFormed ∧
      (((fundStep (fun key : String => key) bootstrapped first).bind
        fun b => fundLeg (fun key => key) b second).map fun r => r.2.isOk) = some false := by
  refine ⟨_, _, rfl, by decide, ?_⟩
  decide +kernel

end H2Fleet.Consumers
