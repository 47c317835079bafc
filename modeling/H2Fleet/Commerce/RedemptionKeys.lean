import H2Fleet.Commerce.Loyalty

/-!
# Whose redemption a key answers with

Idempotency keys of redemptions are texts of the clients, and nothing ties a key to a rider.
`RedeemOffer` finds a key that is taken in two places.  The first look compares the rider and the
offer.  The unique index finds what was recorded since, and `replayRedemption` answers with it
without comparing anything.
-/

namespace H2Fleet.Commerce.LoyaltyState

/-- The answer tells of a redemption of the caller, for the offer asked for. -/
def Describes (s : LoyaltyState) (c : RedeemCall) (r : RedeemResponse) : Prop :=
  ∃ red ∈ s.redemptions, r.redemption = some red ∧ red.riderSub = c.sub ∧ red.offerID = c.offerID

/-- The rest of the call gets to its INSERT and finds `red` under its key. -/
def Replays (s : LoyaltyState) (c : RedeemCall) (red : Redemption) : Prop :=
  s.redemption? c.key = some red ∧
    ∃ offer, (s.offers.find? fun o => o.id = c.offerID ∧ o.active) = some offer ∧
      offer.costPoints ≤ s.balance c.sub

/-- **What the rest of a call does**: refuse and write nothing, replay, or redeem. -/
lemma redeemRest_cases (s : LoyaltyState) (c : RedeemCall) :
    ((s.redeemRest c).1 = s ∧ (s.redeemRest c).2.code ≠ 200 ∧ ∀ red, ¬ s.Replays c red) ∨
    (∃ red, s.Replays c red ∧ s.redeemRest c = (s, ⟨200, none, some red, none⟩)) ∨
    (s.redemption? c.key = none ∧ (s.redeemRest c).2.code = 200 ∧
      (s.redeemRest c).1.Describes c (s.redeemRest c).2) := by
  fun_cases redeemRest s c with
  | case1 hoffer =>
    refine .inl ⟨rfl, by simp, fun red ⟨_, offer, hsome, _⟩ => ?_⟩
    cases hoffer.symm.trans hsome
  | case2 offer hoffer hfunds =>
    refine .inl ⟨rfl, by simp, fun red ⟨_, offer', hsome, hcost⟩ => ?_⟩
    cases hoffer.symm.trans hsome
    omega
  | case3 offer hoffer hfunds red hkey =>
    exact .inr (.inl ⟨red, ⟨hkey, offer, hoffer, not_lt.mp hfunds⟩, rfl⟩)
  | case4 offer hoffer hfunds hkey =>
    exact .inr (.inr ⟨hkey, rfl, _, List.mem_concat_self, rfl, rfl, rfl⟩)

lemma describes_redeemRest_iff (s : LoyaltyState) (c : RedeemCall) :
    ((s.redeemRest c).2.code = 200 → (s.redeemRest c).1.Describes c (s.redeemRest c).2) ↔
      ∀ red, s.Replays c red → red.riderSub = c.sub ∧ red.offerID = c.offerID := by
  rcases s.redeemRest_cases c with ⟨-, hcode, hnone⟩ | ⟨red, hreplay, heq⟩ | ⟨hkey, -, hdescribes⟩
  · exact iff_of_true (fun h => absurd h hcode) fun red hred => absurd hred (hnone red)
  · rw [heq]
    constructor
    · intro h red' hreplay'
      obtain ⟨_, -, hsame, hown⟩ := h rfl
      cases hsame
      cases hreplay.1.symm.trans hreplay'.1
      exact hown
    · intro h _
      exact ⟨red, List.mem_of_find?_eq_some hreplay.1, rfl, h red hreplay⟩
  · refine iff_of_true (fun _ => hdescribes) fun red hred => ?_
    cases hkey.symm.trans hred.1

/-- **Redemption keys and riders**, whatever calls have done before. -/
theorem redemptions_private_iff (newID : ℕ → String) (s : LoyaltyState) :
    (∀ sub offerID header r, (s.redeemCheck sub offerID header).pc = .done r → r.code = 200 →
      s.Describes (s.redeemCheck sub offerID header) r) ∧
    (∀ i c, s.checked? i = some c →
      (((s.redeemRest c).2.code = 200 → (s.redeemRest c).1.Describes c (s.redeemRest c).2) ↔
        ∀ red, s.Replays c red → red.riderSub = c.sub ∧ red.offerID = c.offerID)) ∧
    (∀ sub offerID header s', s.step newID (.redeemCheck sub offerID header) = some s' →
      ¬ s.Changes s') ∧
    (∀ i s', s.step newID (.redeemAborts i) = some s' → ¬ s.Changes s') ∧
    ∀ i c s', s.checked? i = some c → s.step newID (.redeemRest i) = some s' → s.Changes s' →
      (s.redeemRest c).2.code = 200 ∧
      ∀ es t j d t', run (step newID) s' es = some t → t.checked? j = some d → d.key = c.key →
        t.step newID (.redeemRest j) = some t' → ¬ t.Changes t' := by
  refine ⟨fun sub offerID header r h hcode => ?_, fun _ c _ => describes_redeemRest_iff s c,
    fun sub offerID header s' hstep h => ?_, fun i s' hstep h => ?_, fun i c s' hc hstep h =>
    ⟨?_, ?_⟩⟩
  · revert h
    fun_cases LoyaltyState.redeemCheck s sub offerID header with
    | case1 | case2 | case3 =>
      intro h
      cases h
      simp at hcode
    | case4 _ _ _ _ _ red hkey hown =>
      intro h
      cases h
      rw [not_or, not_not, not_not] at hown
      exact ⟨red, List.mem_of_find?_eq_some hkey, rfl, hown⟩
    | case5 => nofun
  · obtain ⟨_, hsrc, -⟩ := h.used hstep
    cases hsrc
  · obtain ⟨_, hsrc, -⟩ := h.used hstep
    cases hsrc
  · obtain ⟨c', hc', rfl⟩ := Option.map_eq_some_iff.mp hstep
    cases hc.symm.trans hc'
    rcases s.redeemRest_cases c with ⟨hsame, -⟩ | ⟨_, -, heq⟩ | ⟨-, hcode, -⟩
    · obtain ⟨rider, hne⟩ := h
      exact absurd (congrArg (balance · rider) hsame) hne
    · rw [heq]
    · exact hcode
  · -- The first deduction leaves a redemption under the key, and a second one would find none.
    intro es t j d t' hrun hd hkey hstep' h'
    obtain ⟨src, hsrc, -, hused⟩ := h.used hstep
    obtain ⟨src', hsrc', hunused, -⟩ := h'.used hstep'
    rw [LoyaltyEvent.source?, hc] at hsrc
    rw [LoyaltyEvent.source?, hd] at hsrc'
    cases hsrc
    cases hsrc'
    simp only [hkey] at hunused
    exact hunused (run_invariant_always (fun _ _ _ (h : Used _ (.redemption c.key)) hs =>
      h.step hs) hused hrun)

/-- **The second rider is told of the redemption of the first**: both passed the first look. -/
theorem replay_tells_another_rider : ∃ s, run (step fun n => String.ofList (pad 4 n)) empty
      [.accrue 0 "rider-1" 500, .accrue 1 "rider-2" 500,
      .setOffers [⟨"offer-1", 3, true, by decide⟩],
        .redeemCheck "rider-1" (some "offer-1") "k", .redeemCheck "rider-2" (some "offer-1") "k",
        .redeemRest 0, .redeemRest 1] = some s ∧
      ∃ c ∈ s.calls, c.sub = "rider-2" ∧
        c.pc = .done ⟨200, none, some ⟨"rider-1", "offer-1", 3, "k"⟩, none⟩ := by
  decide +kernel

end H2Fleet.Commerce.LoyaltyState
