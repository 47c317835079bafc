import H2Fleet.Ledger.Cluster
import H2Fleet.Commerce.Fare

/-!
# The simulated ledger

The in-memory ledger of `ledger.go`, next to the client over a reachable cluster.  The simulated
ledger knows no account that may be overdrawn, so no money ever enters it, and it knows no codes and
keeps no parameters of a transfer either.
-/

namespace H2Fleet.Ledger

open Commerce (toInt64 toInt64_eq InInt64)

/-- `simulated`: a balance that is missing in the map reads as 0. -/
structure Simulated (ID : Type) where
  balances : ℕ → ℤ
  transfers : List ID

structure Pair (ID : Type) where
  sim : Simulated ID
  real : Books ID

section Ledgers

variable {ID : Type}

def newSimulated : Simulated ID := ⟨fun _ => 0, []⟩

def Pair.fresh : Pair ID := ⟨newSimulated, bootstrapped⟩

variable [DecidableEq ID]

/-- `simulated.Transfer`, with the arithmetic of `int64`. -/
def Simulated.transfer (s : Simulated ID) (r : Request ID) : Simulated ID × Except LedgerError ID :=
  let amount := toInt64 r.amount
  if r.id ∈ s.transfers then (s, .ok r.id)
  else if toInt64 (s.balances r.debit - amount) < 0 then
    (s, .error ⟨"debit account " ++ r.debit.repr ++ " (balance " ++ toString (s.balances r.debit) ++
      ", amount " ++ r.amount.repr ++ "): insufficient funds", true⟩)
  else
    let debited := Function.update s.balances r.debit (toInt64 (s.balances r.debit - amount))
    (⟨Function.update debited r.credit (toInt64 (debited r.credit + amount)), r.id :: s.transfers⟩,
      .ok r.id)

def Pair.step (p : Pair ID) (r : Request ID) : Option (Pair ID) :=
  (perform p.real r).map fun res => ⟨(p.sim.transfer r).1, res.1⟩

/-- The call succeeds on both ledgers or on none. -/
def Pair.Alike (p : Pair ID) (r : Request ID) : Prop :=
  (p.sim.transfer r).2.isOk = true ↔ ∃ b' id, perform p.real r = some (b', .ok id)

omit [DecidableEq ID] in
def Pair.SameBalances (p : Pair ID) : Prop := ∀ a, p.sim.balances a = p.real.balance a

/-- **The refinement**: before every call and at the end the balances are the same, and every call
succeeds on both or on none. -/
def Refines (rs : List (Request ID)) : Prop :=
  Meets Pair.step (fun p r => p.SameBalances ∧ p.Alike r) Pair.fresh rs ∧
    ∃ p, run Pair.step Pair.fresh rs = some p ∧ p.SameBalances

/-- **The condition.**  A new transfer of a positive amount is one the cluster refuses: a held
account, one account on both sides, or a capped debit.  A new transfer of nothing is one it accepts,
and a repeated one has the parameters of the first. -/
def Agreeing (b : Books ID) (r : Request ID) : Prop :=
  if b.Fresh r.id then
    if r.amount = 0 then ¬ r.Conflicted b ∧ r.debit ≠ r.credit
    else r.Conflicted b ∨ r.debit = r.credit ∨ capped r.debit = true
  else ¬ r.Conflicted b ∧ r.transfer ∈ b.posted

instance (b : Books ID) (r : Request ID) : Decidable (r.transfer ∈ b.posted) :=
  decidable_of_iff (∃ t ∈ b.posted, t = r.transfer) exists_eq_right

instance (b : Books ID) (r : Request ID) : Decidable (Agreeing b r) := by
  unfold Agreeing
  infer_instance

/-! ## Both ledgers stay empty -/

omit [DecidableEq ID] in
/-- What holds as long as the two ledgers agree. -/
structure Related (p : Pair ID) : Prop where
  sim : ∀ a, p.sim.balances a = 0
  real : ∀ a, p.real.balance a = 0
  ids : ∀ id, id ∈ p.sim.transfers ↔ ¬ p.real.Fresh id
  chart : Chart p.real.accounts

omit [DecidableEq ID] in
lemma Related.fresh : Related (Pair.fresh : Pair ID) where
  sim _ := rfl
  real _ := rfl
  ids _ := by simp [Pair.fresh, newSimulated, bootstrapped, Books.Fresh]
  chart := .bootstrapped

omit [DecidableEq ID] in
variable {p : Pair ID}

variable {r : Request ID} {s : Simulated ID}

lemma transfer_of_empty (h : ∀ a, s.balances a = 0) (hamount : r.amount < 2 ^ 63) :
    ((s.transfer r).2.isOk = true ↔ r.id ∈ s.transfers ∨ r.amount = 0) ∧
      ∀ a, (s.transfer r).1.balances a = 0 := by
  have hrange : InInt64 (r.amount : ℤ) := ⟨by omega, by exact_mod_cast hamount⟩
  have hneg : InInt64 (0 - (r.amount : ℤ)) := ⟨by omega, by omega⟩
  simp only [Simulated.transfer, h, toInt64_eq hrange, toInt64_eq hneg]
  split_ifs with hmem hlt
  · exact ⟨by simp [hmem, Except.isOk, Except.toBool], h⟩
  · have : r.amount ≠ 0 := by omega
    exact ⟨by simp [hmem, this, Except.isOk, Except.toBool], h⟩
  · have : r.amount = 0 := by omega
    exact ⟨by simp [this, Except.isOk, Except.toBool],
      fun a => by simp [Function.update_apply, this, h, toInt64]⟩

lemma mem_transfer_transfers {id : ID} : id ∈ (s.transfer r).1.transfers ↔
      id ∈ s.transfers ∨ (id = r.id ∧ (s.transfer r).2.isOk = true) := by
  simp only [Simulated.transfer]
  split_ifs with hmem hlt
  · constructor
    · exact .inl
    · rintro (h | ⟨rfl, -⟩)
      · exact h
      · exact hmem
  · simp [Except.isOk, Except.toBool]
  · simp [Except.isOk, Except.toBool, or_comm]

/-! ## One call on both -/

lemma perform_of_related (h : Related p) (r : Request ID) :
    ∃ b' res, perform p.real r = some (b', res) ∧ Chart b'.accounts ∧
      ((res = .ok r.id ∧ ¬ r.Conflicted p.real ∧ r.transfer ∈ p.real.posted ∧
          b'.posted = p.real.posted) ∨
        (res = .ok r.id ∧ ¬ r.Conflicted p.real ∧ p.real.Fresh r.id ∧ r.debit ≠ r.credit ∧
          (capped r.debit = true → r.amount = 0) ∧ b'.posted = p.real.posted ++ [r.transfer]) ∨
        ((∃ e, res = .error e) ∧ b'.posted = p.real.posted ∧
          (r.Conflicted p.real ∨ (r.transfer ∉ p.real.posted ∧
            (¬ p.real.Fresh r.id ∨ r.debit = r.credit ∨
            (capped r.debit = true ∧ r.amount ≠ 0)))))) := by
  obtain ⟨b', res, hcall, hchart, hres⟩ := perform_spec h.chart r
  refine ⟨b', res, hcall, hchart, ?_⟩
  cases hres with
  | conflict e hconflict _ hafter => exact .inr (.inr ⟨⟨e, rfl⟩, hafter, .inl hconflict⟩)
  | repeated hclear hmem hafter => exact .inl ⟨rfl, hclear, hmem, hafter⟩
  | refused e _ hnot hwhy _ hafter =>
    refine .inr (.inr ⟨⟨e, rfl⟩, hafter, .inr ⟨hnot, ?_⟩⟩)
    tauto
  | overdrawn e _ hfresh _ hlt _ hafter =>
    rw [h.real] at hlt
    refine .inr (.inr ⟨⟨e, rfl⟩, hafter, .inr ⟨fun hmem => hfresh _ hmem rfl, ?_⟩⟩)
    exact .inr (.inr ⟨hlt.1, by omega⟩)
  | posted hclear hfresh hne hcovered hafter =>
    rw [h.real] at hcovered
    refine .inr (.inl ⟨rfl, hclear, hfresh, hne, fun hcap => ?_, hafter⟩)
    by_contra hpos
    exact hcovered ⟨hcap, by omega⟩

lemma alike_iff (h : Related p) (hamount : r.amount < 2 ^ 63) : p.Alike r ↔ Agreeing p.real r := by
  have hposted : r.transfer ∈ p.real.posted → ¬ p.real.Fresh r.id := fun hmem hfresh =>
    hfresh _ hmem rfl
  rw [Pair.Alike, (transfer_of_empty h.sim hamount).1, h.ids, Agreeing]
  obtain ⟨b', res, hcall, -, hcases⟩ := perform_of_related h r
  have hreal : (∃ b' id, perform p.real r = some (b', .ok id)) ↔ ∃ id, res = .ok id := by
    simp [hcall]
  rw [hreal]
  rcases hcases with ⟨rfl, hclear, hmem, -⟩ | ⟨rfl, hclear, hfresh, hne,
    hcap, -⟩ | ⟨⟨e, rfl⟩, -, hwhy⟩
  · simp [hposted hmem, hclear, hmem]
  · simp only [hfresh, not_true_eq_false, false_or, if_true]
    split_ifs with hzero
    · simp [hzero, hclear, hne]
    · have : capped r.debit ≠ true := fun hc => hzero (hcap hc)
      simp [hzero, hclear, hne, this]
  · by_cases hfresh : p.real.Fresh r.id
    · simp only [hfresh, not_true_eq_false, false_or, if_true]
      split_ifs with hzero
      · simp only [hzero, true_iff, exists_false, false_iff]
        rintro ⟨hclear, hne⟩
        rcases hwhy with hconflict | ⟨-, hnot | hsame | ⟨-, hpos⟩⟩
        · exact hclear hconflict
        · exact hnot hfresh
        · exact hne hsame
        · exact hpos hzero
      · simp only [hzero, exists_false, true_iff]
        rcases hwhy with hconflict | ⟨-, hnot | hsame | ⟨hcap, -⟩⟩
        · exact .inl hconflict
        · exact absurd hfresh hnot
        · exact .inr (.inl hsame)
        · exact .inr (.inr hcap)
    · simp only [hfresh, not_false_eq_true, true_or, reduceCtorEq, exists_false, if_false, true_iff,
        false_iff]
      rintro ⟨hclear, hmem⟩
      rcases hwhy with hconflict | ⟨hnot, -⟩
      · exact hclear hconflict
      · exact hnot hmem

/-- **One call** that both ledgers treat alike leaves both empty. -/
lemma Related.step {p p' : Pair ID} (h : Related p) (hamount : r.amount < 2 ^ 63)
    (halike : p.Alike r) (hstep : p.step r = some p') : Related p' := by
  obtain ⟨b', res, hcall, hchart, hcases⟩ := perform_of_related h r
  have hp' : p' = ⟨(p.sim.transfer r).1, b'⟩ := by simpa [Pair.step, hcall, eq_comm] using hstep
  subst hp'
  have hok : (p.sim.transfer r).2.isOk = true ↔ ∃ id, res = .ok id := by
    rw [Pair.Alike] at halike
    rw [halike]
    simp [hcall]
  obtain ⟨hsim, hempty⟩ := transfer_of_empty h.sim hamount
  have hunchanged : b'.posted = p.real.posted → (∀ id, res = .ok id → ¬ p.real.Fresh r.id) →
      Related ⟨(p.sim.transfer r).1, b'⟩ := by
    intro hposted hknown
    refine ⟨hempty, fun a => ?_, fun id => ?_, hchart⟩
    · exact (Books.balance_congr hposted a).trans (h.real a)
    · rw [mem_transfer_transfers, h.ids, hok, Books.fresh_congr hposted]
      constructor
      · rintro (hid | ⟨rfl, id', hid'⟩)
        · exact hid
        · exact hknown id' hid'
      · exact .inl
  rcases hcases with ⟨rfl, -, hmem, hposted⟩ | ⟨rfl, -, hfresh, -, -, hposted⟩ | ⟨⟨e, rfl⟩,
    hposted, -⟩
  · exact hunchanged hposted fun _ _ hfresh => hfresh _ hmem rfl
  · -- the simulated ledger accepts a new transfer only if it is one of nothing
    have hzero : r.amount = 0 := by
      have := hsim.mp (hok.mpr ⟨_, rfl⟩)
      rw [h.ids] at this
      exact this.resolve_left (not_not.mpr hfresh)
    refine ⟨hempty, fun a => ?_, fun id => ?_, hchart⟩
    · have hbalance := (Books.balance_congr
        (b := { p.real with posted := p.real.posted ++ [r.transfer] }) hposted a).trans
          (p.real.balance_post r.transfer a)
      rw [hbalance, h.real, Transfer.effect]
      simp [Request.transfer, transferFor, hzero]
    · rw [mem_transfer_transfers, h.ids, hok, Books.fresh_post hposted, not_and_or, not_not]
      simp [Request.transfer, transferFor, eq_comm]
  · refine hunchanged hposted fun id hid => ?_
    cases hid

/-! ## Every sequence of calls -/

/-- **When the simulated ledger refines the client.** -/
theorem simulated_refines_iff {rs : List (Request ID)} (hrs : ∀ r ∈ rs, r.amount < 2 ^ 63) :
    Refines rs ↔ Meets Pair.step (fun p r => Agreeing p.real r) Pair.fresh rs := by
  have hiff : ∀ (p : Pair ID) (r : Request ID), Related p → r.amount < 2 ^ 63 →
      (p.SameBalances ∧ p.Alike r ↔ Agreeing p.real r) :=
    fun p r h hr =>
      (and_iff_right (fun a => (h.sim a).trans (h.real a).symm)).trans (alike_iff h hr)
  have hstep : ∀ (p : Pair ID) (r : Request ID) (p' : Pair ID), Related p → r.amount < 2 ^ 63 →
      p.SameBalances ∧ p.Alike r → p.step r = some p' → Related p' :=
    fun p r p' h hr hok hp' => h.step hr hok.2 hp'
  have htotal : ∀ (p : Pair ID) (r : Request ID), Related p → r.amount < 2 ^ 63 →
      p.SameBalances ∧ p.Alike r → ∃ p', p.step r = some p' ∧ Related p' := by
    intro p r h hr hok
    obtain ⟨b', res, hcall, -⟩ := perform_of_related h r
    have hp' : p.step r = some ⟨(p.sim.transfer r).1, b'⟩ := by simp [Pair.step, hcall]
    exact ⟨_, hp', hstep p r _ h hr hok hp'⟩
  rw [Refines, ← meets_congr hiff hstep Related.fresh hrs]
  refine and_iff_left_of_imp fun hmeets => ?_
  obtain ⟨p, hrun, hp⟩ := run_total htotal Related.fresh hrs hmeets
  exact ⟨p, hrun, (fun a => (hp.sim a).trans (hp.real a).symm)⟩

end Ledgers

/-- A fare from an empty wallet, and a top-up of nothing and its repetition. -/
theorem simulated_refines_iff_unfunded :
    Refines [(⟨0, 1001, operatorRevenueAccount, 200, codeFare⟩ : Request ℕ),
      ⟨1, riderFundingAccount, 1001, 0, codeFare⟩, ⟨1, riderFundingAccount, 1001, 0, codeFare⟩] :=
  (simulated_refines_iff (by decide)).mpr (by decide +kernel)

/-- **A top-up of a new wallet** is refused for lack of funds in the platform's own account. -/
theorem simulated_refuses_topUp :
    ((newSimulated.transfer (⟨0, riderFundingAccount, 1001, 500, codeFare⟩ : Request ℕ)).2 =
        .error ⟨"debit account 2002 (balance 0, amount 500): insufficient funds", true⟩) ∧
      (perform bootstrapped (⟨0, riderFundingAccount, 1001, 500, codeFare⟩ : Request ℕ)).map
        Prod.snd =
        some (.ok 0) ∧ ¬ Refines [(⟨0, riderFundingAccount, 1001, 500, codeFare⟩ : Request ℕ)] := by
  have hreal : (perform bootstrapped
      (⟨0, riderFundingAccount, 1001, 500, codeFare⟩ : Request ℕ)).map Prod.snd = some (.ok 0) := by
    decide +kernel
  refine ⟨by decide +kernel, hreal, ?_⟩
  rintro ⟨hmeets, -⟩
  obtain ⟨⟨b', res⟩, hcall, rfl⟩ := Option.map_eq_some_iff.mp hreal
  have hsim := hmeets.1.2.mpr ⟨b', 0, hcall⟩
  revert hsim
  decide +kernel

end H2Fleet.Ledger
