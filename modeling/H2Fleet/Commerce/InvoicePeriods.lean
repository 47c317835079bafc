import H2Fleet.Commerce.InvoicePayments

/-!
# Invoiced periods

A charge carries the start of its transaction, but a sweep sees it only when the transaction has
committed.  A generation waits for the open transactions that have accrued a charge of its account,
and not for those that have yet to do so.  If such a transaction has started before the end of the
period, its charge is left behind: the replay check returns the invoice that is there.

* `PeriodsOk` — the invariant: what a sweep has left of its period stays empty.
-/

namespace H2Fleet.Commerce

open List ChargeRow Generation

variable {ID : Type}

def Generation.InPeriod (g : Generation ID) (instant : ℤ) : Prop :=
  g.periodStart ≤ instant ∧ instant < g.periodEnd
  deriving Decidable

/-- No open transaction of the period has yet to accrue. -/
def BillingState.NonePending (s : BillingState ID) (g : Generation ID) : Prop :=
  ∀ p ∈ s.payments, p.ended = false ∧ p.charge = none → ¬ g.InPeriod p.startedAt
  deriving Decidable

def Prompt (s : BillingState ID) : BillingEvent → Prop
  | .sweep i => ∀ g ∈ s.generations[i]?, g.periodEnd ≤ g.startedAt → s.NonePending g
  | _ => True

instance (s : BillingState ID) (e : BillingEvent) : Decidable (Prompt s e) := by
  unfold Prompt; split <;> infer_instance

def BillingState.Quiesced (s : BillingState ID) (g : Generation ID) : Prop :=
  ∀ p ∈ s.payments, p.MayCharge g.accountID → ¬ g.InPeriod p.startedAt

/-- The transaction has swept and was not rolled back. -/
def GenPc.past : GenPc ID → Bool
  | .swept | .inserted _ | .committed _ => true
  | _ => false

/-- The rows of account and period have an invoice, or are swept by this generation. -/
def BillingState.Emptied (s : BillingState ID) (i : ℕ) (g : Generation ID) : Prop :=
  ∀ c ∈ s.charges, c.charge.billingAccountID = g.accountID → g.InPeriod c.createdAt →
    c.invoiceID ≠ none ∨ c.sweptBy = some i

def Generation.Issued (g : Generation ID) (v : Invoice ID) : Prop :=
  g.Covers v ∧ v.issuedAt = g.startedAt

structure PeriodsOk (s : BillingState ID) : Prop where
  rows : Exclusive rowLock s.generations
  shared : ∀ p ∈ s.payments, ∀ k, p.keyShare = some k → ∀ g ∈ s.generations, g.rowLock ≠ some k
  started : ∀ g ∈ s.generations, g.startedAt ≤ s.clock
  marks : ∀ c ∈ s.charges, ∀ i, c.sweptBy = some i → ∃ g, s.generations[i]? = some g ∧
    g.pc.sweeping = true ∧ g.accountID = c.charge.billingAccountID
  inserted : ∀ g ∈ s.generations, ∀ v, g.pc = .inserted v → g.Issued v
  issued : ∀ v ∈ s.invoices, ∃ (i : ℕ) (g : Generation ID) (w : Invoice ID),
    s.generations[i]? = some g ∧ g.pc = .committed w ∧ g.Issued v
  closed : ∀ (i : ℕ) (g : Generation ID), s.generations[i]? = some g → g.pc.past = true →
    g.periodEnd ≤ g.startedAt → s.Quiesced g ∧ s.Emptied i g

section Steps

variable {cfg : Config ID} {s s' : BillingState ID} {e : BillingEvent} {i : ℕ} {g : Generation ID}

lemma PeriodsOk.init (b : Books ID) : PeriodsOk (.init b) where
  rows := Exclusive.nil
  shared _ hp := nomatch hp
  started _ hg := nomatch hg
  marks _ hc := nomatch hc
  inserted _ hg := nomatch hg
  issued _ hv := nomatch hv
  closed i g hg := by simp [BillingState.init] at hg

/-! ## Payments -/

variable {p : PaymentTx} {account : String}

lemma Moves.mayCharge (h : Moves cfg s e s') (hp : p ∈ s'.payments) (hmay : p.MayCharge account) :
    p.startedAt = s.clock ∨ ∃ q ∈ s.payments, q.startedAt = p.startedAt ∧ q.MayCharge account := by
  cases h with
  | beginPayment =>
    rcases mem_append.mp hp with hp | hp
    · exact .inr ⟨p, hp, rfl, hmay⟩
    · rw [mem_singleton.mp hp]
      exact .inl rfl
  | accrue k q charge hq hopen hnone hfree =>
    rcases mem_set_cases hp with rfl | hp
    · refine .inr ⟨q, mem_of_getElem? hq, rfl, hopen, fun c hc => ?_⟩
      rw [hnone] at hc
      cases hc
    · exact .inr ⟨p, hp, rfl, hmay⟩
  | commitPayment | abortPayment =>
    rcases mem_set_cases hp with rfl | hp
    · cases hmay.1
    · exact .inr ⟨p, hp, rfl, hmay⟩
  | tick | accounts | beginGeneration | advance | sweep | insert | rollBack | commitGeneration
  | beginSettlement | advanceSettlement | post | commitSettlement | otherTransfer =>
    exact .inr ⟨p, hp, rfl, hmay⟩

/-- A transaction that shares an account row did so before, or no generation holds it. -/
lemma Moves.keyShare (h : Moves cfg s e s') (hp : p ∈ s'.payments)
    (hkey : p.keyShare = some account) :
    (∃ q ∈ s.payments, q.keyShare = some account) ∨
      ∀ g ∈ s.generations, g.rowLock ≠ some account := by
  cases h with
  | beginPayment =>
    rcases mem_append.mp hp with hp | hp
    · exact .inl ⟨p, hp, hkey⟩
    · rw [mem_singleton.mp hp] at hkey
      cases hkey
  | accrue k q charge hq hopen hnone hfree =>
    rcases mem_set_cases hp with rfl | hp
    · obtain rfl : charge.billingAccountID = account := by
        simpa [PaymentTx.keyShare, hopen] using hkey
      exact .inr hfree
    · exact .inl ⟨p, hp, hkey⟩
  | commitPayment | abortPayment =>
    rcases mem_set_cases hp with rfl | hp
    · cases hkey
    · exact .inl ⟨p, hp, hkey⟩
  | tick | accounts | beginGeneration | advance | sweep | insert | rollBack | commitGeneration
  | beginSettlement | advanceSettlement | post | commitSettlement | otherTransfer =>
    exact .inl ⟨p, hp, hkey⟩

lemma PeriodsOk.shared_moves (h : PeriodsOk s) (hmove : Moves cfg s e s') (hp : p ∈ s'.payments)
    (hkey : p.keyShare = some account) : ∀ g ∈ s.generations, g.rowLock ≠ some account := by
  rcases hmove.keyShare hp hkey with ⟨q, hq, hqkey⟩ | hfree
  · exact h.shared q hq account hqkey
  · exact hfree

/-- **At a sweep** only transactions before their accrual can still charge. -/
lemma PeriodsOk.quiesced (h : PeriodsOk s) (hg : s.generations[i]? = some g)
    (hpc : g.pc = .rowLocked) (hnone : s.NonePending g) : s.Quiesced g := by
  intro p hp hmay
  cases hcharge : p.charge with
  | none => exact hnone p hp ⟨hmay.1, hcharge⟩
  | some c =>
    have hkey : p.keyShare = some g.accountID := by
      simp [PaymentTx.keyShare, hmay.1, hcharge, hmay.2 c hcharge]
    refine absurd ?_ (h.shared p hp g.accountID hkey g (mem_of_getElem? hg))
    rw [rowLock, hpc]

lemma BillingState.Quiesced.moves (h : s.Quiesced g) (hmove : Moves cfg s e s')
    (hover : g.periodEnd ≤ s.clock) : s'.Quiesced g := by
  intro p hp hmay hin
  rcases hmove.mayCharge hp hmay with hnow | ⟨q, hq, hstart, hqmay⟩
  · have hlt := hin.2
    rw [hnow] at hlt
    exact absurd hlt (not_lt.mpr hover)
  · exact h q hq hqmay (hstart ▸ hin)

/-! ## Charges -/

@[simp] lemma ChargeRow.mark_createdAt (g : Generation ID) (i : ℕ) (c : ChargeRow) :
    (c.mark g i).createdAt = c.createdAt := by
  rw [mark]
  split_ifs <;> rfl

@[simp] lemma ChargeRow.release_createdAt (i : ℕ) (c : ChargeRow) :
    (c.release i).createdAt = c.createdAt := by
  rw [release]
  split_ifs <;> rfl

@[simp] lemma ChargeRow.assign_createdAt (i : ℕ) (id : String) (c : ChargeRow) :
    (c.assign i id).createdAt = c.createdAt := by
  rw [assign]
  split_ifs <;> rfl

variable {t : BillingState ID}

/-- A change of the rows that leaves charges and times alone. -/
lemma BillingState.Emptied.map (h : s.Emptied i g) {f : ChargeRow → ChargeRow}
    (hcharge : ∀ c, (f c).charge = c.charge) (hcreated : ∀ c, (f c).createdAt = c.createdAt)
    (hf : ∀ c : ChargeRow, c.invoiceID ≠ none ∨ c.sweptBy = some i →
      (f c).invoiceID ≠ none ∨ (f c).sweptBy = some i) (ht : t.charges = s.charges.map f) :
    t.Emptied i g := by
  intro c hc haccount hin
  rw [ht] at hc
  obtain ⟨d, hd, rfl⟩ := mem_map.mp hc
  rw [hcharge] at haccount
  rw [hcreated] at hin
  exact hf d (h d hd haccount hin)

lemma BillingState.Emptied.commitPayment (h : s.Emptied i g) (hquiesced : s.Quiesced g)
    (hp : p ∈ s.payments) (hopen : p.ended = false) (ht : t.charges = s.charges ++ p.rows) :
    t.Emptied i g := by
  intro c hc haccount hin
  rw [ht] at hc
  rcases mem_append.mp hc with hc | hc
  · exact h c hc haccount hin
  · obtain ⟨hcharge, hcreated, -, -⟩ := PaymentTx.mem_rows hc
    have hmay : p.MayCharge g.accountID := by
      refine ⟨hopen, fun d hd => ?_⟩
      cases hcharge.symm.trans hd
      exact haccount
    exact absurd (hcreated ▸ hin) (hquiesced p hp hmay)

variable (h : PeriodsOk s)
include h

namespace PeriodsOk

lemma beginGeneration (hpc : g.pc = .begun ∨ g.pc.void = true) (hstarted : g.startedAt = s.clock) :
    PeriodsOk { s with generations := s.generations ++ [g] } := by
  have hplace : g.pc.past = false ∧ (∀ v, g.pc ≠ .inserted v) ∧ g.rowLock = none := by
    rw [rowLock]
    cases hgpc : g.pc with
    | begun | done | aborted => exact ⟨rfl, fun v hv => (nomatch hv), rfl⟩
    | locked | checked | rowLocked | swept | inserted | committed => simp [hgpc, GenPc.void] at hpc
  constructor
  · refine h.rows.concat fun k hk => ?_
    rw [hplace.2.2] at hk
    cases hk
  · intro p hp k hk
    exact forall_mem_concat (h.shared p hp k hk) (by simp [hplace.2.2])
  · exact forall_mem_concat h.started hstarted.le
  · intro c hc j hj
    obtain ⟨d, hd, hrest⟩ := h.marks c hc j hj
    exact ⟨d, getElem?_append_old hd, hrest⟩
  · exact forall_mem_concat h.inserted fun v hv => absurd hv (hplace.2.1 v)
  · intro v hv
    obtain ⟨j, d, w, hd, hrest⟩ := h.issued v hv
    exact ⟨j, d, w, getElem?_append_old hd, hrest⟩
  · intro j d hd hpast hover
    rcases getElem?_append_cases hd with ⟨-, rfl⟩ | hd'
    · rw [hplace.1] at hpast
      cases hpast
    · exact h.closed j d hd' hpast hover

variable (hg : s.generations[i]? = some g)
include hg

/-- **The sweep empties its period**: what it cannot take has an invoice. -/
lemma emptied_sweep (hpc : g.pc = .rowLocked)
    (ht : t.charges = s.charges.map (mark g i)) : t.Emptied i g := by
  intro c hc haccount hin
  rw [ht] at hc
  obtain ⟨d, hd, rfl⟩ := mem_map.mp hc
  rw [mark_charge] at haccount
  rw [mark_createdAt] at hin
  rw [mark_invoiceID]
  by_cases hnone : d.invoiceID = none
  · have hfree : d.sweptBy = none := by
      cases hswept : d.sweptBy with
      | none => rfl
      | some j =>
        obtain ⟨g', hg', hsweeping, haccount'⟩ := h.marks d hd j hswept
        have hlock : g'.rowLock = some g.accountID := by
          rw [rowLock]
          cases hpc' : g'.pc with
          | swept | inserted => exact congrArg some (haccount'.trans haccount)
          | begun | locked | checked | rowLocked | committed | done | aborted =>
            rw [hpc'] at hsweeping
            cases hsweeping
        have hown : g.rowLock = some g.accountID := by rw [rowLock, hpc]
        obtain rfl := h.rows j i g' g g.accountID hg' hg hlock hown
        cases hg.symm.trans hg'
        rw [hpc] at hsweeping
        cases hsweeping
    refine .inr ?_
    rw [mark, if_pos ⟨haccount, hnone, hfree, hin⟩]
  · exact .inl hnone

/-! ## Generations -/

/-- **A generation makes a step** in its own place. -/
lemma setGeneration {pc : GenPc ID}
    {charges : List ChargeRow} {invoices : List (Invoice ID)} (hopen : ∀ w, g.pc ≠ .committed w)
    (hlock : ∀ k, rowLock { g with pc := pc } = some k →
      g.rowLock = some k ∨ ((∀ d ∈ s.generations, d.rowLock ≠ some k) ∧
        ∀ p ∈ s.payments, p.keyShare ≠ some k))
    (hmarks : ∀ c ∈ charges, ∀ j, c.sweptBy = some j →
      (j = i ∧ pc.sweeping = true ∧ g.accountID = c.charge.billingAccountID) ∨
        (j ≠ i ∧ ∃ d ∈ s.charges, d.sweptBy = some j ∧ d.charge = c.charge))
    (hins : ∀ v, pc = .inserted v → g.Issued v)
    (hissued : ∀ v ∈ invoices, v ∈ s.invoices ∨ ((∃ w, pc = .committed w) ∧ g.Issued v))
    (hclosed : pc.past = true → g.periodEnd ≤ g.startedAt →
      s.Quiesced g ∧ BillingState.Emptied { s with charges := charges } i g)
    (hothers : ∀ j d, j ≠ i → s.Emptied j d →
      BillingState.Emptied { s with charges := charges } j d) :
    PeriodsOk ({ s with charges := charges, invoices := invoices }.setGeneration i
      { g with pc := pc }) := by
  have hself : (s.generations.set i { g with pc := pc })[i]? = some { g with pc := pc } :=
    getElem?_set_self (List.getElem?_eq_some_iff.mp hg).1
  constructor
  · exact h.rows.set hg fun k hk => (hlock k hk).imp_right And.left
  · intro p hp k hk
    refine forall_mem_set (h.shared p hp k hk) fun hown => ?_
    rcases hlock k hown with hold | ⟨-, hfree⟩
    · exact h.shared p hp k hk g (mem_of_getElem? hg) hold
    · exact hfree p hp hk
  · exact forall_mem_set h.started (h.started g (mem_of_getElem? hg))
  · intro c hc j hj
    rcases hmarks c hc j hj with ⟨rfl, hsweeping, haccount⟩ | ⟨hne, d, hd, hdj, hcharge⟩
    · exact ⟨_, hself, hsweeping, haccount⟩
    · obtain ⟨g', hg', hsweeping, haccount⟩ := h.marks d hd j hdj
      exact ⟨g', getElem?_set_other hne hg', hsweeping, hcharge ▸ haccount⟩
  · exact forall_mem_set h.inserted hins
  · intro v hv
    rcases hissued v hv with hv | ⟨⟨w, hw⟩, hgv⟩
    · obtain ⟨j, d, w, hd, hdpc, hdv⟩ := h.issued v hv
      refine ⟨j, d, w, getElem?_set_other ?_ hd, hdpc, hdv⟩
      rintro rfl
      cases hg.symm.trans hd
      exact hopen w hdpc
    · exact ⟨i, _, w, hself, hw, hgv⟩
  · intro j d hd hpast hover
    rcases getElem?_set_cases hd with ⟨rfl, rfl⟩ | ⟨hne, hd⟩
    · exact hclosed hpast hover
    · obtain ⟨hquiesced, hemptied⟩ := h.closed j d hd hpast hover
      exact ⟨hquiesced, hothers j d hne hemptied⟩

lemma marks_other (hpc : g.pc.sweeping = false)
    {c : ChargeRow} (hc : c ∈ s.charges) {j : ℕ} (hj : c.sweptBy = some j) : j ≠ i := by
  rintro rfl
  obtain ⟨g', hg', hsweeping, -⟩ := h.marks c hc j hj
  cases hg.symm.trans hg'
  rw [hpc] at hsweeping
  cases hsweeping

lemma advance {pc : GenPc ID}
    (hearly : g.pc.early = true) (hpc : pc.early = true ∨ pc.void = true)
    (hfree : pc = .rowLocked → (∀ d ∈ s.generations, d.rowLock ≠ some g.accountID) ∧
      ∀ p ∈ s.payments, p.keyShare ≠ some g.accountID) :
    PeriodsOk (s.setGeneration i { g with pc := pc }) := by
  have hidle : g.pc.sweeping = false := by
    cases hgpc : g.pc with
    | begun | locked | checked | rowLocked => rfl
    | swept | inserted | committed | done | aborted =>
      rw [hgpc] at hearly
      cases hearly
  have hplace : pc.past = false ∧ (∀ v, pc ≠ .inserted v) ∧
      ∀ k, rowLock { g with pc := pc } = some k → pc = .rowLocked ∧ k = g.accountID := by
    cases pc with
    | rowLocked => exact ⟨rfl, fun v hv => (nomatch hv), fun k hk =>
        ⟨rfl, (Option.some.inj hk).symm⟩⟩
    | begun | locked | checked | done | aborted =>
      exact ⟨rfl, fun v hv => (nomatch hv), fun k hk => (nomatch hk)⟩
    | swept | inserted | committed => rcases hpc with hpc | hpc <;> cases hpc
  refine h.setGeneration hg ?_ ?_ ?_ ?_ (fun v hv => .inl hv) ?_ (fun j d _ hd => hd)
  · intro w hw
    rw [hw] at hearly
    cases hearly
  · intro k hk
    obtain ⟨hrow, rfl⟩ := hplace.2.2 k hk
    exact .inr (hfree hrow)
  · intro c hc j hj
    exact .inr ⟨h.marks_other hg hidle hc hj, c, hc, hj, rfl⟩
  · intro v hv
    exact absurd hv (hplace.2.1 v)
  · intro hpast
    rw [hplace.1] at hpast
    cases hpast

lemma sweep (hpc : g.pc = .rowLocked)
    (hprompt : g.periodEnd ≤ g.startedAt → s.NonePending g) :
    PeriodsOk ({ s with charges := s.charges.map (mark g i) }.setGeneration i
      { g with pc := .swept }) := by
  refine h.setGeneration hg ?_ ?_ ?_ (fun v hv => (nomatch hv)) (fun v hv => .inl hv) ?_ ?_
  · intro w hw
    rw [hpc] at hw
    cases hw
  · intro k hk
    refine .inl ?_
    rw [rowLock, hpc]
    exact hk
  · intro c hc j hj
    obtain ⟨d, hd, rfl⟩ := mem_map.mp hc
    rcases mark_sweptBy hj with hj | ⟨rfl, hfinds⟩
    · refine .inr ⟨h.marks_other hg (by rw [hpc]; rfl) hd hj, d, hd, hj, ?_⟩
      rw [mark_charge]
    · refine .inl ⟨rfl, rfl, ?_⟩
      rw [mark_charge]
      exact hfinds.1.symm
  · intro _ hover
    exact ⟨h.quiesced hg hpc (hprompt hover), h.emptied_sweep hg hpc rfl⟩
  · intro j d hne hd
    refine hd.map (mark_charge g i) (mark_createdAt g i) ?_ rfl
    intro c hc
    rw [mark_invoiceID, mark_sweptBy_other hne]
    exact hc

lemma insert (hpc : g.pc = .swept) :
    PeriodsOk (s.setGeneration i { g with pc := .inserted (s.newInvoice cfg i g) }) := by
  refine h.setGeneration hg ?_ ?_ ?_ ?_ (fun v hv => .inl hv) ?_ (fun j d _ hd => hd)
  · intro w hw
    rw [hpc] at hw
    cases hw
  · intro k hk
    refine .inl ?_
    rw [rowLock, hpc]
    exact hk
  · intro c hc j hj
    by_cases hji : j = i
    · subst hji
      obtain ⟨g', hg', -, haccount⟩ := h.marks c hc j hj
      cases hg.symm.trans hg'
      exact .inl ⟨rfl, rfl, haccount⟩
    · exact .inr ⟨hji, c, hc, hj, rfl⟩
  · intro v hv
    cases hv
    exact ⟨⟨rfl, rfl, rfl⟩, rfl⟩
  · intro _ hover
    exact h.closed i g hg (by rw [hpc]; rfl) hover

lemma rollBack (hopen : g.pc.ended = false) :
    PeriodsOk (s.rollBack i g .aborted) := by
  refine h.setGeneration hg ?_ (fun k hk => (nomatch hk)) ?_ (fun v hv => (nomatch hv))
    (fun v hv => .inl hv) (fun hpast => (nomatch hpast)) ?_
  · intro w hw
    rw [hw] at hopen
    cases hopen
  · intro c hc j hj
    obtain ⟨d, hd, rfl⟩ := mem_map.mp hc
    obtain ⟨hj, hne⟩ := release_sweptBy.mp hj
    refine .inr ⟨hne, d, hd, hj, ?_⟩
    rw [release_charge]
  · intro j d hne hd
    refine hd.map (release_charge i) (release_createdAt i) ?_ rfl
    intro c hc
    rw [release_invoiceID, release_sweptBy]
    exact hc.imp_right fun hj => ⟨hj, hne⟩

lemma commit {v : Invoice ID} (hpc : g.pc = .inserted v) :
    PeriodsOk ({ s with
      charges := s.charges.map (assign i v.id)
      invoices := s.invoices ++ [v] }.setGeneration i { g with pc := .committed v }) := by
  have hassign : ∀ (c : ChargeRow) (j : ℕ), c.invoiceID ≠ none ∨ c.sweptBy = some j →
      (c.assign i v.id).invoiceID ≠ none ∨ (c.assign i v.id).sweptBy = some j := by
    intro c j hc
    rw [assign_invoiceID, assign_sweptBy]
    by_cases hswept : c.sweptBy = some i
    · exact .inl (by simp [hswept])
    · rw [if_neg hswept]
      refine hc.imp_right fun hj => ⟨hj, ?_⟩
      rintro rfl
      exact hswept hj
  refine h.setGeneration hg ?_ (fun k hk => (nomatch hk)) ?_ (fun v hv => (nomatch hv)) ?_ ?_ ?_
  · intro w hw
    rw [hpc] at hw
    cases hw
  · intro c hc j hj
    obtain ⟨d, hd, rfl⟩ := mem_map.mp hc
    obtain ⟨hj, hne⟩ := assign_sweptBy.mp hj
    refine .inr ⟨hne, d, hd, hj, ?_⟩
    rw [assign_charge]
  · intro w hw
    rcases mem_append.mp hw with hw | hw
    · exact .inl hw
    · rw [mem_singleton.mp hw]
      exact .inr ⟨⟨v, rfl⟩, h.inserted g (mem_of_getElem? hg) v hpc⟩
  · intro _ hover
    obtain ⟨hquiesced, hemptied⟩ := h.closed i g hg (by rw [hpc]; rfl) hover
    exact ⟨hquiesced, hemptied.map (assign_charge i v.id)
      (assign_createdAt i v.id) (fun c hc => hassign c i hc) rfl⟩
  · intro j d _ hd
    exact hd.map (assign_charge i v.id) (assign_createdAt i v.id)
      (fun c hc => hassign c j hc) rfl

end PeriodsOk

omit h

/-! ## Runs -/

lemma Generation.Issued.pay {v : Invoice ID} (h : g.Issued v) (id : String) (transferID : ID) :
    g.Issued (v.pay id transferID) := by
  rw [Invoice.pay]
  split_ifs
  · exact h
  · exact h

lemma PeriodsOk.frame (h : PeriodsOk s) (hmove : Moves cfg s e s')
    (hclock : s.clock ≤ s'.clock) (hcharges : s'.charges = s.charges)
    (hinvoices : s'.invoices = s.invoices) (hgenerations : s'.generations = s.generations) :
    PeriodsOk s' where
  rows := hgenerations ▸ h.rows
  shared p hp k hk := hgenerations ▸ h.shared_moves hmove hp hk
  started d hd := (h.started d (hgenerations ▸ hd)).trans hclock
  marks c hc j hj := by
    rw [hcharges] at hc
    rw [hgenerations]
    exact h.marks c hc j hj
  inserted d hd v hv := h.inserted d (hgenerations ▸ hd) v hv
  issued v hv := by
    rw [hinvoices] at hv
    rw [hgenerations]
    exact h.issued v hv
  closed j d hd hpast hover := by
    rw [hgenerations] at hd
    obtain ⟨hquiesced, hemptied⟩ := h.closed j d hd hpast hover
    refine ⟨hquiesced.moves hmove (hover.trans (h.started d (mem_of_getElem? hd))), ?_⟩
    intro c hc
    exact hemptied c (hcharges ▸ hc)

lemma PeriodsOk.moves (h : PeriodsOk s) (hok : Prompt s e) (hmove : Moves cfg s e s') :
    PeriodsOk s' := by
  have hframe := h.frame hmove
  have hshared : ∀ p ∈ s'.payments, ∀ k, p.keyShare = some k →
      ∀ g ∈ s.generations, g.rowLock ≠ some k := fun p hp k hk => h.shared_moves hmove hp hk
  have hquiet : ∀ d ∈ s.generations, d.periodEnd ≤ d.startedAt → s.Quiesced d → s'.Quiesced d :=
    fun d hd hover hquiesced => hquiesced.moves hmove (hover.trans (h.started d hd))
  cases hmove with
  | tick now hnow => exact hframe hnow rfl rfl rfl
  | accounts | beginPayment | accrue | abortPayment | beginSettlement | advanceSettlement | post
  | otherTransfer => exact hframe le_rfl rfl rfl rfl
  | commitPayment k p hp hopen =>
    refine ⟨h.rows, hshared, h.started, fun c hc j hj => ?_, h.inserted, h.issued,
      fun j d hd hpast hover => ?_⟩
    · rcases mem_append.mp hc with hc | hc
      · exact h.marks c hc j hj
      · rw [(PaymentTx.mem_rows hc).2.2.2] at hj
        cases hj
    · obtain ⟨hquiesced, hemptied⟩ := h.closed j d hd hpast hover
      exact ⟨hquiet d (mem_of_getElem? hd) hover hquiesced,
        hemptied.commitPayment hquiesced (mem_of_getElem? hp) hopen rfl⟩
  | beginGeneration d hpc hstarted => exact h.beginGeneration hpc hstarted
  | advance i g pc hg hearly hpc hfree => exact h.advance hg hearly hpc hfree
  | sweep i g he hg hpc =>
    subst he
    exact h.sweep hg hpc (hok g hg)
  | insert i g hg hpc => exact h.insert hg hpc
  | rollBack i g hg hopen => exact h.rollBack hg hopen
  | commitGeneration i g v hg hpc => exact h.commit hg hpc
  | commitSettlement j c v id r hc hpc =>
    refine { h with issued := fun w hw => ?_ }
    obtain ⟨u, hu, rfl⟩ := mem_map.mp hw
    obtain ⟨m, d, w, hd, hdpc, hdu⟩ := h.issued u hu
    exact ⟨m, d, w, hd, hdpc, hdu.pay v.id id⟩

end Steps

/-- **No charge is left behind**, in a run with prompt sweeps, in the period of an invoice generated
after it. -/
theorem no_charge_left_behind [DecidableEq ID] {cfg : Config ID} {b : Books ID}
    {es : List BillingEvent} {s : BillingState ID}
    (hmeets : Meets (BillingState.step cfg) Prompt (.init b) es)
    (hrun : run (BillingState.step cfg) (.init b) es = some s) :
    ∀ v ∈ s.invoices, v.periodEnd ≤ v.issuedAt → ∀ c ∈ s.charges,
      c.charge.billingAccountID = v.billingAccountID → v.periodStart ≤ c.createdAt →
      c.createdAt < v.periodEnd → c.invoiceID ≠ none := by
  have hs : PeriodsOk s :=
    run_invariant (fun _ _ _ h hok he => h.moves hok (moves_of_step he)) (.init b) hmeets hrun
  intro v hv hover c hc haccount hstart hstop
  obtain ⟨i, g, w, hg, hpc, ⟨hgaccount, hgstart, hgstop⟩, hissued⟩ := hs.issued v hv
  rw [hgstop, hissued] at hover
  obtain ⟨-, hemptied⟩ := hs.closed i g hg (by rw [hpc]; rfl) hover
  rcases hemptied c hc (haccount.trans hgaccount) ⟨hgstart ▸ hstart, hgstop ▸ hstop⟩ with
    hinvoiced | hswept
  · exact hinvoiced
  · -- a generation that has committed marks no row
    obtain ⟨g', hg', hsweeping, -⟩ := hs.marks c hc i hswept
    cases hg.symm.trans hg'
    rw [hpc] at hsweeping
    cases hsweeping

theorem no_charge_left_behind_rides :
    ∃ s, run (BillingState.step defaultConfig) (.init fundedBooks) invoicedRides = some s ∧
      s.charges.map (fun c => (c.createdAt, c.invoiceID)) =
        [(100, some firstPayment), (100, some firstPayment)] ∧
      ∀ v ∈ s.invoices, v.periodEnd ≤ v.issuedAt → ∀ c ∈ s.charges,
        c.charge.billingAccountID = v.billingAccountID → v.periodStart ≤ c.createdAt →
        c.createdAt < v.periodEnd → c.invoiceID ≠ none := by
  obtain ⟨s, hs, hcharges⟩ :
      ∃ s, run (BillingState.step defaultConfig) (.init fundedBooks) invoicedRides = some s ∧
        s.charges.map (fun c => (c.createdAt, c.invoiceID)) =
          [(100, some firstPayment), (100, some firstPayment)] := by
    decide +kernel
  exact ⟨s, hs, hcharges, no_charge_left_behind (by decide +kernel) hs⟩

/-! ## A slow payment -/

/-- A ride of instant 100 that accrues after the period up to 500 was invoiced. -/
def slowRide : List BillingEvent :=
  [.createAccount "acme", .tick 100, .beginPayment] ++ chargedRide 1 200 ++ [.tick 1000] ++
    generation 0 0 500 ++
    [.accrue 0 ⟨"acme", numbered "ride" 0, "pass-1", 300⟩, .commitPayment 0]

def secondCall : List BillingEvent :=
  [.beginGeneration "acme" (some (0, 500)), .lockAdvisory 1, .checkReplay 1]

/-- The invoice of its period does not have the ride, and a second call is answered with it. -/
theorem slow_ride_left_behind :
    ∃ s s', run (BillingState.step defaultConfig) (.init fundedBooks) slowRide = some s ∧
      (∀ p ∈ s.payments, p.ended = true) ∧
      s.invoices.map (fun v => (v.periodStart, v.periodEnd, v.issuedAt, v.amountMinor)) =
        [(0, 500, 1000, 200)] ∧
      run (BillingState.step defaultConfig) s secondCall = some s' ∧
      s'.generations.map (fun g => g.pc) =
        s.invoices.map .committed ++ s.invoices.map (fun v => .done ⟨200, none, none, some v⟩) ∧
      s'.charges.map (fun c => (c.charge.billingAccountID, c.createdAt, c.invoiceID)) =
        [("acme", 100, some firstPayment), ("acme", 100, none)] := by
  have hfirst : ∃ s ∈ run (BillingState.step defaultConfig) (.init fundedBooks) slowRide,
      (∀ p ∈ s.payments, p.ended = true) ∧
      s.invoices.map (fun v => (v.periodStart, v.periodEnd, v.issuedAt, v.amountMinor)) =
        [(0, 500, 1000, 200)] := by
    decide +kernel
  have hsecond : ∀ s ∈ run (BillingState.step defaultConfig) (.init fundedBooks) slowRide,
      ∃ s' ∈ run (BillingState.step defaultConfig) s secondCall,
      s'.generations.map (fun g => g.pc) = s.invoices.map .committed ++
          s.invoices.map (fun v => .done ⟨200, none, none, some v⟩) := by
    decide +kernel
  have hcharges : ∀ s ∈ run (BillingState.step defaultConfig) (.init fundedBooks) slowRide,
      ∀ s' ∈ run (BillingState.step defaultConfig) s secondCall,
      s'.charges.map (fun c => (c.charge.billingAccountID, c.createdAt, c.invoiceID)) =
        [("acme", 100, some firstPayment), ("acme", 100, none)] := by
    decide +kernel
  obtain ⟨s, hs, hended, hinvoices⟩ := hfirst
  obtain ⟨s', hs', hreplay⟩ := hsecond s hs
  exact ⟨s, s', hs, hended, hinvoices, hs', hreplay, hcharges s hs s' hs'⟩

end H2Fleet.Commerce
