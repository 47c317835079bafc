import H2Fleet.Commerce.BillingSteps

/-!
# Charges and invoices

Nothing but the commit of a generation writes `invoice_id`, and it writes it to the rows that its
sweep found without an invoice; the amount and the number on the invoice were computed over the same
rows.
-/

namespace H2Fleet.Commerce

open List Option Function ChargeRow

variable {ID : Type}

/-! ## Amounts -/

lemma amounts_congr {p q : ChargeRow → Bool} {cs : List ChargeRow} (h : ∀ c ∈ cs, p c = q c) :
    amounts p cs = amounts q cs := by
  rw [amounts, filter_congr h, amounts]

variable {f : ChargeRow → ChargeRow}

lemma amounts_map (hf : ∀ c, (f c).charge = c.charge) (p : ChargeRow → Bool) (cs : List ChargeRow) :
    amounts p (cs.map f) = amounts (fun c => p (f c)) cs := by
  rw [amounts, List.filter_map, List.map_map, amounts]
  refine map_congr_left fun c _ => ?_
  simp [hf]

lemma amounts_append (p : ChargeRow → Bool) (cs ds : List ChargeRow) :
    amounts p (cs ++ ds) = amounts p cs ++ amounts p ds := by
  simp [amounts]

lemma amounts_eq_nil {p : ChargeRow → Bool} {cs : List ChargeRow} (h : ∀ c ∈ cs, p c = false) :
    amounts p cs = [] := by
  rw [amounts, map_eq_nil_iff, filter_eq_nil_iff]
  intro c hc
  simp [h c hc]

/-- The amount and number of charges are those of a list of amounts. -/
structure Invoice.Totals (v : Invoice ID) (found : List ℤ) : Prop where
  amount : v.amountMinor = found.sum
  count : v.chargeCount = found.length

/-- What a payment of an invoice leaves alone. -/
def Invoice.Same (v w : Invoice ID) : Prop :=
  w.id = v.id ∧ w.billingAccountID = v.billingAccountID ∧ w.amountMinor = v.amountMinor ∧
    w.chargeCount = v.chargeCount

lemma Invoice.same_pay (id : String) (transferID : ID) (v : Invoice ID) :
    v.Same (v.pay id transferID) := by
  rw [Invoice.pay]
  split_ifs <;> exact ⟨rfl, rfl, rfl, rfl⟩

lemma Invoice.Totals.congr {v w : Invoice ID} {found : List ℤ} (h : v.Totals found)
    (hsame : v.Same w) : w.Totals found :=
  ⟨hsame.2.2.1.trans h.amount, hsame.2.2.2.trans h.count⟩

/-! ## Changes of rows -/

@[simp] lemma ChargeRow.mark_charge (g : Generation ID) (i : ℕ) (c : ChargeRow) :
    (c.mark g i).charge = c.charge := by
  rw [mark]
  split_ifs <;> rfl

@[simp] lemma ChargeRow.mark_invoiceID (g : Generation ID) (i : ℕ) (c : ChargeRow) :
    (c.mark g i).invoiceID = c.invoiceID := by
  rw [mark]
  split_ifs <;> rfl

@[simp] lemma ChargeRow.release_charge (i : ℕ) (c : ChargeRow) :
    (c.release i).charge = c.charge := by
  rw [release]
  split_ifs <;> rfl

@[simp] lemma ChargeRow.release_invoiceID (i : ℕ) (c : ChargeRow) :
    (c.release i).invoiceID = c.invoiceID := by
  rw [release]
  split_ifs <;> rfl

@[simp] lemma ChargeRow.assign_charge (i : ℕ) (id : String) (c : ChargeRow) :
    (c.assign i id).charge = c.charge := by
  rw [assign]
  split_ifs <;> rfl

variable {c : ChargeRow}

lemma ChargeRow.mark_sweptBy {g : Generation ID} {i j : ℕ} (h : (c.mark g i).sweptBy = some j) :
    c.sweptBy = some j ∨ (j = i ∧ g.Finds c) := by
  rw [mark] at h
  split_ifs at h with hfinds
  · exact .inr ⟨(some.inj h).symm, hfinds⟩
  · exact .inl h

lemma ChargeRow.mark_sweptBy_other {g : Generation ID} {i j : ℕ} (hij : j ≠ i) (c : ChargeRow) :
    (c.mark g i).sweptBy = some j ↔ c.sweptBy = some j := by
  constructor
  · intro h
    exact (mark_sweptBy h).resolve_right fun hi => hij hi.1
  · intro h
    rw [mark, if_neg]
    · exact h
    · rintro ⟨-, -, hfree, -⟩
      rw [hfree] at h
      cases h

lemma ChargeRow.release_sweptBy {i j : ℕ} :
    (c.release i).sweptBy = some j ↔ c.sweptBy = some j ∧ j ≠ i := by
  rw [release]
  split_ifs with hi
  · simp [hi, eq_comm]
  · refine ⟨fun h => ⟨h, ?_⟩, fun h => h.1⟩
    rintro rfl
    exact hi h

lemma ChargeRow.assign_sweptBy {i j : ℕ} {id : String} :
    (c.assign i id).sweptBy = some j ↔ c.sweptBy = some j ∧ j ≠ i := by
  rw [assign]
  split_ifs with hi
  · simp [hi, eq_comm]
  · refine ⟨fun h => ⟨h, ?_⟩, fun h => h.1⟩
    rintro rfl
    exact hi h

lemma ChargeRow.assign_invoiceID (i : ℕ) (id : String) (c : ChargeRow) :
    (c.assign i id).invoiceID = if c.sweptBy = some i then some id else c.invoiceID := by
  rw [assign]
  split_ifs <;> rfl

lemma PaymentTx.mem_rows {p : PaymentTx} (h : c ∈ p.rows) :
    p.charge = some c.charge ∧ c.createdAt = p.startedAt ∧ c.invoiceID = none ∧
    c.sweptBy = none := by
  rw [PaymentTx.rows, mem_toList, map_eq_some_iff] at h
  obtain ⟨charge, hcharge, rfl⟩ := h
  exact ⟨hcharge, rfl, rfl, rfl⟩

/-! ## Charges and invoices -/

structure InvoicesOk (cfg : Config ID) (s : BillingState ID) : Prop where
  ids : Exclusive (fun v : Invoice ID => some v.id) s.invoices
  marks : ∀ c ∈ s.charges, ∀ i, c.sweptBy = some i → c.invoiceID = none
  refs : ∀ c ∈ s.charges, ∀ id, c.invoiceID = some id → ∃ v ∈ s.invoices, v.id = id
  drawn : ∀ v ∈ s.invoices, ∃ i g w, s.generations[i]? = some g ∧ g.pc = .committed w ∧
    v.id = cfg.newID i
  inserted : ∀ i g v, s.generations[i]? = some g → g.pc = .inserted v →
    v.id = cfg.newID i ∧ v.status = .issued ∧
    v.Totals (amounts (fun c => c.sweptBy = some i) s.charges)
  totals : ∀ v ∈ s.invoices, v.Totals (amounts (fun c => c.invoiceID = some v.id) s.charges)

section Invariant

variable {cfg : Config ID} {s s' : BillingState ID} {i : ℕ} {g g' : Generation ID}

lemma InvoicesOk.init (b : Books ID) : InvoicesOk cfg (.init b) where
  ids := Exclusive.nil
  marks _ hc := nomatch hc
  refs _ hc := nomatch hc
  drawn _ hv := nomatch hv
  inserted i g v hg := by simp [BillingState.init] at hg
  totals _ hv := nomatch hv

variable (h : InvoicesOk cfg s)
include h

namespace InvoicesOk

lemma fresh (hid : Injective cfg.newID) (hg : s.generations[i]? = some g)
    (hopen : ∀ w, g.pc ≠ .committed w) :
    (∀ v ∈ s.invoices, v.id ≠ cfg.newID i) ∧ ∀ c ∈ s.charges, c.invoiceID ≠ some (cfg.newID i) := by
  have hinvoices : ∀ v ∈ s.invoices, v.id ≠ cfg.newID i := by
    intro v hv heq
    obtain ⟨j, d, w, hd, hpc, hvid⟩ := h.drawn v hv
    obtain rfl := hid (hvid.symm.trans heq)
    cases hg.symm.trans hd
    exact hopen w hpc
  refine ⟨hinvoices, fun c hc heq => ?_⟩
  obtain ⟨v, hv, hvid⟩ := h.refs c hc _ heq
  exact hinvoices v hv hvid

lemma setGeneration (hg : s.generations[i]? = some g) (hopen : ∀ w, g.pc ≠ .committed w)
    (hins : ∀ v, g'.pc = .inserted v → v.id = cfg.newID i ∧ v.status = .issued ∧
      v.Totals (amounts (fun c => c.sweptBy = some i) s.charges)) :
    InvoicesOk cfg (s.setGeneration i g') where
  __ := h
  drawn v hv := by
    obtain ⟨j, d, w, hd, hpc, hvid⟩ := h.drawn v hv
    refine ⟨j, d, w, getElem?_set_other ?_ hd, hpc, hvid⟩
    rintro rfl
    cases hg.symm.trans hd
    exact hopen w hpc
  inserted j d v hd hpc := by
    rcases getElem?_set_cases hd with ⟨rfl, rfl⟩ | ⟨-, hd⟩
    · exact hins v hpc
    · exact h.inserted j d v hd hpc

lemma mapCharges (hcharge : ∀ c, (f c).charge = c.charge)
    (hinvoice : ∀ c, (f c).invoiceID = c.invoiceID)
    (hmarks : ∀ c i, (f c).sweptBy = some i → c.sweptBy = some i ∨ c.invoiceID = none)
    (hins : ∀ i g v, s.generations[i]? = some g → g.pc = .inserted v → ∀ c : ChargeRow,
      (f c).sweptBy = some i ↔ c.sweptBy = some i) :
    InvoicesOk cfg { s with charges := s.charges.map f } where
  __ := h
  marks c hc i hi := by
    obtain ⟨d, hd, rfl⟩ := mem_map.mp hc
    rw [hinvoice]
    rcases hmarks d i hi with hi | hnone
    · exact h.marks d hd i hi
    · exact hnone
  refs c hc id hcid := by
    obtain ⟨d, hd, rfl⟩ := mem_map.mp hc
    rw [hinvoice] at hcid
    exact h.refs d hd id hcid
  inserted i g v hg hpc := by
    obtain ⟨hvid, hstatus, htotals⟩ := h.inserted i g v hg hpc
    refine ⟨hvid, hstatus, ?_⟩
    rw [amounts_map hcharge]
    simp only [hins i g v hg hpc]
    exact htotals
  totals v hv := by
    rw [amounts_map hcharge]
    simp only [hinvoice]
    exact h.totals v hv

lemma sweep (hg : s.generations[i]? = some g) (hpc : g.pc = .rowLocked) :
    InvoicesOk cfg ({ s with charges := s.charges.map (mark g i) }.setGeneration i
      { g with pc := .swept }) := by
  have hcharges : InvoicesOk cfg { s with charges := s.charges.map (mark g i) } := by
    refine h.mapCharges (mark_charge g i) (mark_invoiceID g i) ?_ ?_
    · intro c j hj
      rcases mark_sweptBy hj with hj | ⟨-, hfinds⟩
      · exact .inl hj
      · exact .inr hfinds.2.1
    · intro j d v hd hdpc c
      refine mark_sweptBy_other ?_ c
      rintro rfl
      cases hg.symm.trans hd
      rw [hpc] at hdpc
      cases hdpc
  refine hcharges.setGeneration hg (fun w hw => ?_) nofun
  rw [hpc] at hw
  cases hw

lemma rollBack (hg : s.generations[i]? = some g) (hopen : g.pc.ended = false) :
    InvoicesOk cfg (s.rollBack i g .aborted) := by
  have hgenerations : InvoicesOk cfg (s.setGeneration i { g with pc := .aborted }) := by
    refine h.setGeneration hg (fun w hw => ?_) nofun
    rw [hw] at hopen
    cases hopen
  refine hgenerations.mapCharges (release_charge i) (release_invoiceID i) ?_ ?_
  · intro c j hj
    exact .inl (release_sweptBy.mp hj).1
  · intro j d v hd hpc c
    -- an inserted invoice is one of another generation
    rw [release_sweptBy, and_iff_left]
    rintro rfl
    rcases getElem?_set_cases hd with ⟨-, rfl⟩ | ⟨hne, -⟩
    · cases hpc
    · exact hne rfl

lemma insert (hid : Injective cfg.newID) (hg : s.generations[i]? = some g) (hpc : g.pc = .swept) :
    InvoicesOk cfg (s.setGeneration i { g with pc := .inserted (s.newInvoice cfg i g) }) := by
  have hopen : ∀ w, g.pc ≠ .committed w := by
    intro w hw
    rw [hpc] at hw
    cases hw
  refine h.setGeneration hg hopen ?_
  rintro v hv
  cases hv
  -- what the transaction sees under its id are the rows it has swept
  have hview : amounts (fun c => c.viewedBy i (cfg.newID i) = some (cfg.newID i)) s.charges =
      amounts (fun c => c.sweptBy = some i) s.charges := by
    refine amounts_congr fun c hc => ?_
    have hne := (h.fresh hid hg hopen).2 c hc
    simp only [viewedBy]
    split_ifs with hswept
    · simp [hswept]
    · simp [hne, hswept]
  refine ⟨rfl, rfl, ?_⟩
  rw [← hview]
  exact ⟨rfl, rfl⟩

lemma commit (hid : Injective cfg.newID) {v : Invoice ID}
    (hg : s.generations[i]? = some g) (hpc : g.pc = .inserted v) :
    InvoicesOk cfg ({ s with
      charges := s.charges.map (assign i v.id)
      invoices := s.invoices ++ [v] }.setGeneration i { g with pc := .committed v }) := by
  obtain ⟨hvid, hstatus, htotals⟩ := h.inserted i g v hg hpc
  have hopen : ∀ w, g.pc ≠ .committed w := by
    intro w hw
    rw [hpc] at hw
    cases hw
  obtain ⟨hfresh, hunref⟩ := h.fresh hid hg hopen
  rw [← hvid] at hfresh hunref
  constructor
  · refine h.ids.concat fun id hv w hw hwid => ?_
    exact hfresh w hw ((some.inj hwid).trans (some.inj hv).symm)
  · intro c hc j hj
    obtain ⟨d, hd, rfl⟩ := mem_map.mp hc
    obtain ⟨hj, hne⟩ := assign_sweptBy.mp hj
    rw [assign_invoiceID, if_neg]
    · exact h.marks d hd j hj
    · rw [hj]
      exact fun hji => hne (some.inj hji)
  · intro c hc id hcid
    obtain ⟨d, hd, rfl⟩ := mem_map.mp hc
    rw [assign_invoiceID] at hcid
    split_ifs at hcid with hswept
    · exact ⟨v, mem_append_right _ (mem_singleton.mpr rfl), some.inj hcid⟩
    · obtain ⟨w, hw, hwid⟩ := h.refs d hd id hcid
      exact ⟨w, mem_append_left _ hw, hwid⟩
  · intro w hw
    rw [BillingState.setGeneration, mem_append, mem_singleton] at hw
    rcases hw with hw | rfl
    · obtain ⟨j, d, u, hd, hdpc, hwid⟩ := h.drawn w hw
      refine ⟨j, d, u, getElem?_set_other ?_ hd, hdpc, hwid⟩
      rintro rfl
      cases hg.symm.trans hd
      exact hopen u hdpc
    · refine ⟨i, { g with pc := .committed w }, w, ?_, rfl, hvid⟩
      exact getElem?_set_self (List.getElem?_eq_some_iff.mp hg).1
  · intro j d w hd hdpc
    rcases getElem?_set_cases hd with ⟨-, rfl⟩ | ⟨hne, hd⟩
    · cases hdpc
    · obtain ⟨hwid, hwstatus, hwtotals⟩ := h.inserted j d w hd hdpc
      refine ⟨hwid, hwstatus, ?_⟩
      show w.Totals (amounts _ (s.charges.map (assign i v.id)))
      rw [amounts_map (assign_charge i v.id)]
      simp only [assign_sweptBy, ne_eq, hne, not_false_eq_true, and_true]
      exact hwtotals
  · intro w hw
    show w.Totals (amounts _ (s.charges.map (assign i v.id)))
    rw [amounts_map (assign_charge i v.id)]
    rw [BillingState.setGeneration, mem_append, mem_singleton] at hw
    rcases hw with hw | rfl
    · -- the swept rows had no invoice before and have another one now
      rw [amounts_congr (q := fun c => c.invoiceID = some w.id)]
      · exact h.totals w hw
      · intro c hc
        rw [assign_invoiceID]
        split_ifs with hswept
        · simp [h.marks c hc i hswept, (hfresh w hw).symm]
        · rfl
    · rw [amounts_congr (q := fun c => c.sweptBy = some i)]
      · exact htotals
      · intro c hc
        rw [assign_invoiceID]
        split_ifs with hswept
        · simp [hswept]
        · simp [hunref c hc, hswept]

lemma commitPayment (p : PaymentTx) : InvoicesOk cfg { s with charges := s.charges ++ p.rows } where
  __ := h
  marks := forall_mem_append.mpr ⟨h.marks, fun c hc i _ => (PaymentTx.mem_rows hc).2.2.1⟩
  refs := by
    refine forall_mem_append.mpr ⟨h.refs, fun c hc id hcid => ?_⟩
    rw [(PaymentTx.mem_rows hc).2.2.1] at hcid
    cases hcid
  inserted i g v hg hpc := by
    obtain ⟨hvid, hstatus, htotals⟩ := h.inserted i g v hg hpc
    have hrows : amounts (fun c => c.sweptBy = some i) p.rows = [] :=
      amounts_eq_nil fun c hc => by simp [(PaymentTx.mem_rows hc).2.2.2]
    refine ⟨hvid, hstatus, ?_⟩
    rw [amounts_append, hrows, append_nil]
    exact htotals
  totals v hv := by
    have hrows : amounts (fun c => c.invoiceID = some v.id) p.rows = [] :=
      amounts_eq_nil fun c hc => by simp [(PaymentTx.mem_rows hc).2.2.1]
    rw [amounts_append, hrows, append_nil]
    exact h.totals v hv

lemma pay (id : String) (transferID : ID) :
    InvoicesOk cfg { s with invoices := s.invoices.map (Invoice.pay id transferID) } where
  __ := h
  ids := h.ids.map fun v => congrArg some (v.same_pay id transferID).1
  refs c hc cid hcid := by
    obtain ⟨v, hv, hvid⟩ := h.refs c hc cid hcid
    exact ⟨_, mem_map_of_mem hv, (v.same_pay id transferID).1.trans hvid⟩
  drawn v hv := by
    obtain ⟨w, hw, rfl⟩ := mem_map.mp hv
    rw [(w.same_pay id transferID).1]
    exact h.drawn w hw
  totals v hv := by
    obtain ⟨w, hw, rfl⟩ := mem_map.mp hv
    rw [(w.same_pay id transferID).1]
    exact (h.totals w hw).congr (w.same_pay id transferID)

lemma moves (hid : Injective cfg.newID) {e : BillingEvent} (hmove : Moves cfg s e s') :
    InvoicesOk cfg s' := by
  cases hmove with
  | tick | accounts | beginPayment | accrue | abortPayment | beginSettlement | advanceSettlement
  | post | otherTransfer =>
    exact { h with }
  | commitPayment k p =>
    have hcommit := h.commitPayment p
    exact { hcommit with }
  | beginGeneration g hpc =>
    refine { h with drawn := fun v hv => ?_, inserted := fun i d v hd hdpc => ?_ }
    · obtain ⟨i, d, w, hd, hdpc, hvid⟩ := h.drawn v hv
      exact ⟨i, d, w, getElem?_append_old hd, hdpc, hvid⟩
    · rcases getElem?_append_cases hd with ⟨-, rfl⟩ | hd
      · rcases hpc with hpc | hpc <;> rw [hdpc] at hpc <;> cases hpc
      · exact h.inserted i d v hd hdpc
  | advance i g pc hg hearly hpc hlock =>
    refine h.setGeneration hg (fun w hw => ?_) (fun v hv => ?_)
    · rw [hw] at hearly
      cases hearly
    · have hv : pc = .inserted v := hv
      rcases hpc with hpc | hpc <;> rw [hv] at hpc <;> cases hpc
  | sweep i g _ hg hpc => exact h.sweep hg hpc
  | insert i g hg hpc => exact h.insert hid hg hpc
  | rollBack i g hg hopen => exact h.rollBack hg hopen
  | commitGeneration i g v hg hpc => exact h.commit hid hg hpc
  | commitSettlement j c v id r hc hpc =>
    have hpay := h.pay v.id id
    exact { hpay with }

end InvoicesOk

end Invariant

/-! ## What stays -/

/-- A charge keeps its invoice, and an invoice its id, account and totals. -/
structure Keeps (s s' : BillingState ID) : Prop where
  charges : ∀ (k : ℕ) (c : ChargeRow) (id : String), s.charges[k]? = some c →
    c.invoiceID = some id →
    ∃ d, s'.charges[k]? = some d ∧ d.charge = c.charge ∧ d.invoiceID = some id
  invoices : ∀ v ∈ s.invoices, ∃ w ∈ s'.invoices, v.Same w

section Later

variable {cfg : Config ID} {s s' t : BillingState ID}

lemma Keeps.refl (s : BillingState ID) : Keeps s s :=
  ⟨fun _ c _ hc hid => ⟨c, hc, rfl, hid⟩, fun v hv => ⟨v, hv, rfl, rfl, rfl, rfl⟩⟩

lemma Keeps.trans (h : Keeps s s') (h' : Keeps s' t) : Keeps s t := by
  constructor
  · intro k c id hc hid
    obtain ⟨d, hd, hcharge, hdid⟩ := h.charges k c id hc hid
    obtain ⟨e, he, hcharge', heid⟩ := h'.charges k d id hd hdid
    exact ⟨e, he, hcharge'.trans hcharge, heid⟩
  · intro v hv
    obtain ⟨w, hw, h₁, h₂, h₃, h₄⟩ := h.invoices v hv
    obtain ⟨u, hu, h₁', h₂', h₃', h₄'⟩ := h'.invoices w hw
    exact ⟨u, hu, h₁'.trans h₁, h₂'.trans h₂, h₃'.trans h₃, h₄'.trans h₄⟩

lemma keeps_map (hcharge : ∀ c, (f c).charge = c.charge)
    (hinvoice : ∀ c ∈ s.charges, ∀ id, c.invoiceID = some id → (f c).invoiceID = some id) (k : ℕ)
    (c : ChargeRow) (id : String) (hc : s.charges[k]? = some c) (hid : c.invoiceID = some id) :
    ∃ d, (s.charges.map f)[k]? = some d ∧ d.charge = c.charge ∧ d.invoiceID = some id := by
  refine ⟨f c, ?_, hcharge c, hinvoice c (mem_of_getElem? hc) id hid⟩
  rw [getElem?_map, hc]
  rfl

lemma Keeps.moves (hinvoices : InvoicesOk cfg s) {e : BillingEvent} (hmove : Moves cfg s e s') :
    Keeps s s' := by
  have hself := Keeps.refl s
  cases hmove with
  | tick | accounts | beginPayment | accrue | abortPayment | beginGeneration | advance | insert
  | beginSettlement | advanceSettlement | post | otherTransfer =>
    exact ⟨hself.charges, hself.invoices⟩
  | commitPayment k p =>
    exact ⟨fun m c id hc hid => ⟨c, getElem?_append_old hc, rfl, hid⟩, hself.invoices⟩
  | sweep i g _ hg hpc =>
    refine ⟨keeps_map (mark_charge g i) fun c _ id hid => ?_, hself.invoices⟩
    rw [mark_invoiceID]
    exact hid
  | rollBack i g hg hopen =>
    refine ⟨keeps_map (release_charge i) fun c _ id hid => ?_, hself.invoices⟩
    rw [release_invoiceID]
    exact hid
  | commitGeneration i g v hg hpc =>
    refine ⟨keeps_map (assign_charge i v.id) fun c hc id hid => ?_, fun w hw => ?_⟩
    · rw [assign_invoiceID, if_neg]
      · exact hid
      · -- a swept row has no invoice
        intro hswept
        rw [hinvoices.marks c hc i hswept] at hid
        cases hid
    · exact ⟨w, mem_append_left _ hw, rfl, rfl, rfl, rfl⟩
  | commitSettlement j c v id r hc hpc =>
    exact ⟨hself.charges, fun w hw => ⟨_, mem_map_of_mem hw, w.same_pay v.id id⟩⟩

end Later

end H2Fleet.Commerce
