import H2Fleet.Commerce.Invoices

/-!
# Invoices account for their charges

The ledger knows one transfer of an invoice at most, because its id is made from the invoice's, and
`paid` is written after the ledger has accepted it, by the call that holds the row.
-/

namespace H2Fleet.Commerce

open List Ledger

variable {ID : Type}

/-! ## Payments of invoices -/

/-- The ledger has accepted the transfer of the invoice, from its clearing account. -/
def BillingState.Settled (cfg : Config ID) (s : BillingState ID) (v : Invoice ID) : Prop :=
  ∃ n, s.clearing? v.billingAccountID = some n ∧ (v.request cfg n).transfer ∈ s.books.posted

structure SettlementsOk (cfg : Config ID) (s : BillingState ID) : Prop where
  rows : Exclusive Settlement.rowLock s.settlements
  loaded : ∀ c ∈ s.settlements, ∀ v, c.pc.invoice? = some v → v ∈ s.invoices ∧ v.status = .issued
  settled : ∀ c ∈ s.settlements, ∀ v, c.pc.settled? = some v → s.Settled cfg v
  billing : ∀ t ∈ s.books.posted, t.code = codeBilling →
    ∃ v ∈ s.invoices, ∃ n, s.clearing? v.billingAccountID = some n ∧ t = (v.request cfg n).transfer
  paid : ∀ v ∈ s.invoices, v.status = .paid → s.Settled cfg v
  unique : s.books.UniqueIds

section Settlements

variable {cfg : Config ID} {s s' : BillingState ID} {v w : Invoice ID}

lemma Invoice.Same.request (h : v.Same w) (n : ℕ) : w.request cfg n = v.request cfg n := by
  rw [Invoice.request, h.1, h.2.2.1, Invoice.request]

lemma BillingState.Settled.congr (h : s.Settled cfg v) (hsame : v.Same w) : s.Settled cfg w := by
  obtain ⟨n, hn, hmem⟩ := h
  refine ⟨n, hsame.2.1 ▸ hn, ?_⟩
  rw [hsame.request]
  exact hmem

lemma BillingState.Settled.mono (h : s.Settled cfg v)
    (hclearing : ∀ id n, s.clearing? id = some n → s'.clearing? id = some n)
    (hposted : ∀ t ∈ s.books.posted, t ∈ s'.books.posted) : s'.Settled cfg v := by
  obtain ⟨n, hn, hmem⟩ := h
  exact ⟨n, hclearing _ n hn, hposted _ hmem⟩

lemma BillingState.Settled.moves (h : s.Settled cfg v) {e : BillingEvent}
    (hmove : Moves cfg s e s') : s'.Settled cfg v := by
  cases hmove with
  | accounts as hclearing => exact h.mono hclearing fun _ ht => ht
  | post j c w clearing b pc hc hpc hclearing hunique hkept =>
    exact h.mono (fun _ _ hn => hn) hkept
  | otherTransfer b hunique hkept => exact h.mono (fun _ _ hn => hn) hkept
  | tick | beginPayment | accrue | commitPayment | abortPayment | beginGeneration | advance | sweep
  | insert | rollBack | commitGeneration | beginSettlement | advanceSettlement | commitSettlement =>
    exact h

lemma SettlementsOk.init {b : Books ID} (hunique : b.UniqueIds)
    (hb : ∀ t ∈ b.posted, t.code ≠ codeBilling) : SettlementsOk cfg (.init b) where
  rows := Exclusive.nil
  loaded _ hc := nomatch hc
  settled _ hc := nomatch hc
  billing t ht hcode := absurd hcode (hb t ht)
  paid _ hv := nomatch hv
  unique := hunique

variable {c : Settlement ID} {pc : SettlePc ID} {j : ℕ}

variable (h : SettlementsOk cfg s)
include h

namespace SettlementsOk

lemma rows_set (hc : s.settlements[j]? = some c)
    (hpc : ∀ v, pc.invoice? = some v → c.pc.invoice? = some v ∨
      ∀ d ∈ s.settlements, d.rowLock ≠ some v.id) :
    Exclusive Settlement.rowLock (s.settlements.set j { c with pc := pc }) := by
  refine h.rows.set hc fun id hlock => ?_
  obtain ⟨v, hv, rfl⟩ := Option.map_eq_some_iff.mp hlock
  rcases hpc v hv with hold | hfree
  · exact .inl (Option.map_eq_some_iff.mpr ⟨v, hold, rfl⟩)
  · exact .inr hfree

lemma advance (hc : s.settlements[j]? = some c)
    (hinvoice : ∀ v, pc.invoice? = some v → c.pc.invoice? = some v ∨
      (v ∈ s.invoices ∧ v.status = .issued ∧ ∀ d ∈ s.settlements, d.rowLock ≠ some v.id))
    (hsettled : ∀ v, pc.settled? = some v → c.pc.settled? = some v) :
    SettlementsOk cfg (s.setSettlement j { c with pc := pc }) where
  __ := h
  rows := h.rows_set hc fun v hv => (hinvoice v hv).imp_right fun hfree => hfree.2.2
  loaded := by
    refine forall_mem_set h.loaded fun v hv => ?_
    rcases hinvoice v hv with hold | ⟨hmem, hissued, -⟩
    · exact h.loaded c (mem_of_getElem? hc) v hold
    · exact ⟨hmem, hissued⟩
  settled := forall_mem_set h.settled fun v hv =>
    h.settled c (mem_of_getElem? hc) v (hsettled v hv)

lemma post (hc : s.settlements[j]? = some c) (hpc : c.pc = .loaded v) {clearing : ℕ}
    (hclearing : s.clearing? v.billingAccountID = some clearing) {b : Books ID}
    (hunique : s.books.UniqueIds → b.UniqueIds) (hkept : ∀ t ∈ s.books.posted, t ∈ b.posted)
    (hposted : ∀ t ∈ b.posted, t ∈ s.books.posted ∨ t = (v.request cfg clearing).transfer)
    (hinvoice : ∀ w, pc.invoice? = some w → w = v)
    (hsettled : ∀ w, pc.settled? = some w → w = v ∧ (v.request cfg clearing).transfer ∈ b.posted) :
    SettlementsOk cfg ({ s with books := b }.setSettlement j { c with pc := pc }) := by
  have hold : c.pc.invoice? = some v := by rw [hpc]; rfl
  have hv := h.loaded c (mem_of_getElem? hc) v hold
  have hmono : ∀ w : Invoice ID, s.Settled cfg w →
      BillingState.Settled cfg ({ s with books := b }.setSettlement j { c with pc := pc }) w :=
    fun w hw => hw.mono (fun _ _ hn => hn) hkept
  constructor
  · exact h.rows_set hc fun w hw => .inl (hinvoice w hw ▸ hold)
  · exact forall_mem_set h.loaded fun w hw => hinvoice w hw ▸ hv
  · refine forall_mem_set (fun d hd w hw => hmono w (h.settled d hd w hw)) fun w hw => ?_
    obtain ⟨rfl, hmem⟩ := hsettled w hw
    exact ⟨clearing, hclearing, hmem⟩
  · intro t ht hcode
    rcases hposted t ht with ht | rfl
    · exact h.billing t ht hcode
    · exact ⟨v, hv.1, clearing, hclearing, rfl⟩
  · intro w hw hpaid
    exact hmono w (h.paid w hw hpaid)
  · exact hunique h.unique

lemma commit (hids : Exclusive (fun v : Invoice ID => some v.id) s.invoices)
    (hc : s.settlements[j]? = some c) {id : ID} (hpc : c.pc = .updated v id)
    (r : InvoiceResponse ID) :
    SettlementsOk cfg ({ s with invoices := s.invoices.map (Invoice.pay v.id id) }.setSettlement j
      { c with pc := .done r }) := by
  have hheld : c.pc.invoice? = some v := by rw [hpc]; rfl
  have hv := (h.loaded c (mem_of_getElem? hc) v hheld).1
  have hsettled := h.settled c (mem_of_getElem? hc) v (by rw [hpc]; rfl)
  constructor
  · exact h.rows_set hc fun w hw => (nomatch hw)
  · intro d hd w hw
    obtain ⟨m, hm⟩ := mem_iff_getElem?.mp hd
    rcases getElem?_set_cases hm with ⟨-, rfl⟩ | ⟨hne, hm⟩
    · cases hw
    · obtain ⟨hmem, hissued⟩ := h.loaded d (mem_of_getElem? hm) w hw
      have hother : w.id ≠ v.id := by
        intro heq
        refine hne (h.rows m j d c v.id hm hc ?_ ?_)
        · exact Option.map_eq_some_iff.mpr ⟨w, hw, heq⟩
        · exact Option.map_eq_some_iff.mpr ⟨v, hheld, rfl⟩
      refine ⟨mem_map.mpr ⟨w, hmem, ?_⟩, hissued⟩
      rw [Invoice.pay, if_neg fun hhit => hother hhit.1]
  · refine forall_mem_set h.settled fun w hw => ?_
    cases hw
  · intro t ht hcode
    obtain ⟨w, hw, n, hn, rfl⟩ := h.billing t ht hcode
    have hsame := w.same_pay v.id id
    exact ⟨_, mem_map_of_mem hw, n, hsame.2.1 ▸ hn, by rw [hsame.request]⟩
  · intro w hw hpaid
    obtain ⟨u, hu, rfl⟩ := mem_map.mp hw
    by_cases hhit : u.id = v.id ∧ u.status = .issued
    · obtain rfl : u = v := hids.eq hu hv (congrArg some hhit.1) rfl
      exact BillingState.Settled.congr hsettled (u.same_pay u.id id)
    · rw [Invoice.pay, if_neg hhit] at hpaid ⊢
      exact h.paid u hu hpaid
  · exact h.unique

lemma moves (hinvoices : InvoicesOk cfg s) {e : BillingEvent}
    (hmove : Moves cfg s e s') : SettlementsOk cfg s' := by
  cases hmove with
  | tick | beginPayment | accrue | commitPayment | abortPayment | beginGeneration | advance | sweep
  | insert | rollBack =>
    exact { h with }
  | accounts as hclearing =>
    refine ⟨h.rows, h.loaded, fun c hc v hv => ?_, fun t ht hcode => ?_, fun v hv hpaid => ?_,
      h.unique⟩
    · exact (h.settled c hc v hv).mono hclearing fun _ ht => ht
    · obtain ⟨v, hv, n, hn, rfl⟩ := h.billing t ht hcode
      exact ⟨v, hv, n, hclearing _ n hn, rfl⟩
    · exact (h.paid v hv hpaid).mono hclearing fun _ ht => ht
  | commitGeneration i g v hg hpc =>
    have hissued := (hinvoices.inserted i g v hg hpc).2.1
    refine ⟨h.rows, fun c hc w hw => ?_, h.settled, fun t ht hcode => ?_, fun w hw hpaid => ?_,
      h.unique⟩
    · obtain ⟨hmem, hstatus⟩ := h.loaded c hc w hw
      exact ⟨mem_append_left _ hmem, hstatus⟩
    · obtain ⟨w, hw, hrest⟩ := h.billing t ht hcode
      exact ⟨w, mem_append_left _ hw, hrest⟩
    · rcases mem_append.mp hw with hw | hw
      · exact h.paid w hw hpaid
      · rw [mem_singleton.mp hw, hissued] at hpaid
        cases hpaid
  | beginSettlement id =>
    exact ⟨h.rows.concat fun k hk => (nomatch hk), forall_mem_concat h.loaded fun w hw =>
      (nomatch hw),
      forall_mem_concat h.settled fun w hw => (nomatch hw), h.billing, h.paid, h.unique⟩
  | advanceSettlement j c pc hc hinvoice hsettled => exact h.advance hc hinvoice hsettled
  | post j c v clearing b pc hc hpc hclearing hunique hkept hposted hinvoice hsettled =>
    exact h.post hc hpc hclearing hunique hkept hposted hinvoice hsettled
  | commitSettlement j c v id r hc hpc => exact h.commit hinvoices.ids hc hpc r
  | otherTransfer b hunique hkept hposted =>
    refine ⟨h.rows, h.loaded, fun c hc v hv => ?_, fun t ht hcode => ?_, fun v hv hpaid => ?_,
      hunique h.unique⟩
    · exact (h.settled c hc v hv).mono (fun _ _ hn => hn) hkept
    · exact h.billing t ((hposted t ht).resolve_right fun hne => hne hcode) hcode
    · exact (h.paid v hv hpaid).mono (fun _ _ hn => hn) hkept

end SettlementsOk

omit h

end Settlements

/-! ## Every interleaving -/

section Runs

variable [DecidableEq ID] {cfg : Config ID}

def BillingState.transfersOf (cfg : Config ID) (s : BillingState ID) (v : Invoice ID) :
    List (Transfer ID) :=
  s.books.posted.filter fun t =>
    t.id = cfg.tid (invoiceKey v.id) ∧ t.code = codeBilling

lemma SettlementsOk.transfersOf {s : BillingState ID} (h : SettlementsOk cfg s)
    (hsha : Function.Injective cfg.sha16) (hinvoices : InvoicesOk cfg s) {v : Invoice ID}
    (hv : v ∈ s.invoices) : s.transfersOf cfg v = [] ∨ s.Settled cfg v := by
  by_cases hnone : ∃ t ∈ s.books.posted, t.id = cfg.tid (invoiceKey v.id) ∧ t.code = codeBilling
  · obtain ⟨t, ht, hid, hcode⟩ := hnone
    obtain ⟨w, hw, n, hn, rfl⟩ := h.billing t ht hcode
    have hkey : invoiceKey w.id = invoiceKey v.id :=
      (deterministicTransferID_inj hsha).mp hid
    have hwid : w.id = v.id := (String.append_right_inj _).mp hkey
    obtain rfl : w = v := hinvoices.ids.eq hw hv (congrArg some hwid) rfl
    exact .inr ⟨n, hn, ht⟩
  · refine .inl (filter_eq_nil_iff.mpr fun t ht hp => hnone ⟨t, ht, ?_⟩)
    simpa using hp

/-- **Invoices account for their charges**, in any state and any later one: a charge keeps its
invoice, the charges of an invoice have its amount and number, and the ledger has accepted no
transfer of it or the one of its amount, which it has if it is paid. -/
theorem invoices_account_for_charges (hsha : Function.Injective cfg.sha16)
    (hid : Function.Injective cfg.newID) {b : Books ID} (hunique : b.UniqueIds)
    (hb : ∀ t ∈ b.posted, t.code ≠ codeBilling) {es es' : List BillingEvent}
    {s s' : BillingState ID} (hrun : run (BillingState.step cfg) (.init b) es = some s)
    (hrun' : run (BillingState.step cfg) s es' = some s') :
    (∀ (k : ℕ) (c : ChargeRow) (id : String), s.charges[k]? = some c → c.invoiceID = some id →
      (∃ v ∈ s.invoices, v.id = id) ∧
        ∃ d, s'.charges[k]? = some d ∧ d.charge = c.charge ∧ d.invoiceID = some id) ∧
    (∀ v ∈ s.invoices, ∀ w ∈ s.invoices, v.id = w.id → v = w) ∧
    ∀ v ∈ s.invoices, v.Totals (amounts (fun c => c.invoiceID = some v.id) s'.charges) ∧
      (s'.transfersOf cfg v = [] ∨ ∃ n, s'.clearing? v.billingAccountID = some n ∧
        s'.transfersOf cfg v = [(v.request cfg n).transfer]) ∧
      (v.status = .paid → ∃ n, s'.clearing? v.billingAccountID = some n ∧
        s'.transfersOf cfg v = [(v.request cfg n).transfer]) := by
  have hstep :=
    fun s e s' (h : InvoicesOk cfg s ∧ SettlementsOk cfg s) (he : s.step cfg e = some s') =>
    And.intro (h.1.moves hid (moves_of_step he)) (h.2.moves h.1 (moves_of_step he))
  have hs := run_invariant_always hstep ⟨.init b, .init hunique hb⟩ hrun
  obtain ⟨⟨hinvoices', hsettlements'⟩, hkeeps⟩ := run_invariant_always
    (fun t e t' (h : (InvoicesOk cfg t ∧ SettlementsOk cfg t) ∧ Keeps s t) he =>
      ⟨hstep t e t' h.1 he, h.2.trans (Keeps.moves h.1.1 (moves_of_step he))⟩) ⟨hs, .refl s⟩ hrun'
  refine ⟨fun k c id hc hcid => ⟨?_, hkeeps.charges k c id hc hcid⟩, fun v hv w hw hvw => ?_,
    fun v hv => ?_⟩
  · exact hs.1.refs c (mem_of_getElem? hc) id hcid
  · exact hs.1.ids.eq hv hw (congrArg some hvw) rfl
  · -- the row of the invoice in the later state
    obtain ⟨w, hw, hsame⟩ := hkeeps.invoices v hv
    have hsettled : s'.Settled cfg v → ∃ n, s'.clearing? v.billingAccountID = some n ∧
        s'.transfersOf cfg v = [(v.request cfg n).transfer] := by
      rintro ⟨n, hn, hmem⟩
      refine ⟨n, hn, hsettlements'.unique.filter_eq hmem ?_ ?_⟩
      · simp [Invoice.request, LedgerOp.request, Request.transfer, transferFor]
      · intro u _ hu
        simp only [decide_eq_true_eq] at hu
        exact hu.1
    have hsymm : w.Same v := ⟨hsame.1.symm, hsame.2.1.symm, hsame.2.2.1.symm, hsame.2.2.2.symm⟩
    refine ⟨?_, ?_, fun hpaid => ?_⟩
    · rw [← hsame.1]
      exact (hinvoices'.totals w hw).congr hsymm
    · refine (hsettlements'.transfersOf hsha hinvoices' hw).imp (fun hnil => ?_) fun hw' => ?_
      · rw [BillingState.transfersOf, ← hsame.1]
        exact hnil
      · exact hsettled (hw'.congr hsymm)
    · exact hsettled
        (run_invariant_always (fun (t : BillingState ID) e t' (h : t.Settled cfg v) he =>
        h.moves (moves_of_step he))
        (hs.2.paid v hv hpaid) hrun')

end Runs

/-! ## One invoice -/

/-- A clearing account with 900, and the revenue account under the billing code: under the fare code
of `New` no invoice can be paid. -/
def fundedBooks : Books String where
  accounts :=
    [accountFor operatorRevenueAccount codeBilling,
      accountFor riderFundingAccount codeFare,
      accountFor 5001 codeBilling]
  posted := [transferFor "x" riderFundingAccount 5001 900 codeFare]

def chargedRide (k : ℕ) (amount : ℤ) : List BillingEvent :=
  [.beginPayment, .accrue k ⟨"acme", numbered "ride" k, "pass-1", amount⟩, .commitPayment k]

/-- A generation for a period, from its first statement to its commit. -/
def generation (i : ℕ) (start stop : ℤ) : List BillingEvent :=
  [.beginGeneration "acme" (some (start, stop)), .lockAdvisory i, .checkReplay i, .lockAccount i,
    .sweep i, .insert i, .commitGeneration i]

def invoicedRides : List BillingEvent :=
  [.createAccount "acme", .tick 100] ++ chargedRide 0 300 ++ chargedRide 1 200 ++ [.tick 1000] ++
    generation 0 0 500 ++
    [.beginSettlement firstPayment, .load 0, .transfer 0 (answered .created), .update 0,
      .commitSettlement 0]

theorem invoices_account_for_charges_paid :
    ∃ s s', run (BillingState.step defaultConfig) (.init fundedBooks) invoicedRides = some s ∧
      run (BillingState.step defaultConfig) s (chargedRide 2 50) = some s' ∧
      s.invoices.map (fun v => (v.id, v.amountMinor, v.chargeCount, v.status)) =
        [(firstPayment, 500, 2, .paid)] ∧
      ∀ v ∈ s.invoices, v.Totals (amounts (fun c => c.invoiceID = some v.id) s'.charges) ∧
        (s'.transfersOf defaultConfig v = [] ∨ ∃ n, s'.clearing? v.billingAccountID = some n ∧
            s'.transfersOf defaultConfig v = [(v.request defaultConfig n).transfer]) ∧
        (v.status = .paid → ∃ n, s'.clearing? v.billingAccountID = some n ∧
          s'.transfersOf defaultConfig v = [(v.request defaultConfig n).transfer]) := by
  obtain ⟨s, hs, hv, s', hs', -⟩ :
      ∃ s, run (BillingState.step defaultConfig) (.init fundedBooks) invoicedRides = some s ∧
        s.invoices.map (fun v => (v.id, v.amountMinor, v.chargeCount, v.status)) =
          [(firstPayment, 500, 2, .paid)] ∧
        ∃ s', run (BillingState.step defaultConfig) s (chargedRide 2 50) = some s' ∧ True := by
    decide +kernel
  refine ⟨s, s', hs, hs', hv, (invoices_account_for_charges defaultConfig_sha16_injective
    defaultConfig_newID_injective ?_ ?_ hs hs').2.2⟩
  · show (fundedBooks.posted.map Transfer.id).Nodup
    decide
  · decide

end H2Fleet.Commerce
