import H2Fleet.Commerce.Billing

/-!
# What a billing step can do

`Moves cfg s e s'` lists, once and for all invariants, what one step does to the tables, with the
guards that the invariants need.
-/

namespace H2Fleet.Commerce

open List Option

variable {ID : Type}

def PaymentTx.MayCharge (p : PaymentTx) (account : String) : Prop :=
  p.ended = false ∧ ∀ c, p.charge = some c → c.billingAccountID = account

/-- The invoice whose transfer the ledger has accepted for the call. -/
def SettlePc.settled? : SettlePc ID → Option (Invoice ID)
  | .posted v _ | .updated v _ => some v
  | .begun | .loaded _ | .done _ | .aborted => none

/-- The transaction has not swept and is not through. -/
def GenPc.early : GenPc ID → Bool
  | .begun | .locked | .checked | .rowLocked => true
  | _ => false

/-- The transaction is over and has committed nothing. -/
def GenPc.void : GenPc ID → Bool
  | .done _ | .aborted => true
  | _ => false

inductive Moves (cfg : Config ID) (s : BillingState ID) (e : BillingEvent) :
    BillingState ID → Prop where
  | tick (now : ℤ) : s.clock ≤ now → Moves cfg s e { s with clock := now }
  | accounts (as : List BillingAccount) : (∀ id n, s.clearing? id = some n →
        ({ s with accounts := as } : BillingState ID).clearing? id = some n) →
      Moves cfg s e { s with accounts := as }
  | beginPayment : Moves cfg s e { s with payments := s.payments ++ [⟨s.clock, none, false⟩] }
  | accrue (k : ℕ) (p : PaymentTx) (charge : BillingCharge) : s.payments[k]? = some p →
      p.ended = false → p.charge = none →
      (∀ g ∈ s.generations, g.rowLock ≠ some charge.billingAccountID) →
      Moves cfg s e (s.setPaymentTx k { p with charge := some charge })
  | commitPayment (k : ℕ) (p : PaymentTx) : s.payments[k]? = some p → p.ended = false →
      Moves cfg s e
      ({ s with charges := s.charges ++ p.rows }.setPaymentTx k { p with ended := true })
  | abortPayment (k : ℕ) (p : PaymentTx) : s.payments[k]? = some p →
      Moves cfg s e (s.setPaymentTx k { p with ended := true })
  | beginGeneration (g : Generation ID) : g.pc = .begun ∨ g.pc.void = true →
      g.startedAt = s.clock → Moves cfg s e { s with generations := s.generations ++ [g] }
  | advance (i : ℕ) (g : Generation ID) (pc : GenPc ID) : s.generations[i]? = some g →
      g.pc.early = true → pc.early = true ∨ pc.void = true →
      (pc = .rowLocked → (∀ d ∈ s.generations, d.rowLock ≠ some g.accountID) ∧
        ∀ p ∈ s.payments, p.keyShare ≠ some g.accountID) →
      Moves cfg s e (s.setGeneration i { g with pc := pc })
  | sweep (i : ℕ) (g : Generation ID) : e = .sweep i → s.generations[i]? = some g →
      g.pc = .rowLocked →
      Moves cfg s e ({ s with charges := s.charges.map (ChargeRow.mark g i) }.setGeneration i
        { g with pc := .swept })
  | insert (i : ℕ) (g : Generation ID) : s.generations[i]? = some g → g.pc = .swept →
      Moves cfg s e (s.setGeneration i { g with pc := .inserted (s.newInvoice cfg i g) })
  | rollBack (i : ℕ) (g : Generation ID) : s.generations[i]? = some g → g.pc.ended = false →
      Moves cfg s e (s.rollBack i g .aborted)
  | commitGeneration (i : ℕ) (g : Generation ID) (v : Invoice ID) : s.generations[i]? = some g →
      g.pc = .inserted v →
      Moves cfg s e ({ s with
        charges := s.charges.map (ChargeRow.assign i v.id)
        invoices := s.invoices ++ [v] }.setGeneration i { g with pc := .committed v })
  | beginSettlement (id : String) :
      Moves cfg s e { s with settlements := s.settlements ++ [⟨id, .begun⟩] }
  | advanceSettlement (j : ℕ) (c : Settlement ID) (pc : SettlePc ID) : s.settlements[j]? = some c →
      (∀ v, pc.invoice? = some v → c.pc.invoice? = some v ∨
        (v ∈ s.invoices ∧ v.status = .issued ∧ ∀ d ∈ s.settlements, d.rowLock ≠ some v.id)) →
      (∀ v, pc.settled? = some v → c.pc.settled? = some v) →
      Moves cfg s e (s.setSettlement j { c with pc := pc })
  | post (j : ℕ) (c : Settlement ID) (v : Invoice ID) (clearing : ℕ) (b : Books ID)
      (pc : SettlePc ID) : s.settlements[j]? = some c → c.pc = .loaded v →
      s.clearing? v.billingAccountID = some clearing →
      (s.books.UniqueIds → b.UniqueIds) →
      (∀ t ∈ s.books.posted, t ∈ b.posted) →
      (∀ t ∈ b.posted, t ∈ s.books.posted ∨ t = (v.request cfg clearing).transfer) →
      (∀ w, pc.invoice? = some w → w = v) →
      (∀ w, pc.settled? = some w → w = v ∧ (v.request cfg clearing).transfer ∈ b.posted) →
      Moves cfg s e ({ s with books := b }.setSettlement j { c with pc := pc })
  | commitSettlement (j : ℕ) (c : Settlement ID) (v : Invoice ID) (id : ID)
      (r : InvoiceResponse ID) : s.settlements[j]? = some c → c.pc = .updated v id →
      Moves cfg s e ({ s with invoices := s.invoices.map (Invoice.pay v.id id) }.setSettlement j
        { c with pc := .done r })
  | otherTransfer (b : Books ID) : (s.books.UniqueIds → b.UniqueIds) →
      (∀ t ∈ s.books.posted, t ∈ b.posted) →
      (∀ t ∈ b.posted, t ∈ s.books.posted ∨ t.code ≠ Ledger.codeBilling) →
      Moves cfg s e { s with books := b }

variable {cfg : Config ID} {s s' : BillingState ID} {e : BillingEvent} {i j k : ℕ}

/-! ## Accounts and payments -/

lemma moves_createAccount {id : String} (h : s.createAccount id = some s') : Moves cfg s e s' := by
  rw [BillingState.createAccount] at h
  obtain ⟨-, ⟨⟩⟩ := ite_none_left_eq_some.mp h
  refine .accounts _ fun id' n hn => ?_
  -- an account that is found is found before the new one
  obtain ⟨a, ha, rfl⟩ := map_eq_some_iff.mp hn
  rw [BillingState.account?] at ha
  simp [BillingState.clearing?, BillingState.account?, find?_append, ha]

lemma moves_setStatus (id status : String) :
    Moves cfg s e { s with accounts := s.accounts.map (BillingAccount.withStatus id status) } := by
  have hid : ∀ a : BillingAccount, (a.withStatus id status).id = a.id ∧
      (a.withStatus id status).ledgerAccountID = a.ledgerAccountID := by
    intro a
    rw [BillingAccount.withStatus]
    split_ifs <;> exact ⟨rfl, rfl⟩
  refine .accounts _ fun id' n hn => ?_
  obtain ⟨a, ha, rfl⟩ := map_eq_some_iff.mp hn
  rw [BillingState.account?] at ha
  have hfind : (s.accounts.map (BillingAccount.withStatus id status)).find?
      (fun a => a.id = id') = some (a.withStatus id status) := by
    rw [find?_map]
    simp [hid, ha]
  simp [BillingState.clearing?, BillingState.account?, hfind, hid]

/-! ## Generations -/

lemma moves_lockAdvisory (h : s.lockAdvisory cfg i = some s') : Moves cfg s e s' := by
  obtain ⟨g, hg, h⟩ := bind_eq_some_iff.mp h
  split at h
  · rename_i hpc
    obtain ⟨-, ⟨⟩⟩ := ite_none_right_eq_some.mp h
    exact .advance i g _ hg (by rw [hpc]; rfl) (.inl rfl) nofun
  · cases h

lemma moves_checkReplay (h : s.checkReplay i = some s') : Moves cfg s e s' := by
  obtain ⟨g, hg, h⟩ := bind_eq_some_iff.mp h
  split at h
  · rename_i hpc
    have hearly : g.pc.early = true := by rw [hpc]; rfl
    split at h
    · cases h
      exact .advance i g _ hg hearly (.inr rfl) nofun
    · cases h
      exact .advance i g _ hg hearly (.inl rfl) nofun
  · cases h

lemma moves_lockAccount (h : s.lockAccount i = some s') : Moves cfg s e s' := by
  obtain ⟨g, hg, h⟩ := bind_eq_some_iff.mp h
  split at h
  · rename_i hpc
    have hearly : g.pc.early = true := by rw [hpc]; rfl
    split at h
    · cases h
      exact .advance i g _ hg hearly (.inr rfl) nofun
    · obtain ⟨hfree, h⟩ := ite_none_left_eq_some.mp h
      split_ifs at h
      · cases h
        exact .advance i g _ hg hearly (.inr rfl) nofun
      · cases h
        refine .advance i g _ hg hearly (.inl rfl) fun _ =>
          ⟨fun d hd hlock => ?_, fun p hp hkey => ?_⟩
        · exact hfree (.inl ⟨d, hd, hlock⟩)
        · exact hfree (.inr ⟨p, hp, hkey⟩)
  · cases h

lemma moves_sweep (h : s.sweep i = some s') : Moves cfg s (.sweep i) s' := by
  obtain ⟨g, hg, h⟩ := bind_eq_some_iff.mp h
  split at h
  · rename_i hpc
    split_ifs at h
    · cases h
      exact .sweep i g rfl hg hpc
    · cases h
      exact .advance i g _ hg (by rw [hpc]; rfl) (.inr rfl) nofun
  · cases h

lemma moves_insertInvoice (h : s.insertInvoice cfg i = some s') : Moves cfg s e s' := by
  obtain ⟨g, hg, h⟩ := bind_eq_some_iff.mp h
  split at h
  · rename_i hpc
    simp only at h
    split_ifs at h
    · cases h
      exact .rollBack i g hg (by rw [hpc]; rfl)
    · cases h
      exact .insert i g hg hpc
  · cases h

lemma moves_commitGeneration (h : s.commitGeneration i = some s') : Moves cfg s e s' := by
  obtain ⟨g, hg, h⟩ := bind_eq_some_iff.mp h
  split at h
  · rename_i v hpc
    cases h
    exact .commitGeneration i g v hg hpc
  · cases h

/-! ## Settlements -/

lemma moves_load (h : s.load j = some s') : Moves cfg s e s' := by
  obtain ⟨c, hc, h⟩ := bind_eq_some_iff.mp h
  split at h
  · obtain ⟨hfree, ⟨⟩⟩ := ite_none_left_eq_some.mp h
    refine .advanceSettlement j c _ hc (fun v hv => ?_) (fun v hv => ?_)
    · -- the only place with an invoice is `loaded`
      refine .inr ?_
      cases hfind : s.invoices.find? fun v => v.id = c.invoiceID with
      | none => simp [hfind, SettlePc.invoice?] at hv
      | some w =>
        cases hstatus : w.status with
        | issued =>
          obtain rfl : w = v := by simpa [hfind, hstatus, SettlePc.invoice?] using hv
          have hid : w.id = c.invoiceID := by simpa using find?_some hfind
          refine ⟨mem_of_find?_eq_some hfind, hstatus, fun d hd hlock => ?_⟩
          exact hfree ⟨d, hd, hid ▸ hlock⟩
        | paid | void => simp [hfind, hstatus, SettlePc.invoice?] at hv
    · cases hfind : s.invoices.find? fun v => v.id = c.invoiceID with
      | none => simp [hfind, SettlePc.settled?] at hv
      | some w => cases hstatus : w.status <;> simp [hfind, hstatus, SettlePc.settled?] at hv
  · cases h

lemma moves_update (h : s.update j = some s') : Moves cfg s e s' := by
  obtain ⟨c, hc, h⟩ := bind_eq_some_iff.mp h
  split at h
  · rename_i v id hpc
    split_ifs at h
    · cases h
      refine .advanceSettlement j c _ hc (fun w hw => .inl ?_) (fun w hw => ?_)
      · rw [hpc]
        exact hw
      · rw [hpc]
        exact hw
    · cases h
      exact .advanceSettlement j c _ hc nofun nofun
  · cases h

lemma moves_commitSettlement (h : s.commitSettlement j = some s') : Moves cfg s e s' := by
  obtain ⟨c, hc, h⟩ := bind_eq_some_iff.mp h
  split at h
  · rename_i v id hpc
    cases h
    exact .commitSettlement j c v id _ hc hpc
  · cases h

/-! ## Ledger calls -/

section Posting

variable [DecidableEq ID] {r : Ledger.Replies}

lemma request_posted {b b' : Books ID} {q : Ledger.Request ID} {res : Except Ledger.LedgerError ID}
    (h : Ledger.transfer b q.id q.debit q.credit q.amount q.code r = some (b', res)) :
    (b.UniqueIds → b'.UniqueIds) ∧ (∀ t ∈ b.posted, t ∈ b'.posted) ∧
      (∀ t ∈ b'.posted, t ∈ b.posted ∨ t = q.transfer) ∧
      (∀ id, res = .ok id → q.transfer ∈ b'.posted) := by
  have hspec := Ledger.transfer_spec h
  refine ⟨hspec.uniqueIds, ?_, ?_, ?_⟩
  · intro t ht
    rcases hspec.after_cases with hafter | ⟨-, -, hafter⟩
    · exact hafter ▸ ht
    · exact hafter ▸ mem_append_left _ ht
  · intro t ht
    rcases hspec.after_cases with hafter | ⟨-, -, hafter⟩
    · exact .inl (hafter ▸ ht)
    · rw [hafter, mem_append, mem_singleton] at ht
      exact ht
  · rintro id rfl
    cases hspec with
    | posted _ _ hafter => exact hafter ▸ mem_append_right _ (mem_singleton.mpr rfl)
    | repeated hmem hafter => exact hafter ▸ hmem

lemma moves_settle (h : s.settle cfg j r = some s') : Moves cfg s e s' := by
  obtain ⟨c, hc, h⟩ := bind_eq_some_iff.mp h
  split at h
  · rename_i v hpc
    split at h
    · cases h
      exact .advanceSettlement j c _ hc nofun nofun
    · rename_i clearing hclearing
      obtain ⟨⟨b, res⟩, hcall, rfl⟩ := map_eq_some_iff.mp h
      obtain ⟨hunique, hkept, hposted, hok⟩ := request_posted hcall
      refine .post j c v clearing b _ hc hpc hclearing hunique hkept hposted ?_ ?_
      · intro w hw
        cases res with
        | ok id => exact (some.inj hw).symm
        | error e =>
          simp only [settleResult] at hw
          split_ifs at hw <;> cases hw
      · intro w hw
        cases res with
        | ok id => exact ⟨(some.inj hw).symm, hok id rfl⟩
        | error e =>
          simp only [settleResult] at hw
          split_ifs at hw <;> cases hw
  · cases h

lemma moves_of_step (h : s.step cfg e = some s') : Moves cfg s e s' := by
  cases e with
  | tick now =>
    obtain ⟨hnow, ⟨⟩⟩ := ite_none_right_eq_some.mp h
    exact .tick now hnow
  | createAccount id => exact moves_createAccount h
  | setStatus id status =>
    cases h
    exact moves_setStatus id status
  | beginPayment =>
    cases h
    exact .beginPayment
  | accrue k charge =>
    obtain ⟨p, hp, h⟩ := bind_eq_some_iff.mp h
    obtain ⟨⟨hopen, hnone, -, -, hfree⟩, ⟨⟩⟩ := ite_none_right_eq_some.mp h
    exact .accrue k p charge hp hopen hnone hfree
  | commitPayment k =>
    obtain ⟨p, hp, h⟩ := bind_eq_some_iff.mp h
    obtain ⟨hopen, ⟨⟩⟩ := ite_none_left_eq_some.mp h
    exact .commitPayment k p hp (Bool.eq_false_iff.mpr hopen)
  | abortPayment k =>
    obtain ⟨p, hp, h⟩ := bind_eq_some_iff.mp h
    obtain ⟨-, ⟨⟩⟩ := ite_none_left_eq_some.mp h
    exact .abortPayment k p hp
  | beginGeneration accountID period =>
    cases h
    refine .beginGeneration _ ?_ rfl
    cases period with
    | none => exact .inr rfl
    | some bounds =>
      simp only [checkPeriod]
      split_ifs
      · exact .inr rfl
      · exact .inl rfl
  | lockAdvisory i => exact moves_lockAdvisory h
  | checkReplay i => exact moves_checkReplay h
  | lockAccount i => exact moves_lockAccount h
  | sweep i => exact moves_sweep h
  | insert i => exact moves_insertInvoice h
  | commitGeneration i => exact moves_commitGeneration h
  | abortGeneration i =>
    obtain ⟨g, hg, h⟩ := bind_eq_some_iff.mp h
    obtain ⟨hopen, ⟨⟩⟩ := ite_none_left_eq_some.mp h
    exact .rollBack i g hg (Bool.eq_false_iff.mpr hopen)
  | beginSettlement id =>
    cases h
    exact .beginSettlement id
  | load j => exact moves_load h
  | transfer j r => exact moves_settle h
  | update j => exact moves_update h
  | commitSettlement j => exact moves_commitSettlement h
  | abortSettlement j =>
    obtain ⟨c, hc, h⟩ := bind_eq_some_iff.mp h
    obtain ⟨-, ⟨⟩⟩ := ite_none_left_eq_some.mp h
    exact .advanceSettlement j c _ hc nofun nofun
  | otherTransfer key op amount r =>
    obtain ⟨hcode, h⟩ := ite_none_left_eq_some.mp h
    obtain ⟨⟨b, res⟩, hcall, rfl⟩ := map_eq_some_iff.mp h
    obtain ⟨hunique, hkept, hposted, -⟩ := request_posted hcall
    refine .otherTransfer b hunique hkept fun t ht => ?_
    rcases hposted t ht with ht | rfl
    · exact .inl ht
    · exact .inr hcode

end Posting

end H2Fleet.Commerce
