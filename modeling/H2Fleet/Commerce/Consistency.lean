import H2Fleet.Commerce.Steps

/-!
# What always holds

The part of the commerce state that no run can upset, whatever the ledger and the switch answer and
wherever calls crash: the advisory locks exclude each other, drafts belong to their calls, ids and
idempotency keys are unique, and refunds are about committed rows.
-/

namespace H2Fleet.Commerce

open List

variable {ID : Type}

/-- The refunded amount of a row fits its status and its charge. -/
structure Payment.Ok (p : Payment ID) : Prop where
  nonneg : 0 ≤ p.refundedMinor
  le_charged : p.refundedMinor ≤ max p.effectiveCharged 0
  uncharged : p.status.charged = false → p.refundedMinor = 0
  settled : p.status = .settled → p.refundedMinor = 0
  partially : p.status = .partiallyRefunded → p.refundedMinor < p.effectiveCharged
  refunded : p.status = .refunded → p.effectiveCharged ≤ p.refundedMinor

/-- A draft is the row of its call, not refunded; before the ledger leg a fare to be paid. -/
structure DraftOf (cfg : Config ID) (i : ℕ) (c : PayCall ID) (d : Draft ID) : Prop where
  id : d.row.id = cfg.newID i
  riderSub : d.row.riderSub = c.rider
  key : d.row.idempotencyKey = some c.key
  createdAt : d.row.createdAt = c.now
  refundedMinor : d.row.refundedMinor = 0
  status : d.row.status ≠ .partiallyRefunded ∧ d.row.status ≠ .refunded
  inserted : c.pc = .inserted d → d.row.status = .initiated ∧ 0 < d.row.effectiveCharged

/-- The call is for a row of the table and asks for at most its remainder. -/
structure RefundCall.Ok (rows : List (Payment ID)) (c : RefundCall ID) : Prop where
  row : c.row.Ok
  status : c.row.status = .settled ∨ c.row.status = .partiallyRefunded
  nonneg : 0 ≤ c.amount
  loaded : c.pc = .loaded → 0 < c.amount
  total_le : c.newTotal ≤ max c.row.effectiveCharged 0
  inTable : ∃ p ∈ rows, p.id = c.row.id ∧ p.riderSub = c.row.riderSub ∧
    p.effectiveCharged = c.row.effectiveCharged ∧ c.row.refundedMinor ≤ p.refundedMinor ∧
    p.status.charged = true

structure Consistent (cfg : Config ID) (s : State ID) : Prop where
  locks : ∀ (i j : ℕ) (c d : PayCall ID), s.payments[i]? = some c → s.payments[j]? = some d →
    i ≠ j →
    c.pc.holdsLock = true → d.pc.holdsLock = true → cfg.hashtext c.rider ≠ cfg.hashtext d.rider
  drafts : ∀ (i : ℕ) (c : PayCall ID) d, s.payments[i]? = some c → c.pc.draft = some d →
    DraftOf cfg i c d
  draftKeys : ∀ (i j : ℕ) (c d : PayCall ID), s.payments[i]? = some c → s.payments[j]? = some d →
    i ≠ j → c.pc.draft.isSome = true → d.pc.draft.isSome = true → c.key ≠ d.key
  rowKeys : ∀ (i : ℕ) (c : PayCall ID), s.payments[i]? = some c → c.pc.draft.isSome = true →
    ∀ p ∈ s.rows, p.idempotencyKey ≠ some c.key
  origin : ∀ p ∈ s.rows, ∃ (i : ℕ) (c : PayCall ID) (r : _), s.payments[i]? = some c ∧
    c.pc = .done r ∧ p.id = cfg.newID i
  ids : (s.rows.map Payment.id).Nodup
  keys : (s.rows.map Payment.idempotencyKey).Nodup
  rows : ∀ p ∈ s.rows, p.Ok
  refunds : ∀ c ∈ s.refunds, c.Ok s.rows

variable {cfg : Config ID} {s s' : State ID}

lemma Consistent.init : Consistent cfg (State.init : State ID) where
  locks _ _ _ _ hc := nomatch hc
  drafts _ _ _ hc := nomatch hc
  draftKeys _ _ _ _ hc := nomatch hc
  rowKeys _ _ hc := nomatch hc
  origin _ hp := nomatch hp
  ids := nodup_nil
  keys := nodup_nil
  rows _ hp := nomatch hp
  refunds _ hc := nomatch hc

lemma Consistent.congr (h : Consistent cfg s) (hpay : s'.payments = s.payments)
    (hrows : s'.rows = s.rows) (href : s'.refunds = s.refunds) : Consistent cfg s' where
  locks := hpay ▸ h.locks
  drafts := hpay ▸ h.drafts
  draftKeys := hpay ▸ h.draftKeys
  rowKeys := hpay ▸ hrows ▸ h.rowKeys
  origin := hpay ▸ hrows ▸ h.origin
  ids := hrows ▸ h.ids
  keys := hrows ▸ h.keys
  rows := hrows ▸ h.rows
  refunds := hrows ▸ href ▸ h.refunds

lemma Consistent.eq_of_id (h : Consistent cfg s) {p q : Payment ID} (hp : p ∈ s.rows)
    (hq : q ∈ s.rows) (hid : p.id = q.id) : p = q :=
  inj_on_of_nodup_map h.ids hp hq hid

/-! ## Payments -/

lemma Consistent.addPayment (h : Consistent cfg s) {c : PayCall ID} (hpc : c.pc = .begun) :
    Consistent cfg { s with payments := s.payments ++ [c] } := by
  have hlock : c.pc.holdsLock = false := by rw [hpc]; rfl
  have hdraft : c.pc.draft = none := by rw [hpc]; rfl
  refine ⟨?_, ?_, ?_, ?_, ?_, h.ids, h.keys, h.rows, h.refunds⟩
  · exact forall_pair_concat (fun _ _ hne hla hlb => (hne hlb hla).symm) h.locks
      fun _ _ _ _ hl => by simp [hlock] at hl
  · intro i a d ha hd
    rcases getElem?_append_cases ha with ⟨-, rfl⟩ | ha
    · rw [hdraft] at hd
      cases hd
    · exact h.drafts i a d ha hd
  · exact forall_pair_concat (fun _ _ hne hda hdb => (hne hdb hda).symm) h.draftKeys
      fun _ _ _ _ hd => by simp [hdraft] at hd
  · exact forall_slot_concat h.rowKeys fun hd => by simp [hdraft] at hd
  · intro p hp
    obtain ⟨i, a, r, ha, hr, hid⟩ := h.origin p hp
    exact ⟨i, a, r, getElem?_append_old ha, hr, hid⟩

variable {i : ℕ}

/-- **A step of one call.**  What has to be checked is a new lock or draft. -/
lemma Consistent.setPayment (h : Consistent cfg s) {c c' : PayCall ID}
    (hc : s.payments[i]? = some c) (hrider : c'.rider = c.rider) (hkey : c'.key = c.key)
    (hopen : ∀ r, c.pc ≠ .done r) (hlock : c'.pc.holdsLock = true → c.pc.holdsLock = true ∨
      ∀ d ∈ s.payments, d.pc.holdsLock = true → cfg.hashtext d.rider ≠ cfg.hashtext c.rider)
    (hdraft : ∀ d, c'.pc.draft = some d → DraftOf cfg i c' d)
    (hnew : c'.pc.draft.isSome = true → c.pc.draft.isSome = true ∨
      ((∀ d ∈ s.payments, d.pc.draft.isSome = true → d.key ≠ c.key) ∧
        ∀ p ∈ s.rows, p.idempotencyKey ≠ some c.key)) : Consistent cfg (s.setPayment i c') := by
  refine ⟨?_, ?_, ?_, ?_, ?_, h.ids, h.keys, h.rows, h.refunds⟩
  · refine forall_pair_set (fun _ _ hne hla hlb => (hne hlb hla).symm) h.locks
      fun j d hj hd hld hl => ?_
    rw [hrider]
    rcases hlock hl with hl | hl
    · exact h.locks j i d c hd hc hj hld hl
    · exact hl d (mem_of_getElem? hd) hld
  · intro j a d ha hd
    rcases getElem?_set_cases ha with ⟨rfl, rfl⟩ | ⟨-, ha⟩
    · exact hdraft d hd
    · exact h.drafts j a d ha hd
  · refine forall_pair_set (fun _ _ hne hda hdb => (hne hdb hda).symm) h.draftKeys
      fun j d hj hd hld hl => ?_
    rw [hkey]
    rcases hnew hl with hl | hl
    · exact h.draftKeys j i d c hd hc hj hld hl
    · exact hl.1 d (mem_of_getElem? hd) hld
  · refine forall_slot_set h.rowKeys fun hda p hp => ?_
    rw [hkey]
    rcases hnew hda with hda | hda
    · exact h.rowKeys i c hc hda p hp
    · exact hda.2 p hp
  · intro p hp
    obtain ⟨j, a, r, ha, hr, hid⟩ := h.origin p hp
    have hji : j ≠ i := by
      rintro rfl
      rw [hc, Option.some.injEq] at ha
      exact hopen r (ha ▸ hr)
    exact ⟨j, a, r, getElem?_set_other hji ha, hr, hid⟩

lemma Consistent.advance (h : Consistent cfg s) {c : PayCall ID} {pc : PayPc ID}
    (hc : s.payments[i]? = some c) (hopen : ∀ r, c.pc ≠ .done r) (hdraft : pc.draft = none)
    (hlock : pc.holdsLock = false ∨ c.pc.holdsLock = true ∨
      ∀ d ∈ s.payments, d.pc.holdsLock = true → cfg.hashtext d.rider ≠ cfg.hashtext c.rider) :
    Consistent cfg (s.setPayment i { c with pc := pc }) := by
  refine h.setPayment hc rfl rfl hopen ?_ ?_ ?_
  · intro hl
    rcases hlock with hno | hlock
    · rw [hno] at hl
      cases hl
    · exact hlock
  · intro d hd
    rw [hdraft] at hd
    cases hd
  · intro hd
    rw [hdraft] at hd
    cases hd

lemma DraftOf.later {c c' : PayCall ID} {d d' : Draft ID} (h : DraftOf cfg i c d)
    (hid : d'.row.id = d.row.id) (hsub : d'.row.riderSub = d.row.riderSub)
    (hkey : d'.row.idempotencyKey = d.row.idempotencyKey) (hat : d'.row.createdAt = d.row.createdAt)
    (href : d'.row.refundedMinor = d.row.refundedMinor)
    (hstatus : d'.row.status ≠ .partiallyRefunded ∧ d'.row.status ≠ .refunded)
    (hrider : c'.rider = c.rider) (hckey : c'.key = c.key) (hnow : c'.now = c.now)
    (hpc : c'.pc ≠ .inserted d') : DraftOf cfg i c' d' where
  id := hid.trans h.id
  riderSub := hsub.trans (h.riderSub.trans hrider.symm)
  key := hkey.trans (h.key.trans (congrArg some hckey.symm))
  createdAt := hat.trans (h.createdAt.trans hnow.symm)
  refundedMinor := href.trans h.refundedMinor
  status := hstatus
  inserted := fun hins => absurd hins hpc

variable {d : Draft ID}

lemma DraftOf.ledgerResult {c c' : PayCall ID} (h : DraftOf cfg i c d)
    (res : Except Ledger.LedgerError ID) (hrider : c'.rider = c.rider) (hkey : c'.key = c.key)
    (hnow : c'.now = c.now) (hpc : c'.pc = .posted (d.ledgerResult res)) :
    DraftOf cfg i c' (d.ledgerResult res) := by
  have hstatus : (d.ledgerResult res).row.status ≠ .partiallyRefunded ∧
      (d.ledgerResult res).row.status ≠ .refunded := by
    cases res <;> exact ⟨nofun, nofun⟩
  refine h.later ?_ ?_ ?_ ?_ ?_ hstatus hrider hkey hnow (hpc ▸ nofun) <;> cases res <;> rfl

lemma paymentStatus_ne (e : SwitchError) :
    paymentStatus (some e) ≠ .partiallyRefunded ∧ paymentStatus (some e) ≠ .refunded := by
  have h := paymentStatus_not_charged e
  constructor <;> intro hs <;> rw [hs] at h <;> cases h

lemma draftOf_newRow {c c' : PayCall ID} {charge : ℤ} (st : Status)
    (hrow : d.row = { newRow cfg i c charge with status := st })
    (hst : st ≠ .partiallyRefunded ∧ st ≠ .refunded) (hrider : c'.rider = c.rider)
    (hkey : c'.key = c.key) (hnow : c'.now = c.now)
    (hpos : c'.pc = .inserted d → st = .initiated ∧ 0 < charge) : DraftOf cfg i c' d where
  id := by rw [hrow]; rfl
  riderSub := by rw [hrow, hrider]; rfl
  key := by rw [hrow, hkey]; rfl
  createdAt := by rw [hrow, hnow]; rfl
  refundedMinor := by rw [hrow]; rfl
  status := by rw [hrow]; exact hst
  inserted := fun hins => by rw [hrow]; exact hpos hins

/-! ## Rows -/

/-- **A commit** adds a row whose id and key are new. -/
lemma Consistent.addRow (h : Consistent cfg s) {row : Payment ID} (charges : List BillingCharge)
    (horigin : ∃ (i : ℕ) (c : PayCall ID) (r : _), s.payments[i]? = some c ∧ c.pc = .done r ∧
      row.id = cfg.newID i)
    (hid : ∀ p ∈ s.rows, p.id ≠ row.id) (hkey : ∀ p ∈ s.rows, p.idempotencyKey ≠ row.idempotencyKey)
    (hdrafts : ∀ (i : ℕ) (c : PayCall ID), s.payments[i]? = some c → c.pc.draft.isSome = true →
      row.idempotencyKey ≠ some c.key) (hok : row.Ok) :
    Consistent cfg { s with rows := s.rows ++ [row], charges := charges } where
  __ := h
  rowKeys i c hc hd := forall_mem_concat (h.rowKeys i c hc hd) (hdrafts i c hc hd)
  origin := forall_mem_concat h.origin horigin
  ids := by simpa [nodup_append] using ⟨h.ids, hid⟩
  keys := by simpa [nodup_append] using ⟨h.keys, hkey⟩
  rows := forall_mem_concat h.rows hok
  refunds c hc := by
    obtain ⟨hrow, hstatus, hnonneg, hloaded, htotal, p, hp, hrest⟩ := h.refunds c hc
    exact ⟨hrow, hstatus, hnonneg, hloaded, htotal, p, mem_append_left _ hp, hrest⟩

lemma DraftOf.ok {c : PayCall ID} (h : DraftOf cfg i c d) : d.row.Ok where
  nonneg := h.refundedMinor.ge
  le_charged := by rw [h.refundedMinor]; exact le_max_right _ _
  uncharged _ := h.refundedMinor
  settled _ := h.refundedMinor
  partially hs := absurd hs h.status.1
  refunded hs := absurd hs h.status.2

lemma Consistent.finish (hinj : Function.Injective cfg.newID) (h : Consistent cfg s)
    {c : PayCall ID} (hc : s.payments[i]? = some c) (hd : c.pc.draft = some d) :
    Consistent cfg (s.finish i c d) := by
  have hdraft := h.drafts i c d hc hd
  have hsome : c.pc.draft.isSome = true := by rw [hd]; rfl
  have hopen : ∀ r, c.pc ≠ .done r := by
    intro r hr
    rw [hr] at hd
    cases hd
  have hset : Consistent cfg (s.setPayment i { c with pc := .done (paymentResponse d) }) :=
    h.advance hc hopen rfl (.inl rfl)
  refine hset.addRow _ ⟨i, { c with pc := .done (paymentResponse d) }, paymentResponse d, ?_, rfl,
    hdraft.id⟩ ?_ ?_ ?_ hdraft.ok
  · have hi : i < s.payments.length := (List.getElem?_eq_some_iff.mp hc).1
    simp [State.setPayment, hi]
  · intro p hp hid
    obtain ⟨j, a, r, ha, hr, hpid⟩ := h.origin p hp
    have hji : j = i := hinj (hpid.symm.trans (hid.trans hdraft.id))
    rw [hji, hc, Option.some.injEq] at ha
    exact hopen r (ha ▸ hr)
  · intro p hp
    rw [hdraft.key]
    exact h.rowKeys i c hc hsome p hp
  · intro j a ha hda hkey
    rw [hdraft.key, Option.some.injEq] at hkey
    rcases getElem?_set_cases ha with ⟨-, rfl⟩ | ⟨hj, ha⟩
    · exact Bool.noConfusion hda
    · exact h.draftKeys j i a c ha hc hj hda hsome hkey.symm

/-! ## Refunds -/

variable {c : RefundCall ID}

variable {j : ℕ}

lemma Consistent.setRefund (h : Consistent cfg s) {pc : RefundPc ID} (hc : s.refunds[j]? = some c)
    (hpc : pc ≠ .loaded) : Consistent cfg (s.setRefund j { c with pc := pc }) := by
  obtain ⟨hrow, hstatus, hnonneg, -, htotal, htable⟩ := h.refunds c (mem_of_getElem? hc)
  refine { h with refunds := forall_mem_set h.refunds ?_ }
  exact ⟨hrow, hstatus, hnonneg, fun hl => absurd hl hpc, htotal, htable⟩

lemma Consistent.newTotal_nonneg (h : Consistent cfg s) (hc : c ∈ s.refunds) : 0 ≤ c.newTotal :=
  add_nonneg (h.refunds c hc).row.nonneg (h.refunds c hc).nonneg

variable {p : Payment ID}

lemma Consistent.charged_eq (h : Consistent cfg s) (hc : c ∈ s.refunds) (hp : p ∈ s.rows)
    (hid : p.id = c.row.id) :
    p.effectiveCharged = c.row.effectiveCharged ∧ p.riderSub = c.row.riderSub := by
  obtain ⟨q, hq, hqid, hsub, hcharged, -, -⟩ := (h.refunds c hc).inTable
  rw [h.eq_of_id hp hq (hid.trans hqid.symm)]
  exact ⟨hcharged, hsub⟩

lemma Consistent.refundable (h : Consistent cfg s) (hc : c ∈ s.refunds) (hp : p ∈ s.rows)
    (hid : p.id = c.row.id) : c.row.refundedMinor ≤ p.refundedMinor ∧ p.status.charged = true := by
  obtain ⟨q, hq, hqid, -, -, hrest⟩ := (h.refunds c hc).inTable
  rw [h.eq_of_id hp hq (hid.trans hqid.symm)]
  exact hrest

lemma charged_of_refundable {st : Status} (h : st = .settled ∨ st = .partiallyRefunded) :
    st.charged = true := by
  rcases h with rfl | rfl <;> rfl

lemma RefundCall.apply_charged (c : RefundCall ID) (p : Payment ID) :
    (c.apply p).status.charged = true := by
  simp only [RefundCall.apply]
  split_ifs <;> rfl

lemma RefundCall.apply_ok {rows : List (Payment ID)} (hc : c.Ok rows)
    (hcharged : p.effectiveCharged = c.row.effectiveCharged) : (c.apply p).Ok := by
  have heff : (c.apply p).effectiveCharged = c.row.effectiveCharged := hcharged
  have hstatus : (c.apply p).status =
      if c.row.effectiveCharged ≤ c.newTotal then .refunded else .partiallyRefunded := rfl
  refine ⟨add_nonneg hc.row.nonneg hc.nonneg, ?_, ?_, ?_, ?_, ?_⟩
  · rw [heff]
    exact hc.total_le
  · intro hs
    rw [hstatus] at hs
    split_ifs at hs <;> cases hs
  · intro hs
    rw [hstatus] at hs
    split_ifs at hs
  · intro hs
    rw [hstatus] at hs
    split_ifs at hs with hle
    rw [heff]
    exact not_le.mp hle
  · intro hs
    rw [hstatus] at hs
    split_ifs at hs with hle
    rw [heff]
    exact hle

variable (h : Consistent cfg s)
include h

namespace Consistent

lemma updateRows (hc : c ∈ s.refunds) :
    Consistent cfg { s with rows := s.rows.map fun p => if c.Matches p then c.apply p else p } := by
  have hsame : ∀ p : Payment ID, (if c.Matches p then c.apply p else p).id = p.id ∧
      (if c.Matches p then c.apply p else p).idempotencyKey = p.idempotencyKey ∧
      (if c.Matches p then c.apply p else p).riderSub = p.riderSub ∧
      (if c.Matches p then c.apply p else p).effectiveCharged = p.effectiveCharged := by
    intro p
    by_cases hm : c.Matches p
    · rw [if_pos hm]
      exact ⟨rfl, rfl, rfl, rfl⟩
    · rw [if_neg hm]
      exact ⟨rfl, rfl, rfl, rfl⟩
  have hmono : ∀ p : Payment ID,
      p.refundedMinor ≤ (if c.Matches p then c.apply p else p).refundedMinor := by
    intro p
    by_cases hm : c.Matches p
    · rw [if_pos hm, hm.2.2]
      exact le_add_of_nonneg_right (h.refunds c hc).nonneg
    · rw [if_neg hm]
  refine ⟨h.locks, h.drafts, h.draftKeys, ?_, ?_, ?_, ?_, ?_, ?_⟩
  · intro i a ha hd p hp
    obtain ⟨q, hq, rfl⟩ := mem_map.mp hp
    rw [(hsame q).2.1]
    exact h.rowKeys i a ha hd q hq
  · intro p hp
    obtain ⟨q, hq, rfl⟩ := mem_map.mp hp
    rw [(hsame q).1]
    exact h.origin q hq
  · rw [map_map]
    exact (map_congr_left fun q _ => (hsame q).1) ▸ h.ids
  · rw [map_map]
    exact (map_congr_left fun q _ => (hsame q).2.1) ▸ h.keys
  · intro p hp
    obtain ⟨q, hq, rfl⟩ := mem_map.mp hp
    by_cases hm : c.Matches q
    · rw [if_pos hm]
      exact RefundCall.apply_ok (h.refunds c hc) (h.charged_eq hc hq hm.1).1
    · rw [if_neg hm]
      exact h.rows q hq
  · intro a ha
    obtain ⟨hrow, hstatus, hnonneg, hloaded, htotal, p, hp, hid, hsub, hcharged, hle, hst⟩ :=
      h.refunds a ha
    refine ⟨hrow, hstatus, hnonneg, hloaded, htotal, _, mem_map_of_mem hp, ?_⟩
    obtain ⟨hid', -, hsub', hcharged'⟩ := hsame p
    refine ⟨hid'.trans hid, hsub'.trans hsub, hcharged'.trans hcharged, hle.trans (hmono p), ?_⟩
    split_ifs
    · exact c.apply_charged p
    · exact hst

/-! ## Steps -/

lemma lock (hstep : s.lock cfg i = some s') : Consistent cfg s' := by
  obtain ⟨c, hc, hpc, hfree, rfl⟩ := lock_cases hstep
  exact h.advance hc (by simp [hpc]) rfl (.inr (.inr hfree))

lemma resolve (hstep : s.resolve i = some s') : Consistent cfg s' := by
  obtain ⟨c, hc, hpc, rfl⟩ := resolve_cases hstep
  refine h.advance hc (by simp [hpc]) rfl (.inr (.inl ?_))
  rw [hpc]
  rfl

lemma price (hstep : s.price cfg i = some s') : Consistent cfg s' := by
  obtain ⟨c, q, charge, hc, hpc, -, rfl⟩ := price_cases hstep
  refine h.advance hc (by simp [hpc]) rfl (.inr (.inl ?_))
  rw [hpc]
  rfl

lemma setDraft {c c' : PayCall ID} (hc : s.payments[i]? = some c)
    (hrider : c'.rider = c.rider) (hkey : c'.key = c.key) (hlock : c.pc.holdsLock = true)
    (hd : c'.pc.draft = some d) (hof : DraftOf cfg i c' d)
    (hnew : c.pc.draft.isSome = true ∨
      ((∀ d ∈ s.payments, d.pc.draft.isSome = true → d.key ≠ c.key) ∧
        ∀ p ∈ s.rows, p.idempotencyKey ≠ some c.key)) : Consistent cfg (s.setPayment i c') := by
  refine h.setPayment hc hrider hkey ?_ (fun _ => .inl hlock) ?_ fun _ => hnew
  · intro r hr
    rw [hr] at hlock
    cases hlock
  · intro d' hd'
    rw [hd, Option.some.injEq] at hd'
    exact hd' ▸ hof

lemma insert (hstep : s.insert cfg i = some s') : Consistent cfg s' := by
  obtain ⟨c, q, hc, hpc, hcases⟩ := insert_cases hstep
  have hlock : c.pc.holdsLock = true := by rw [hpc]; rfl
  rcases hcases with ⟨r, rfl⟩ | ⟨hfree, hrows, ⟨hpos, rfl⟩ | ⟨-, rfl⟩⟩
  · exact h.advance hc (by simp [hpc]) rfl (.inl rfl)
  · refine h.setDraft hc rfl rfl hlock rfl ?_ (.inr ⟨hfree, hrows⟩)
    exact draftOf_newRow .initiated rfl ⟨by decide, by decide⟩ rfl rfl rfl fun _ => ⟨rfl, hpos⟩
  · refine h.setDraft hc rfl rfl hlock rfl ?_ (.inr ⟨hfree, hrows⟩)
    refine draftOf_newRow .settled rfl ⟨by decide, by decide⟩ rfl rfl rfl fun hins => ?_
    cases hins

lemma switch {answer : Except SwitchError String} (hstep : s.switch i answer = some s') :
    Consistent cfg s' := by
  obtain ⟨c, d, hc, hpc, -, rfl⟩ := switch_cases hstep
  have hd : c.pc.draft = some d := by rw [hpc]; rfl
  have hlock : c.pc.holdsLock = true := by rw [hpc]; rfl
  have hof := h.drafts i c d hc hd
  refine h.setDraft hc rfl rfl hlock rfl ?_ (.inl (by rw [hd]; rfl))
  cases answer with
  | ok id => exact hof.later rfl rfl rfl rfl rfl hof.status rfl rfl rfl nofun
  | error e => exact hof.later rfl rfl rfl rfl rfl (paymentStatus_ne e) rfl rfl rfl nofun

lemma commit (hinj : Function.Injective cfg.newID) (hstep : s.commit i = some s') :
    Consistent cfg s' := by
  obtain ⟨c, d, hc, hd, -, rfl⟩ := commit_cases hstep
  exact h.finish hinj hc hd

lemma beginRefund {id : String} {requested : Option ℤ}
    (hstep : some (s.beginRefund id requested) = some s') : Consistent cfg s' := by
  obtain rfl | ⟨p, amount, hp, -, hstatus, hnonneg, hle, rfl⟩ := beginRefund_cases hstep
  · exact h
  · have hok := h.rows p hp
    refine { h with refunds := forall_mem_concat h.refunds ⟨hok, hstatus, hnonneg, fun hl => ?_, ?_,
      p, hp, rfl,
      rfl, rfl, le_rfl, charged_of_refundable hstatus⟩ }
    · by_contra hpos
      simp only [if_neg hpos] at hl
      cases hl
    · have hbound := hok.le_charged
      simp only [RefundCall.newTotal]
      omega

lemma updateRefund (hstep : s.updateRefund j = some s') : Consistent cfg s' := by
  obtain ⟨c, tb, hc, -, hcases⟩ := updateRefund_cases hstep
  rcases hcases with ⟨p, r, -, -, rfl⟩ | ⟨-, r, rfl⟩
  · exact (h.updateRows (mem_of_getElem? hc)).setRefund hc nofun
  · exact h.setRefund hc nofun

lemma crashRefund (hstep : s.crashRefund j = some s') : Consistent cfg s' := by
  obtain ⟨c, hc, ⟨-, rfl⟩ | ⟨-, rfl⟩⟩ := crashRefund_cases hstep
  · exact h.setRefund hc nofun
  · exact h.setRefund hc nofun

end Consistent

variable [DecidableEq ID] {r : Ledger.Replies}

lemma Consistent.post (hstep : s.post cfg i r = some s') : Consistent cfg s' := by
  obtain ⟨c, d, b, res, hc, hpc, -, rfl⟩ := post_cases hstep
  have hd : c.pc.draft = some d := by rw [hpc]; rfl
  have hlock : c.pc.holdsLock = true := by rw [hpc]; rfl
  exact Consistent.setDraft (s := { s with accounts := _, books := b }) (h.congr rfl rfl rfl) hc rfl
    rfl hlock rfl ((h.drafts i c d hc hd).ledgerResult res rfl rfl rfl rfl) (.inl (by rw [hd]; rfl))

lemma Consistent.postRefund (hstep : s.postRefund cfg j r = some s') : Consistent cfg s' := by
  obtain ⟨c, b, res, hc, -, -, rfl⟩ := postRefund_cases hstep
  refine Consistent.setRefund (s := { s with accounts := _, books := b })
    (h.congr rfl rfl rfl) hc ?_
  cases res with
  | ok id => exact nofun
  | error e => exact nofun

lemma Consistent.step (hinj : Function.Injective cfg.newID) {e : Event}
    (hstep : step cfg s e = some s') : Consistent cfg s' := by
  cases e with
  | beginPayment key subject privileged body now =>
    obtain rfl | ⟨c, hpc, -, -, -, rfl⟩ := beginPayment_cases hstep
    · exact h
    · exact h.addPayment hpc
  | lock i => exact h.lock hstep
  | resolve i => exact h.resolve hstep
  | price i => exact h.price hstep
  | insert i => exact h.insert hstep
  | post i r => exact h.post hstep
  | switch i answer => exact h.switch hstep
  | commit i => exact h.commit hinj hstep
  | abort i =>
    obtain ⟨c, hc, hopen, rfl⟩ := abort_cases hstep
    exact h.advance hc hopen rfl (.inl rfl)
  | beginRefund id requested => exact h.beginRefund hstep
  | postRefund j r => exact h.postRefund hstep
  | updateRefund j => exact h.updateRefund hstep
  | crashRefund j => exact h.crashRefund hstep
  | topUp subject key amount r =>
    obtain rfl | ⟨n, b, res, -, -, rfl⟩ := topUp_cases hstep
    · exact h
    · exact h.congr rfl rfl rfl
  | setEntitlements es =>
    cases hstep
    exact h.congr rfl rfl rfl

end H2Fleet.Commerce
