import H2Fleet.Commerce.Charges

/-!
# What refunds return

The reversals the ledger has accepted for a payment, against its charge and the refunded amount in
its row.  A refund posts its reversal first and finds out in the conditional UPDATE afterwards that
another was faster; the id of the reversal names the total after the refund, so that only refunds to
the same total are recognised as one.
-/

namespace H2Fleet.Commerce

open List Function State

variable {ID : Type}

def State.reversals (s : State ID) : List (Transfer ID) :=
  s.books.posted.filter fun t => t.debit = Ledger.operatorRevenueAccount

def RefundCall.reversalID (cfg : Config ID) (c : RefundCall ID) : ID :=
  cfg.tid (refundKey c.row.id c.newTotal)

def State.Accepted (cfg : Config ID) (s : State ID) (id : String) (total : ℤ) : Prop :=
  ∃ t ∈ s.reversals, t.id = cfg.tid (refundKey id total)

section Definitions

variable [DecidableEq ID] (cfg : Config ID) (s : State ID)

/-- What the accepted reversals of a payment add up to. -/
def State.reversed (id : String) : ℤ :=
  ((s.reversals.filter fun t => ∃ c ∈ s.refunds, c.row.id = id ∧ t.id = c.reversalID cfg).map
    fun t => (t.amount : ℤ)).sum

def Undisturbed : Event → Prop
  | .postRefund j r => ∀ c ∈ s.refunds[j]?, ¬ r.PostingLost ∧ (s.books.Fresh (c.reversalID cfg) →
        (∀ p ∈ s.rows, p.id = c.row.id → p.refundedMinor = c.row.refundedMinor) ∧
        ∀ a ∈ s.refunds, a.row.id = c.row.id → a.unsettled = false)
  | _ => True

instance (e : Event) : Decidable (Undisturbed cfg s e) := by
  unfold Undisturbed; split <;> infer_instance

def RefundCareful (e : Event) : Prop := FareCareful s e ∧ Undisturbed cfg s e

instance (e : Event) : Decidable (RefundCareful cfg s e) := inferInstanceAs (Decidable (_ ∧ _))

/-- The call has posted its reversal on top of the row, and not run its UPDATE. -/
def State.Outstanding (p : Payment ID) (c : RefundCall ID) : Prop :=
  c.unsettled = true ∧ 0 < c.amount ∧ c.row.id = p.id ∧ c.row.refundedMinor = p.refundedMinor ∧
    c.newTotal = s.reversed cfg p.id

structure RefundInv : Prop where
  orderly : Orderly cfg s
  origin : ∀ t ∈ s.reversals, ∃ c ∈ s.refunds, t.id = c.reversalID cfg
  posted : ∀ c ∈ s.refunds, c.unsettled = true → 0 < c.amount → s.Accepted cfg c.row.id c.newTotal
  totals : ∀ p ∈ s.rows, ∀ n, 0 ≤ n → s.Accepted cfg p.id n →
    n ≤ p.refundedMinor ∨ n = s.reversed cfg p.id
  level : ∀ p ∈ s.rows, s.reversed cfg p.id = p.refundedMinor ∨
    ∃ c ∈ s.refunds, s.Outstanding cfg p c

end Definitions

/-! ## Transfer ids -/

variable {cfg : Config ID} {s s' : State ID}

lemma Consistent.reversalID_inj (h : Consistent cfg s) (hsha : Injective cfg.sha16)
    {a c : RefundCall ID} (ha : a ∈ s.refunds) (hc : c ∈ s.refunds)
    (hid : a.reversalID cfg = c.reversalID cfg) : a.row.id = c.row.id :=
  (tid_refundKey_inj hsha (h.newTotal_nonneg ha) (h.newTotal_nonneg hc) hid).1

variable {c : RefundCall ID}

variable {j : ℕ}

lemma refundIds_set {pc : RefundPc ID} (hc : s.refunds[j]? = some c) (t : Transfer ID) (id : String)
    : (∃ a ∈ s.refunds.set j { c with pc := pc }, a.row.id = id ∧ t.id = a.reversalID cfg) ↔
      ∃ a ∈ s.refunds, a.row.id = id ∧ t.id = a.reversalID cfg := by
  constructor
  · rintro ⟨a, ha, hid⟩
    rcases mem_set_cases ha with rfl | ha
    · exact ⟨c, mem_of_getElem? hc, hid⟩
    · exact ⟨a, ha, hid⟩
  · exact exists_mem_set hc fun hid => hid

lemma reversals_congr (h : s'.books.posted = s.books.posted) : s'.reversals = s.reversals := by
  rw [reversals, h, reversals]

variable {t : Transfer ID}

lemma reversals_add (h : s'.books.posted = s.books.posted ++ [t])
    (ht : t.debit = Ledger.operatorRevenueAccount) : s'.reversals = s.reversals ++ [t] := by
  rw [reversals, h, filter_append, filter_singleton, decide_eq_true ht]
  rfl

lemma reversals_other {r : Ledger.Replies} {res : Except Ledger.LedgerError ID}
    (h : Ledger.Outcome r t s.books.posted s'.books.posted res)
    (ht : t.debit ≠ t.credit → t.debit ≠ Ledger.operatorRevenueAccount) :
    s'.reversals = s.reversals := by
  rcases h.after_cases with heq | ⟨-, hne, heq⟩
  · exact reversals_congr heq
  · rw [reversals, heq, filter_append, filter_singleton, decide_eq_false (ht hne)]
    exact append_nil _

lemma unsettled_loaded (h : c.pc = .loaded) : c.unsettled = false := by
  rw [RefundCall.unsettled, h]

/-! ## Sums -/

variable [DecidableEq ID]

lemma reversed_congr (hrev : s'.reversals = s.reversals) {id : String}
    (href : ∀ t ∈ s.reversals, (∃ c ∈ s'.refunds, c.row.id = id ∧ t.id = c.reversalID cfg) ↔
      ∃ c ∈ s.refunds, c.row.id = id ∧ t.id = c.reversalID cfg) :
    s'.reversed cfg id = s.reversed cfg id := by
  rw [reversed, reversed, hrev]
  congr 2
  refine filter_congr fun t ht => ?_
  rw [decide_eq_decide]
  exact href t ht

lemma reversed_add (hcons : Consistent cfg s') (hsha : Injective cfg.sha16)
    (hc : c ∈ s'.refunds) (ht : t.id = c.reversalID cfg) (hrev : s'.reversals = s.reversals ++ [t])
    {id : String}
    (href : ∀ t ∈ s.reversals, (∃ c ∈ s'.refunds, c.row.id = id ∧ t.id = c.reversalID cfg) ↔
      ∃ c ∈ s.refunds, c.row.id = id ∧ t.id = c.reversalID cfg) :
    s'.reversed cfg id = s.reversed cfg id + if c.row.id = id then (t.amount : ℤ) else 0 := by
  have hmine : (∃ a ∈ s'.refunds, a.row.id = id ∧ t.id = a.reversalID cfg) ↔ c.row.id = id := by
    constructor
    · rintro ⟨a, ha, rfl, hid⟩
      exact hcons.reversalID_inj hsha hc ha (ht.symm.trans hid)
    · exact fun hid => ⟨c, hc, hid, ht⟩
  have hold : s.reversals.filter (fun t => ∃ c ∈ s'.refunds, c.row.id = id ∧
      t.id = c.reversalID cfg) = s.reversals.filter fun t => ∃ c ∈ s.refunds, c.row.id = id ∧
      t.id = c.reversalID cfg := by
    refine filter_congr fun t ht => ?_
    rw [decide_eq_decide]
    exact href t ht
  rw [reversed, hrev, filter_append, map_append, sum_append, hold,
    reversed, filter_singleton]
  simp only [hmine]
  split_ifs with hid
  · simp [hid]
  · simp [hid]

/-! ## The invariant -/

lemma RefundInv.init : RefundInv cfg (init : State ID) where
  orderly := .init
  origin _ ht := nomatch ht
  posted _ hc := nomatch hc
  totals _ hp := nomatch hp
  level _ hp := nomatch hp

variable (h : RefundInv cfg s)
include h

lemma RefundInv.congr (hord : Orderly cfg s') (hrev : s'.reversals = s.reversals)
    (hrows : s'.rows = s.rows) (href : s'.refunds = s.refunds) : RefundInv cfg s' := by
  have hsum : ∀ id, s'.reversed cfg id = s.reversed cfg id := fun id =>
    reversed_congr hrev fun t _ => by rw [href]
  refine ⟨hord, ?_, fun c hc => ?_, fun p hp n hn => ?_, fun p hp => ?_⟩
  · rw [hrev, href]
    exact h.origin
  · rw [Accepted, hrev]
    exact h.posted c (href ▸ hc)
  · rw [Accepted, hrev, hsum]
    exact h.totals p (hrows ▸ hp) n hn
  · simp only [Outstanding, hsum, href]
    exact h.level p (hrows ▸ hp)

lemma RefundInv.finish (hsha : Injective cfg.sha16) {i : ℕ} {pay : PayCall ID} {d : Draft ID}
    (hord : Orderly cfg (s.finish i pay d)) (hzero : d.row.refundedMinor = 0) :
    RefundInv cfg (s.finish i pay d) := by
  have hnew : ∀ p ∈ s.rows, p.id ≠ d.row.id := by
    have hids : (map Payment.id (s.rows ++ [d.row])).Nodup := hord.consistent.ids
    rw [map_append, nodup_append] at hids
    exact fun p hp => hids.2.2 p.id (mem_map_of_mem hp) d.row.id (by simp)
  have hnone : ∀ c ∈ s.refunds, c.row.id ≠ d.row.id := by
    intro c hc
    obtain ⟨p, hp, hpid, -⟩ := (h.orderly.consistent.refunds c hc).inTable
    exact hpid ▸ hnew p hp
  refine ⟨hord, h.origin, h.posted, forall_mem_concat h.totals ?_, forall_mem_concat h.level ?_⟩
  · rintro n hn ⟨t, ht, hid⟩
    obtain ⟨c, hc, hcid⟩ := h.origin t ht
    obtain ⟨hrow, -⟩ := tid_refundKey_inj hsha hn (h.orderly.consistent.newTotal_nonneg hc)
      (hid.symm.trans hcid)
    exact absurd hrow.symm (hnone c hc)
  · left
    have hempty : s.reversals.filter (fun t => ∃ c ∈ s.refunds, c.row.id = d.row.id ∧
        t.id = c.reversalID cfg) = [] := by
      refine filter_eq_nil_iff.mpr fun t ht => ?_
      simp only [decide_eq_true_eq]
      rintro ⟨c, hc, hrow, -⟩
      exact hnone c hc hrow
    show s.reversed cfg d.row.id = _
    rw [hzero, reversed, hempty]
    rfl

/-- **A new refund call.**  Reversals with its id are of its payment already. -/
lemma RefundInv.addRefund (hsha : Injective cfg.sha16)
    (hord : Orderly cfg { s with refunds := s.refunds ++ [c] })
    (hc : c.unsettled = true → c.amount ≤ 0) :
    RefundInv cfg { s with refunds := s.refunds ++ [c] } := by
  have hold : ∀ a ∈ s.refunds, a ∈ s.refunds ++ [c] := fun a ha => mem_append_left _ ha
  have hsum : ∀ id, ({ s with refunds := s.refunds ++ [c] } : State ID).reversed cfg id =
      s.reversed cfg id := by
    intro id
    refine reversed_congr (by rfl) fun t ht => ⟨?_, ?_⟩
    · rintro ⟨a, ha, rfl, hid⟩
      obtain ⟨o, ho, hoid⟩ := h.origin t ht
      exact ⟨o, ho, hord.consistent.reversalID_inj hsha (hold o ho) ha (hoid.symm.trans hid), hoid⟩
    · rintro ⟨a, ha, hid⟩
      exact ⟨a, hold a ha, hid⟩
  refine ⟨hord, fun t ht => ?_, ?_, fun p hp n hn => ?_, fun p hp => ?_⟩
  · obtain ⟨a, ha, hid⟩ := h.origin t ht
    exact ⟨a, hold a ha, hid⟩
  · exact forall_mem_concat h.posted fun hun hpos => absurd (hc hun) (not_le.mpr hpos)
  · rw [hsum]
    exact h.totals p hp n hn
  · simp only [Outstanding, hsum]
    refine (h.level p hp).imp_right ?_
    rintro ⟨a, ha, hout⟩
    exact ⟨a, hold a ha, hout⟩

/-- **A refund call goes on** without a new reversal. -/
lemma RefundInv.setRefund {pc : RefundPc ID} (hc : s.refunds[j]? = some c) (hord : Orderly cfg s')
    (hrev : s'.reversals = s.reversals) (hrows : s'.rows = s.rows)
    (href : s'.refunds = s.refunds.set j { c with pc := pc })
    (hkeep : ∀ p ∈ s.rows, s.Outstanding cfg p c →
      ({ c with pc := pc } : RefundCall ID).unsettled = true)
    (hnew : ({ c with pc := pc } : RefundCall ID).unsettled = true → 0 < c.amount →
      s.Accepted cfg c.row.id c.newTotal) : RefundInv cfg s' := by
  have hsum : ∀ id, s'.reversed cfg id = s.reversed cfg id := fun id =>
    reversed_congr hrev fun t _ => by rw [href]; exact refundIds_set hc t id
  refine ⟨hord, fun t ht => ?_, fun a ha => ?_, fun p hp n hn => ?_, fun p hp => ?_⟩
  · rw [href]
    exact exists_mem_set hc (fun hid => hid) (h.origin t (hrev ▸ ht))
  · rw [Accepted, hrev]
    rw [href] at ha
    exact forall_mem_set h.posted hnew a ha
  · rw [Accepted, hrev, hsum]
    exact h.totals p (hrows ▸ hp) n hn
  · rw [hrows] at hp
    simp only [Outstanding, hsum, href]
    refine (h.level p hp).imp_right (exists_mem_set hc fun hout => ?_)
    exact ⟨hkeep p hp hout, hout.2⟩

/-- **A new reversal**, posted while the row has what the call saw. -/
lemma RefundInv.post (hsha : Injective cfg.sha16) {tb : Option ID} (hc : s.refunds[j]? = some c)
    (hpc : c.pc = .loaded) (hord : Orderly cfg s') (hrev : s'.reversals = s.reversals ++ [t])
    (hid : t.id = c.reversalID cfg) (hamount : (t.amount : ℤ) = c.amount)
    (hrows : s'.rows = s.rows) (href : s'.refunds = s.refunds.set j { c with pc := .posted tb })
    (hsame : ∀ p ∈ s.rows, p.id = c.row.id → p.refundedMinor = c.row.refundedMinor)
    (hquiet : ∀ a ∈ s.refunds, a.row.id = c.row.id → a.unsettled = false) : RefundInv cfg s' := by
  have hmem : c ∈ s.refunds := mem_of_getElem? hc
  have hpos : 0 < c.amount := (h.orderly.consistent.refunds c hmem).loaded hpc
  have hself : ({ c with pc := .posted tb } : RefundCall ID) ∈ s'.refunds := by
    rw [href]
    exact mem_set_self hc
  have hsum : ∀ id,
    s'.reversed cfg id = s.reversed cfg id + if c.row.id = id then c.amount else 0 := by
    intro id
    rw [← hamount]
    exact reversed_add hord.consistent hsha hself hid hrev fun u _ => by
      rw [href]
      exact refundIds_set hc u id
  -- before, the reversals of this payment were what its row says
  have hlevel : ∀ p ∈ s.rows, p.id = c.row.id → s.reversed cfg p.id = p.refundedMinor := by
    intro p hp hpid
    rcases h.level p hp with heq | ⟨a, ha, hun, -, haid, -⟩
    · exact heq
    · rw [hquiet a ha (haid.trans hpid)] at hun
      cases hun
  refine ⟨hord, fun u hu => ?_, fun a ha hun hapos => ?_, fun p hp n hn hacc => ?_, fun p hp => ?_⟩
  · rw [hrev] at hu
    rcases mem_append.mp hu with hu | hu
    · rw [href]
      exact exists_mem_set hc (fun hid => hid) (h.origin u hu)
    · exact ⟨_, hself, mem_singleton.mp hu ▸ hid⟩
  · rw [Accepted, hrev]
    rw [href] at ha
    rcases mem_set_cases ha with rfl | ha
    · exact ⟨t, mem_append_right _ (mem_singleton_self t), hid⟩
    · obtain ⟨u, hu, huid⟩ := h.posted a ha hun hapos
      exact ⟨u, mem_append_left _ hu, huid⟩
  · rw [hrows] at hp
    rw [Accepted, hrev] at hacc
    obtain ⟨u, hu, huid⟩ := hacc
    rw [hsum]
    rcases mem_append.mp hu with hu | hu
    · have hold := h.totals p hp n hn ⟨u, hu, huid⟩
      by_cases hpid : c.row.id = p.id
      · rw [hlevel p hp hpid.symm] at hold
        exact .inl (hold.elim (fun hle => hle) fun heq => heq.le)
      · rwa [if_neg hpid, add_zero]
    · rw [mem_singleton.mp hu, hid] at huid
      obtain ⟨hpid, rfl⟩ :=
        tid_refundKey_inj hsha (h.orderly.consistent.newTotal_nonneg hmem) hn huid
      right
      rw [if_pos hpid, hlevel p hp hpid.symm, hsame p hp hpid.symm]
      rfl
  · rw [hrows] at hp
    simp only [Outstanding, hsum]
    by_cases hpid : c.row.id = p.id
    · right
      refine ⟨_, hself, rfl, hpos, hpid, (hsame p hp hpid.symm).symm, ?_⟩
      rw [if_pos hpid, hlevel p hp hpid.symm, hsame p hp hpid.symm]
      rfl
    · simp only [if_neg hpid, add_zero, href]
      refine (h.level p hp).imp_right (exists_mem_set hc fun hout => ?_)
      exact absurd hout.2.2.1 hpid

/-- **The UPDATE of an outstanding refund** takes the row to the sum of reversals. -/
lemma RefundInv.updateRows {tb : Option ID} {p₀ : Payment ID} {r : Response ID}
    (hc : s.refunds[j]? = some c) (hpc : c.pc = .posted tb) (hp₀ : p₀ ∈ s.rows) (hm₀ : c.Matches p₀)
    (hs : s' = ({ s with rows := s.rows.map fun p => if c.Matches p then c.apply p else p } :
      State ID).setRefund j { c with pc := .done r })
    (hord : Orderly cfg s') : RefundInv cfg s' := by
  have hsum : ∀ id, s'.reversed cfg id = s.reversed cfg id := fun id =>
    reversed_congr (hs ▸ rfl) fun t _ => hs ▸ refundIds_set hc t id
  subst hs
  have hmem : c ∈ s.refunds := mem_of_getElem? hc
  have hnonneg : 0 ≤ c.amount := (h.orderly.consistent.refunds c hmem).nonneg
  -- the reversal of the call is accepted, and it is the latest one
  have hlatest : 0 < c.amount → c.newTotal = s.reversed cfg p₀.id := by
    intro hpos
    have hun : c.unsettled = true := by rw [RefundCall.unsettled, hpc]
    have hacc := h.posted c hmem hun hpos
    rw [← hm₀.1] at hacc
    rcases h.totals p₀ hp₀ _ (h.orderly.consistent.newTotal_nonneg hmem) hacc with hle | heq
    · rw [hm₀.2.2, RefundCall.newTotal] at hle
      omega
    · exact heq
  refine ⟨hord, fun t ht => ?_, fun a ha => ?_, fun q hq n hn hacc => ?_, fun q hq => ?_⟩
  · exact exists_mem_set hc (fun hid => hid) (h.origin t ht)
  · exact forall_mem_set h.posted (fun hun => Bool.noConfusion hun) a ha
  · rw [hsum]
    obtain ⟨p, hp, rfl⟩ := mem_map.mp hq
    by_cases hm : c.Matches p
    · rw [if_pos hm] at hacc ⊢
      refine (h.totals p hp n hn hacc).imp_left fun hle => ?_
      rw [hm.2.2] at hle
      exact hle.trans (le_add_of_nonneg_right hnonneg)
    · rw [if_neg hm] at hacc ⊢
      exact h.totals p hp n hn hacc
  · simp only [Outstanding, hsum]
    obtain ⟨p, hp, rfl⟩ := mem_map.mp hq
    by_cases hm : c.Matches p
    · obtain rfl := h.orderly.consistent.eq_of_id hp hp₀ (hm.1.trans hm₀.1.symm)
      rw [if_pos hm]
      rcases hnonneg.lt_or_eq with hpos | hzero
      · exact .inl (hlatest hpos).symm
      · have hsame : (c.apply p).refundedMinor = p.refundedMinor := by
          rw [hm.2.2]
          show c.row.refundedMinor + c.amount = c.row.refundedMinor
          rw [← hzero, add_zero]
        rw [hsame]
        refine (h.level p hp).imp_right (exists_mem_set hc fun hout => ?_)
        exact absurd hout.2.1 (hzero ▸ lt_irrefl _)
    · rw [if_neg hm]
      have hne : c.row.id ≠ p.id := by
        intro hid
        exact hm (h.orderly.consistent.eq_of_id hp hp₀ (hid.symm.trans hm₀.1.symm) ▸ hm₀)
      refine (h.level p hp).imp_right (exists_mem_set hc fun hout => ?_)
      exact absurd hout.2.2.1 hne

omit h

omit [DecidableEq ID] in
lemma Orderly.matches_of_remainder (h : Orderly cfg s) (hc : c ∈ s.refunds) {p : Payment ID}
    (hp : p ∈ s.rows) (hid : c.row.id = p.id) (hsame : c.row.refundedMinor = p.refundedMinor)
    (hpos : 0 < c.amount) : c.Matches p := by
  refine ⟨hid.symm, ?_, hsame.symm⟩
  obtain ⟨-, hcharged⟩ := h.consistent.refundable hc hp hid.symm
  have htotal := (h.consistent.refunds c hc).total_le
  rw [← (h.consistent.charged_eq hc hp hid.symm).1, max_eq_left (h.fares.rows p hp),
    RefundCall.newTotal, hsame] at htotal
  cases hst : p.status with
  | settled => exact .inl rfl
  | partiallyRefunded => exact .inr rfl
  | refunded =>
    have hfull := (h.consistent.rows p hp).refunded hst
    omega
  | _ =>
    rw [hst] at hcharged
    cases hcharged

lemma RefundInv.updateRefund (h : RefundInv cfg s) (hord : Orderly cfg s')
    (hstep : s.updateRefund j = some s') : RefundInv cfg s' := by
  obtain ⟨c, tb, hc, hpc, ⟨p, r, hp, hm, rfl⟩ | ⟨hnone, r, rfl⟩⟩ := updateRefund_cases hstep
  · exact h.updateRows hc hpc hp hm rfl hord
  · refine h.setRefund hc hord rfl rfl rfl (fun p hp hout => ?_) fun hun => Bool.noConfusion hun
    obtain ⟨-, hpos, hid, hsame, -⟩ := hout
    exact absurd (h.orderly.matches_of_remainder (mem_of_getElem? hc) hp hid hsame hpos)
      (hnone p hp)

lemma RefundInv.postRefund (hsha : Injective cfg.sha16) (h : RefundInv cfg s)
    (hord : Orderly cfg s') {r : Ledger.Replies} (hok : Undisturbed cfg s (.postRefund j r))
    (hstep : s.postRefund cfg j r = some s') : RefundInv cfg s' := by
  obtain ⟨c, b, res, hc, hpc, hout, rfl⟩ := postRefund_cases hstep
  obtain ⟨hheard, hquiet⟩ := hok c hc
  have hidle : ∀ p ∈ s.rows, ¬ s.Outstanding cfg p c := by
    intro p _ hun
    rw [Outstanding, unsettled_loaded hpc] at hun
    exact Bool.noConfusion hun.1
  cases hout with
  | posted hfresh _ hafter =>
    obtain ⟨hsame, hquiet⟩ := hquiet hfresh
    have hpos : 0 < c.amount :=
      (h.orderly.consistent.refunds c (mem_of_getElem? hc)).loaded hpc
    exact h.post hsha hc hpc hord (reversals_add hafter rfl) rfl (Int.toNat_of_nonneg hpos.le) rfl
      rfl hsame hquiet
  | repeated hmem hafter =>
    refine h.setRefund hc hord (reversals_congr hafter) rfl rfl
      (fun p hp hun => absurd hun (hidle p hp)) fun _ _ => ?_
    exact ⟨_, mem_filter.mpr ⟨hmem, decide_eq_true rfl⟩, rfl⟩
  | failed e hafter =>
    exact h.setRefund hc hord (reversals_congr hafter) rfl rfl
      (fun p hp hun => absurd hun (hidle p hp)) fun hun => Bool.noConfusion hun
  | unheard e hlost => exact absurd hlost hheard

lemma RefundInv.step (hsha : Injective cfg.sha16) (hinj : Injective cfg.newID)
    (h : RefundInv cfg s) {e : Event} (hok : RefundCareful cfg s e)
    (hstep : step cfg s e = some s') : RefundInv cfg s' := by
  have hord := h.orderly.step hinj hok.1 hstep
  cases e with
  | beginPayment key subject privileged body now =>
    obtain rfl | ⟨c, -, -, -, -, rfl⟩ := beginPayment_cases hstep
    · exact h
    · exact h.congr hord rfl rfl rfl
  | lock i =>
    obtain ⟨c, -, -, -, rfl⟩ := lock_cases hstep
    exact h.congr hord rfl rfl rfl
  | resolve i =>
    obtain ⟨c, -, -, rfl⟩ := resolve_cases hstep
    exact h.congr hord rfl rfl rfl
  | price i =>
    obtain ⟨c, q, charge, -, -, -, rfl⟩ := price_cases hstep
    exact h.congr hord rfl rfl rfl
  | insert i =>
    obtain ⟨c, q, -, -, ⟨r, rfl⟩ | ⟨-, -, ⟨-, rfl⟩ | ⟨-, rfl⟩⟩⟩ := insert_cases hstep
    all_goals exact h.congr hord rfl rfl rfl
  | post i r =>
    obtain ⟨c, d, b, res, -, -, htransfer, rfl⟩ := post_cases hstep
    -- a fare that is posted is not debited to the account it is credited to
    refine h.congr hord ?_ rfl rfl
    exact reversals_other (Ledger.transfer_spec htransfer) fun hne => hne
  | switch i answer =>
    obtain ⟨c, d, -, -, -, rfl⟩ := switch_cases hstep
    exact h.congr hord rfl rfl rfl
  | commit i =>
    obtain ⟨c, d, hc, hd, -, rfl⟩ := commit_cases hstep
    exact h.finish hsha hord (h.orderly.consistent.drafts i c d hc hd).refundedMinor
  | abort i =>
    obtain ⟨c, -, -, rfl⟩ := abort_cases hstep
    exact h.congr hord rfl rfl rfl
  | beginRefund id requested =>
    obtain rfl | ⟨p, amount, -, -, -, -, -, rfl⟩ := beginRefund_cases hstep
    · exact h
    · refine h.addRefund hsha hord fun hun => ?_
      by_contra hpos
      simp only [RefundCall.unsettled, if_pos (not_le.mp hpos)] at hun
      cases hun
  | postRefund j r => exact h.postRefund hsha hord hok.2 hstep
  | updateRefund j => exact h.updateRefund hord hstep
  | crashRefund j =>
    obtain ⟨c, hc, ⟨hpc, rfl⟩ | ⟨⟨tb, hpc⟩, rfl⟩⟩ := crashRefund_cases hstep
    · refine h.setRefund hc hord rfl rfl rfl (fun p _ hout => ?_) fun hun => Bool.noConfusion hun
      rw [Outstanding, unsettled_loaded hpc] at hout
      exact Bool.noConfusion hout.1
    · refine h.setRefund hc hord rfl rfl rfl (fun _ _ _ => rfl) fun _ hpos => ?_
      exact h.posted c (mem_of_getElem? hc) (by rw [RefundCall.unsettled, hpc]) hpos
  | topUp subject key amount r =>
    obtain rfl | ⟨n, b, res, -, hout, rfl⟩ := topUp_cases hstep
    · exact h
    · exact h.congr hord (reversals_other hout fun _ =>
        Ledger.operatorRevenueAccount_ne.symm) rfl rfl
  | setEntitlements es =>
    cases hstep
    exact h.congr hord rfl rfl rfl

/-- **The reversals of a payment never exceed its charge, and are the refunded amount in its row**
unless a refund is between posting and UPDATE or crashed there. -/
theorem reversed_matches_row (hsha : Injective cfg.sha16)
    (hinj : Injective cfg.newID) {es : List Event} {s : State ID}
    (hok : Meets (step cfg) (RefundCareful cfg) init es)
    (hrun : run (step cfg) init es = some s) {p : Payment ID} (hp : p ∈ s.rows) :
    s.reversed cfg p.id ≤ p.effectiveCharged ∧
      ((∀ c ∈ s.refunds, c.row.id = p.id → c.unsettled = false) →
        s.reversed cfg p.id = p.refundedMinor) := by
  have h : RefundInv cfg s :=
    run_invariant (fun _ _ _ h hc hs => h.step hsha hinj hc hs) .init hok hrun
  have hcharge := max_eq_left (h.orderly.fares.rows p hp)
  rcases h.level p hp with heq | ⟨c, hc, hun, -, hid, -, htotal⟩
  · refine ⟨?_, fun _ => heq⟩
    rw [heq, ← hcharge]
    exact (h.orderly.consistent.rows p hp).le_charged
  · refine ⟨?_, fun hquiet => ?_⟩
    · rw [← htotal, ← hcharge, (h.orderly.consistent.charged_eq hc hp hid.symm).1]
      exact (h.orderly.consistent.refunds c hc).total_le
    · rw [hquiet c hc hid] at hun
      cases hun

/-! ## Refunds of one payment -/

def paidRun : List Event :=
  [topUpFirst 2000] ++ payment 0 "tap-1" 50 1700000000000000 false
    (answered .created) ++ [.commit 0]

/-- Two refunds of 30 at once, of which one is made, and one of the remainder. -/
def refundRun : List Event :=
  paidRun ++ [.beginRefund firstPayment (some 30), .beginRefund firstPayment (some 30),
      .postRefund 0 (answered .created), .postRefund 1 (answered .existing), .updateRefund 0,
      .updateRefund 1, .beginRefund firstPayment none, .postRefund 2 (answered .created),
      .updateRefund 2]

theorem reversed_matches_row_thrice : ∃ s, run (step defaultConfig) init refundRun = some s ∧
      ∃ p ∈ s.rows, p.status = .refunded ∧ p.effectiveCharged = 50 ∧
        s.reversed defaultConfig p.id ≤ p.effectiveCharged ∧
        s.reversed defaultConfig p.id = p.refundedMinor := by
  obtain ⟨s, hrun, p, hp, hstatus, hcharge, hquiet⟩ :
      ∃ s, run (step defaultConfig) init refundRun = some s ∧
        ∃ p ∈ s.rows, p.status = .refunded ∧ p.effectiveCharged = 50 ∧
          ∀ c ∈ s.refunds, c.row.id = p.id → c.unsettled = false := by
    decide +kernel
  obtain ⟨hle, heq⟩ := reversed_matches_row defaultConfig_sha16_injective
    defaultConfig_newID_injective (by decide +kernel) hrun hp
  exact ⟨s, hrun, p, hp, hstatus, hcharge, hle, heq hquiet⟩

def racingRun : List Event :=
  paidRun ++ [.beginRefund firstPayment (some 30), .beginRefund firstPayment (some 40),
      .postRefund 0 (answered .created), .postRefund 1 (answered .created), .updateRefund 0,
      .updateRefund 1]

def RefundPc.code : RefundPc ID → Option ℕ
  | .done r => some r.code
  | _ => none

/-- **Two refunds at once return more than was charged**: of 50 the ledger returns 70. -/
theorem concurrent_refunds_overpay : ∃ s, run (step defaultConfig) init racingRun = some s ∧
      s.refunds.map (fun c => c.pc.code) = [some 200, some 409] ∧
      ∃ p ∈ s.rows, p.effectiveCharged = 50 ∧ s.reversed defaultConfig p.id = 70 ∧
        p.refundedMinor = 30 := by
  decide +kernel

end H2Fleet.Commerce
