import H2Fleet.Commerce.Trading

/-!
# What a trade leaves behind

A trade stays `proposed` while its call moves inventory and money, and the last UPDATEs of the call
do not look at the status they overwrite.  So a cancellation does not stop a call in flight, which
writes `failed` or `executed` over `cancelled`; and after a crash it finds the trade `proposed`
although it may hold a draw-down or a posted transfer.

* `SagaOk` — the invariant: what a trade holds and whether its transfer is posted, by its place.
-/

namespace H2Fleet.Commerce

open List Option Function

variable {ID : Type} (cfg : TradeConfig ID)

def Trade.transferID (t : Trade ID) : ID := cfg.tid ("trade:" ++ t.idempotencyKey)

def Accepted (b : Books ID) (t : Trade ID) : Prop := ∃ u ∈ b.posted, u.id = t.transferID cfg

instance [DecidableEq ID] (b : Books ID) (t : Trade ID) : Decidable (Accepted cfg b t) :=
  inferInstanceAs (Decidable (∃ _ ∈ _, _))

def TradeState.Quiet (s : TradeState ID) : Prop := ∀ g ∈ s.trades, g.pc.inFlight = false
  deriving Decidable

@[mk_iff]
structure LeftNothing (b : Books ID) (g : Saga ID) : Prop where
  ended : g.pc.inFlight = false
  held : g.held = []
  unaccepted : ¬ Accepted cfg b g.trade

instance [DecidableEq ID] (b : Books ID) (g : Saga ID) : Decidable (LeftNothing cfg b g) :=
  decidable_of_iff' _ (leftNothing_iff cfg b g)

def Careful (s : TradeState ID) : TradeEvent → Prop
  | .cancel id => ∀ g ∈ s.trades, g.trade.id = id → g.trade.status = .proposed →
      LeftNothing cfg s.books g
  | .post _ r => ¬ r.PostingLost
  | .restoreFails _ => False
  | .create _ _ | .draw _ | .restore _ | .fail _ | .finalize _ | .crash _ | .otherTransfer _ _ _ _
  | .setStations _ => True

instance [DecidableEq ID] (s : TradeState ID) (e : TradeEvent) : Decidable (Careful cfg s e) := by
  unfold Careful; split <;> infer_instance

/-! ## The steps of a call -/

/-- **What a careful step of a call does** to its trade `g`. -/
inductive Advance (before after : List (Transfer ID)) (g : Saga ID) : Saga ID → Prop where
  | draw (draws : List StationDraw) : g.pc = .inserted → after = before →
      Advance before after g { g with pc := .drawn, held := draws }
  | short (r : TradeResponse) : g.pc = .inserted → after = before →
      Advance before after g { g with pc := .restoring [] r }
  | settle (id : ID) : g.pc = .drawn → (∀ u ∈ after, u ∈ before ∨ u.id = g.trade.transferID cfg) →
      Advance before after g { g with pc := .posted id }
  | refuse (r : TradeResponse) : g.pc = .drawn → after = before →
      Advance before after g { g with pc := .restoring g.held r }
  | restore (d : StationDraw) (rest : List StationDraw) (r : TradeResponse) :
      g.pc = .restoring (d :: rest) r → after = before →
      Advance before after g { g with pc := .restoring rest r, held := rest }
  | fail (r : TradeResponse) : g.pc = .restoring [] r → after = before →
      Advance before after g { g.withStatus .failed with pc := .done r }
  | finalize (id : ID) (r : TradeResponse) : g.pc = .posted id → after = before →
      Advance before after g
        { g with
          trade := { g.trade with status := .executed, tbTransferID := some id }
          pc := .done r }
  | crash : after = before → Advance before after g { g with pc := .crashed }

variable {cfg} {s s' : TradeState ID} {i : ℕ}

/-- The step is one of the call at `i`. -/
def Advances (cfg : TradeConfig ID) (s s' : TradeState ID) (i : ℕ) : Prop :=
  ∃ g g', s.trades[i]? = some g ∧ s'.trades = s.trades.set i g' ∧
    Advance cfg s.books.posted s'.books.posted g g'

lemma draw_advances (h : s.draw cfg i = some s') : Advances cfg s s' i := by
  obtain ⟨g, hg, h⟩ := bind_eq_some_iff.mp h
  cases hpc : g.pc with
  | inserted =>
    simp only [hpc] at h
    cases hcolumn : surplusColumn g.trade.kind with
    | none =>
      simp only [hcolumn] at h
      cases h
      exact ⟨g, _, hg, rfl, .draw g.held hpc rfl⟩
    | some c =>
      simp only [hcolumn] at h
      cases hdraw : drawDownSurplus s.stations g.trade.quantityKg c.1 with
      | none =>
        simp only [hdraw] at h
        cases h
        exact ⟨g, _, hg, rfl, .short _ hpc rfl⟩
      | some draws =>
        simp only [hdraw] at h
        cases h
        exact ⟨g, _, hg, rfl, .draw draws.1 hpc rfl⟩
  | drawn | restoring | posted | done | crashed => simp [hpc] at h

lemma restore_advances (h : s.restore i = some s') : Advances cfg s s' i := by
  obtain ⟨g, hg, h⟩ := bind_eq_some_iff.mp h
  split at h
  · rename_i d rest r hpc
    obtain ⟨c, -, rfl⟩ := map_eq_some_iff.mp h
    exact ⟨g, _, hg, rfl, .restore d rest r hpc rfl⟩
  · cases h

lemma fail_advances (h : s.fail i = some s') : Advances cfg s s' i := by
  obtain ⟨g, hg, h⟩ := bind_eq_some_iff.mp h
  split at h
  · rename_i r hpc
    cases h
    exact ⟨g, _, hg, rfl, .fail r hpc rfl⟩
  · cases h

lemma finalize_advances (h : s.finalize i = some s') : Advances cfg s s' i := by
  obtain ⟨g, hg, h⟩ := bind_eq_some_iff.mp h
  split at h
  · rename_i id hpc
    cases h
    exact ⟨g, _, hg, rfl, .finalize id _ hpc rfl⟩
  · cases h

lemma crash_advances (h : s.crash i = some s') : Advances cfg s s' i := by
  obtain ⟨g, hg, h⟩ := bind_eq_some_iff.mp h
  obtain ⟨-, ⟨⟩⟩ := ite_none_right_eq_some.mp h
  exact ⟨g, _, hg, rfl, .crash rfl⟩

@[simp] lemma LedgerOp.request_id (op : LedgerOp) (id : ID) (amount : ℕ) :
    (op.request id amount).id = id :=
  LedgerCall.request_id ⟨op, id, amount⟩

section Posting

variable [DecidableEq ID]

lemma post_advances {r : Ledger.Replies} (h : s.post cfg i r = some s') (hr : ¬ r.PostingLost) :
    Advances cfg s s' i := by
  obtain ⟨g, hg, h⟩ := bind_eq_some_iff.mp h
  cases hpc : g.pc with
  | drawn =>
    simp only [hpc, map_eq_some_iff] at h
    obtain ⟨⟨b, res⟩, hcall, rfl⟩ := h
    have hid : (g.trade.request cfg).id = g.trade.transferID cfg := LedgerOp.request_id _ _ _
    cases Ledger.transfer_spec hcall with
    | posted _ _ hafter =>
      refine ⟨g, _, hg, rfl, .settle _ hpc fun u hu => ?_⟩
      replace hu : u ∈ b.posted := hu
      rw [hafter, mem_append, mem_singleton] at hu
      rcases hu with hu | rfl
      · exact .inl hu
      · exact .inr hid
    | repeated _ hafter =>
      exact ⟨g, _, hg, rfl, .settle _ hpc fun u hu => .inl (hafter ▸ hu)⟩
    | failed e hafter => exact ⟨g, _, hg, rfl, .refuse _ hpc hafter⟩
    | unheard e hlost => exact absurd hlost hr
  | inserted | restoring | posted | done | crashed => simp [hpc] at h

lemma otherTransfer_cases (hsha : Injective cfg.sha16) {key : String} {op : LedgerOp} {amount : ℕ}
    {r : Ledger.Replies} (h : s.otherTransfer cfg key op amount r = some s') :
    s'.trades = s.trades ∧
      ∀ u ∈ s'.books.posted, u ∈ s.books.posted ∨ ∀ k, u.id ≠ cfg.tid ("trade:" ++ k) := by
  rw [TradeState.otherTransfer] at h
  obtain ⟨hkey, h⟩ := ite_none_left_eq_some.mp h
  obtain ⟨⟨b, res⟩, hcall, rfl⟩ := map_eq_some_iff.mp h
  refine ⟨rfl, fun u hu => ?_⟩
  replace hu : u ∈ b.posted := hu
  rcases (Ledger.transfer_spec hcall).after_cases with hafter | ⟨-, -, hafter⟩
  · exact .inl (hafter ▸ hu)
  · rw [hafter, mem_append, mem_singleton] at hu
    rcases hu with hu | rfl
    · exact .inl hu
    · refine .inr fun k hk => hkey ?_
      have hid : key = "trade:" ++ k :=
        (Ledger.deterministicTransferID_inj hsha).mp ((LedgerOp.request_id op _ _).symm.trans hk)
      simp [hid]

end Posting

lemma create_cases (cfg : TradeConfig ID) (s : TradeState ID) (key : String)
    (body : Option TradeBody) : s.create cfg key body = s ∨
      ∃ g, s.create cfg key body = { s with trades := s.trades ++ [g] } ∧ g.pc = .inserted ∧
        g.held = [] ∧ g.trade.status = .proposed ∧
        ∀ h ∈ s.trades, h.trade.idempotencyKey ≠ g.trade.idempotencyKey := by
  rw [TradeState.create]
  split
  · exact .inl rfl
  · split_ifs with hkey
    · exact .inl rfl
    · refine .inr ⟨_, rfl, rfl, rfl, rfl, fun h hh heq => hkey ⟨h, hh, heq⟩⟩

/-! ## The invariant -/

section Invariant

variable (cfg)

/-- What a trade holds and has posted, by the place its call has come to. -/
def PlaceOk (b : Books ID) (g : Saga ID) : Prop :=
  match g.pc with
  | .inserted => g.held = [] ∧ ¬ Accepted cfg b g.trade
  | .drawn => ¬ Accepted cfg b g.trade
  | .restoring rest _ => g.held = rest ∧ ¬ Accepted cfg b g.trade
  | .posted _ | .done _ | .crashed => True

structure SagaOk (b : Books ID) (g : Saga ID) : Prop where
  inFlight : g.pc.inFlight = true → g.trade.status = .proposed
  place : PlaceOk cfg b g
  ended : g.trade.status = .cancelled ∨ g.trade.status = .failed → g.held = [] ∧
    ¬ Accepted cfg b g.trade

/-- Trades have keys of their own, and a transfer under a trade's id is a trade's. -/
structure TradesOk (s : TradeState ID) : Prop where
  keys : ∀ (i j : ℕ) (g h : Saga ID), s.trades[i]? = some g → s.trades[j]? = some h →
    g.trade.idempotencyKey = h.trade.idempotencyKey → i = j
  claimed : ∀ u ∈ s.books.posted, ∀ key, u.id = cfg.tid ("trade:" ++ key) →
    ∃ g ∈ s.trades, g.trade.idempotencyKey = key
  sagas : ∀ g ∈ s.trades, SagaOk cfg s.books g

end Invariant

variable {b b' : Books ID} {g g' : Saga ID}

lemma SagaOk.congr (h : SagaOk cfg b g) (hb : Accepted cfg b' g.trade → Accepted cfg b g.trade) :
    SagaOk cfg b' g where
  inFlight := h.inFlight
  place := by
    have hplace := h.place
    unfold PlaceOk at hplace ⊢
    split <;> simp_all only [and_self, not_false_eq_true, imp_false]
  ended hs := ⟨(h.ended hs).1, fun hacc => (h.ended hs).2 (hb hacc)⟩

lemma accepted_of_posted_eq (h : b'.posted = b.posted) {t : Trade ID} :
    Accepted cfg b' t → Accepted cfg b t := by
  intro hacc
  rwa [Accepted, ← h]

lemma Advance.key {before after : List (Transfer ID)} (h : Advance cfg before after g g') :
    g'.trade.idempotencyKey = g.trade.idempotencyKey := by
  cases h <;> rfl

lemma Advance.posted {before after : List (Transfer ID)} (h : Advance cfg before after g g') :
    ∀ u ∈ after, u ∈ before ∨ u.id = g.trade.transferID cfg := by
  intro u hu
  cases h with
  | settle _ _ hafter => exact hafter u hu
  | draw _ _ hafter | short _ _ hafter | refuse _ _ hafter | restore _ _ _ _ hafter
  | fail _ _ hafter | finalize _ _ _ hafter | crash hafter => exact .inl (hafter ▸ hu)

lemma SagaOk.goOn (h : SagaOk cfg b g) (hflight : g.pc.inFlight = true)
    (htrade : g'.trade = g.trade) (hplace : PlaceOk cfg b' g') : SagaOk cfg b' g' := by
  have hproposed : g'.trade.status = .proposed := htrade ▸ h.inFlight hflight
  exact ⟨fun _ => hproposed, hplace, fun hs => by simp [hproposed] at hs⟩

lemma SagaOk.advance (h : SagaOk cfg b g) (hadv : Advance cfg b.posted b'.posted g g') :
    SagaOk cfg b' g' := by
  have hplace := h.place
  cases hadv with
  | draw draws hpc hb =>
    rw [PlaceOk, hpc] at hplace
    exact h.goOn (by rw [hpc]; rfl) rfl fun hacc => hplace.2 (accepted_of_posted_eq hb hacc)
  | short r hpc hb =>
    rw [PlaceOk, hpc] at hplace
    refine h.goOn (by rw [hpc]; rfl) rfl ⟨hplace.1, fun hacc => ?_⟩
    exact hplace.2 (accepted_of_posted_eq hb hacc)
  | settle id hpc _ => exact h.goOn (by rw [hpc]; rfl) rfl trivial
  | refuse r hpc hb =>
    rw [PlaceOk, hpc] at hplace
    exact h.goOn (by rw [hpc]; rfl) rfl ⟨rfl, fun hacc => hplace (accepted_of_posted_eq hb hacc)⟩
  | restore d rest r hpc hb =>
    rw [PlaceOk, hpc] at hplace
    exact h.goOn (by rw [hpc]; rfl) rfl ⟨rfl, fun hacc => hplace.2 (accepted_of_posted_eq hb hacc)⟩
  | fail r hpc hb =>
    -- everything has been given back by now
    rw [PlaceOk, hpc] at hplace
    exact ⟨fun hf => (nomatch hf), trivial,
      fun _ => ⟨hplace.1, fun hacc => hplace.2 (accepted_of_posted_eq hb hacc)⟩⟩
  | finalize id r hpc hb =>
    exact ⟨fun hf => (nomatch hf), trivial, fun hs => (nomatch hs)⟩
  | crash hb =>
    refine ⟨fun hf => (nomatch hf), trivial, fun hs => ⟨(h.ended hs).1, fun hacc => ?_⟩⟩
    exact (h.ended hs).2 (accepted_of_posted_eq hb hacc)

lemma TradesOk.advance (hsha : Injective cfg.sha16) (h : TradesOk cfg s)
    (hadv : Advances cfg s s' i) : TradesOk cfg s' := by
  obtain ⟨g, g', hg, htrades, hadv⟩ := hadv
  have hmem : ∀ (j : ℕ) (x : Saga ID), s'.trades[j]? = some x →
      ∃ y, s.trades[j]? = some y ∧ x.trade.idempotencyKey = y.trade.idempotencyKey := by
    intro j x hx
    rw [htrades] at hx
    rcases getElem?_set_cases hx with ⟨rfl, rfl⟩ | ⟨-, hx⟩
    · exact ⟨g, hg, hadv.key⟩
    · exact ⟨x, hx, rfl⟩
  constructor
  · intro j k x y hx hy hkey
    obtain ⟨x', hx', hkx⟩ := hmem j x hx
    obtain ⟨y', hy', hky⟩ := hmem k y hy
    exact h.keys j k x' y' hx' hy' (hkx.symm.trans (hkey.trans hky))
  · intro u hu key hid
    rw [htrades]
    refine exists_mem_set hg hadv.key.trans ?_
    rcases hadv.posted u hu with hu | hu
    · exact h.claimed u hu key hid
    · refine ⟨g, mem_of_getElem? hg, ?_⟩
      exact (String.append_right_inj _).mp
        ((Ledger.deterministicTransferID_inj hsha).mp (hu.symm.trans hid))
  · intro x hx
    obtain ⟨j, hj⟩ := mem_iff_getElem?.mp hx
    rw [htrades] at hj
    rcases getElem?_set_cases hj with ⟨rfl, rfl⟩ | ⟨hne, hj⟩
    · exact (h.sagas g (mem_of_getElem? hg)).advance hadv
    · -- the transfer of this call is not the transfer of another trade
      refine (h.sagas x (mem_of_getElem? hj)).congr ?_
      rintro ⟨u, hu, hid⟩
      rcases hadv.posted u hu with hu | hu
      · exact ⟨u, hu, hid⟩
      · have hkey := hid.symm.trans hu
        rw [Trade.transferID, Trade.transferID, TradeConfig.tid, TradeConfig.tid,
          Ledger.deterministicTransferID_inj hsha, String.append_right_inj] at hkey
        exact absurd (h.keys j i x g hj hg hkey) hne

lemma TradesOk.init {stations : List Station}
    (hb : ∀ u ∈ b.posted, ∀ key, u.id ≠ cfg.tid ("trade:" ++ key)) :
    TradesOk cfg (.init b stations) where
  keys i j g h hg := by simp [TradeState.init] at hg
  claimed u hu key hid := absurd hid (hb u hu key)
  sagas _ hg := nomatch hg

lemma TradesOk.create (h : TradesOk cfg s) (key : String) (body : Option TradeBody) :
    TradesOk cfg (s.create cfg key body) := by
  obtain heq | ⟨g, heq, hpc, hheld, hstatus, hkey⟩ := create_cases cfg s key body
  · rw [heq]
    exact h
  · rw [heq]
    constructor
    · intro j k x y hx hy hxy
      rcases getElem?_append_cases hx with ⟨rfl, rfl⟩ | hx'
      · rcases getElem?_append_cases hy with ⟨rfl, -⟩ | hy'
        · rfl
        · exact absurd hxy.symm (hkey y (mem_of_getElem? hy'))
      · rcases getElem?_append_cases hy with ⟨rfl, rfl⟩ | hy'
        · exact absurd hxy (hkey x (mem_of_getElem? hx'))
        · exact h.keys j k x y hx' hy' hxy
    · intro u hu k hid
      obtain ⟨x, hx, hxk⟩ := h.claimed u hu k hid
      exact ⟨x, mem_append_left _ hx, hxk⟩
    · intro x hx
      rw [mem_append, mem_singleton] at hx
      rcases hx with hx | rfl
      · exact h.sagas x hx
      · have hacc : ¬ Accepted cfg s.books x.trade := by
          rintro ⟨u, hu, hid⟩
          obtain ⟨y, hy, hyk⟩ := h.claimed u hu _ hid
          exact hkey y hy hyk
        refine ⟨fun _ => hstatus, ?_, fun _ => ⟨hheld, hacc⟩⟩
        rw [PlaceOk, hpc]
        exact ⟨hheld, hacc⟩

lemma TradesOk.cancel {id : String} (h : TradesOk cfg s) (hok : Careful cfg s (.cancel id)) :
    TradesOk cfg { s with trades := s.trades.map (Saga.cancel id) } := by
  have hkey : ∀ g : Saga ID, (g.cancel id).trade.idempotencyKey = g.trade.idempotencyKey := by
    intro g
    rw [Saga.cancel]
    split_ifs <;> rfl
  constructor
  · intro j k x y hx hy hxy
    rw [getElem?_map, map_eq_some_iff] at hx hy
    obtain ⟨x, hx, rfl⟩ := hx
    obtain ⟨y, hy, rfl⟩ := hy
    rw [hkey, hkey] at hxy
    exact h.keys j k x y hx hy hxy
  · intro u hu key hid
    obtain ⟨x, hx, hxk⟩ := h.claimed u hu key hid
    exact ⟨_, mem_map_of_mem hx, (hkey x).trans hxk⟩
  · intro x hx
    obtain ⟨g, hg, rfl⟩ := mem_map.mp hx
    rw [Saga.cancel]
    split_ifs with hhit
    · obtain ⟨hended, hheld, hacc⟩ := hok g hg hhit.1 hhit.2
      refine ⟨fun hf => ?_, ?_, fun _ => ⟨hheld, hacc⟩⟩
      · exact absurd (hended.symm.trans hf) Bool.false_ne_true
      · have hplace := (h.sagas g hg).place
        exact hplace
    · exact h.sagas g hg

/-! ## Final statuses -/

def TradeState.HasStatus (s : TradeState ID) (i : ℕ) (st : TradeStatus) : Prop :=
  ∃ g, s.trades[i]? = some g ∧ g.trade.status = st

lemma TradeState.HasStatus.advance {j : ℕ} {st : TradeStatus} (hj : s.HasStatus j st)
    (h : TradesOk cfg s) (hst : st.terminal = true) (hadv : Advances cfg s s' i) :
    s'.HasStatus j st := by
  obtain ⟨g, g', hg, htrades, hadv⟩ := hadv
  obtain ⟨x, hx, hxst⟩ := hj
  by_cases hij : j = i
  · subst hij
    cases hg.symm.trans hx
    have hself : (s.trades.set j g')[j]? = some g' := by
      rw [getElem?_set_self (List.getElem?_eq_some_iff.mp hg).1]
    refine ⟨g', htrades ▸ hself, ?_⟩
    have hidle : g.pc.inFlight ≠ true := by
      intro hf
      rw [(h.sagas g (mem_of_getElem? hg)).inFlight hf] at hxst
      subst hxst
      cases hst
    cases hadv with
    | draw _ hpc _ | short _ hpc _ | settle _ hpc _ | refuse _ hpc _ | restore _ _ _ hpc _
    | fail _ hpc _ | finalize _ _ hpc _ => exact absurd (by rw [hpc]; rfl) hidle
    | crash _ => exact hxst
  · exact ⟨x, htrades ▸ getElem?_set_other hij hx, hxst⟩

/-- A cancelled or failed trade holds no draw-down and no accepted transfer. -/
def TradeState.Compensated (cfg : TradeConfig ID) (s : TradeState ID) : Prop :=
  ∀ g ∈ s.trades, g.trade.status = .cancelled ∨ g.trade.status = .failed →
    g.held = [] ∧ ¬ Accepted cfg s.books g.trade

/-! ## Runs -/

section Runs

variable [DecidableEq ID]

lemma TradesOk.step (hsha : Injective cfg.sha16) {e : TradeEvent} (h : TradesOk cfg s)
    (hok : Careful cfg s e) (hstep : s.step cfg e = some s') : TradesOk cfg s' := by
  cases e with
  | create key body =>
    cases hstep
    exact h.create key body
  | draw i => exact h.advance hsha (draw_advances hstep)
  | post i r => exact h.advance hsha (post_advances hstep hok)
  | restore i => exact h.advance hsha (restore_advances hstep)
  | restoreFails i => exact absurd hok id
  | fail i => exact h.advance hsha (fail_advances hstep)
  | finalize i => exact h.advance hsha (finalize_advances hstep)
  | crash i => exact h.advance hsha (crash_advances hstep)
  | cancel id =>
    cases hstep
    exact h.cancel hok
  | otherTransfer key op amount r =>
    obtain ⟨htrades, hposted⟩ := otherTransfer_cases hsha hstep
    constructor
    · rw [htrades]
      exact h.keys
    · intro u hu k hid
      rw [htrades]
      exact h.claimed u ((hposted u hu).resolve_right fun hne => hne k hid) k hid
    · intro g hg
      rw [htrades] at hg
      refine (h.sagas g hg).congr ?_
      rintro ⟨u, hu, hid⟩
      exact ⟨u, (hposted u hu).resolve_right fun hne => hne _ hid, hid⟩
  | setStations stations =>
    cases hstep
    exact { h with }

lemma TradeState.HasStatus.step {j : ℕ} {st : TradeStatus} {e : TradeEvent} (hj : s.HasStatus j st)
    (h : TradesOk cfg s) (hst : st.terminal = true) (hsha : Injective cfg.sha16)
    (hok : Careful cfg s e) (hstep : s.step cfg e = some s') : s'.HasStatus j st := by
  cases e with
  | create key body =>
    cases hstep
    obtain ⟨x, hx, hxst⟩ := hj
    obtain heq | ⟨g, heq, -⟩ := create_cases cfg s key body
    · rw [heq]
      exact ⟨x, hx, hxst⟩
    · rw [heq]
      exact ⟨x, getElem?_append_old hx, hxst⟩
  | draw i => exact hj.advance h hst (draw_advances hstep)
  | post i r => exact hj.advance h hst (post_advances hstep hok)
  | restore i => exact hj.advance h hst (restore_advances hstep)
  | restoreFails i => exact absurd hok id
  | fail i => exact hj.advance h hst (fail_advances hstep)
  | finalize i => exact hj.advance h hst (finalize_advances hstep)
  | crash i => exact hj.advance h hst (crash_advances hstep)
  | cancel id =>
    cases hstep
    obtain ⟨x, hx, hxst⟩ := hj
    refine ⟨x.cancel id, by rw [getElem?_map, hx]; rfl, ?_⟩
    -- the UPDATE is for proposed rows only
    have hmiss : ¬ (x.trade.id = id ∧ x.trade.status = .proposed) := by
      rintro ⟨-, hproposed⟩
      rw [hproposed] at hxst
      subst hxst
      cases hst
    rw [Saga.cancel, if_neg hmiss]
    exact hxst
  | otherTransfer key op amount r =>
    obtain ⟨htrades, -⟩ := otherTransfer_cases hsha hstep
    obtain ⟨x, hx, hxst⟩ := hj
    exact ⟨x, htrades ▸ hx, hxst⟩
  | setStations stations =>
    cases hstep
    exact hj

/-- **The trade state machine.**  In every careful run from books without transfers of trades,
`executed`, `failed` and `cancelled` are final, and the latter two have left nothing behind. -/
theorem trade_status_final (hsha : Injective cfg.sha16) {b : Books ID}
    (hb : ∀ u ∈ b.posted, ∀ key, u.id ≠ cfg.tid ("trade:" ++ key)) {stations : List Station}
    {es es' : List TradeEvent} {s s' : TradeState ID}
    (hes : Meets (TradeState.step cfg) (Careful cfg) (.init b stations) es)
    (hrun : run (TradeState.step cfg) (.init b stations) es = some s)
    (hes' : Meets (TradeState.step cfg) (Careful cfg) s es')
    (hrun' : run (TradeState.step cfg) s es' = some s') :
    (∀ i st, st.terminal = true → s.HasStatus i st → s'.HasStatus i st) ∧ s'.Compensated cfg := by
  have hstep : ∀ (s : TradeState ID) (e : TradeEvent) (s' : TradeState ID), TradesOk cfg s →
      Careful cfg s e → TradeState.step cfg s e = some s' → TradesOk cfg s' :=
    fun s e s' h hok hstep => h.step hsha hok hstep
  have hs : TradesOk cfg s := run_invariant hstep (.init hb) hes hrun
  constructor
  · intro i st hst hi
    exact (run_invariant (fun s e s' (h : TradesOk cfg s ∧ s.HasStatus i st) hok hstep =>
      ⟨h.1.step hsha hok hstep, h.2.step h.1 hst hsha hok hstep⟩) ⟨hs, hi⟩ hes' hrun').2
  · intro g hg hended
    exact ((run_invariant hstep hs hes' hrun').sagas g hg).ended hended

end Runs

/-! ## One station -/

/-- Ids are told apart by their texts here. -/
def tradeConfig : TradeConfig String where
  sha16 := id
  newID n := "trade-" ++ n.repr
  fixed2 x := x.num.repr ++ ".00"

def oneStation : TradeState String := .init Ledger.bootstrapped [⟨"st-1", 8, 0⟩]

def sale : TradeBody := ⟨"h2-sale", 5, 500⟩

def saleRefused : Ledger.Replies where
  debitAccount := .answered .existing
  creditAccount := .answered (.rejected "exists with different code or flags")
  transfer := .unsent ""

def refusedSale : List TradeEvent :=
  [.create "k-1" (some sale), .draw 0, .post 0 saleRefused, .restore 0, .fail 0]

/-- A call crashes before it draws; its trade is cancelled after that. -/
def lateCancel : List TradeEvent :=
  [.create "k-2" (some sale), .crash 1, .cancel "trade-1"]

theorem trade_status_final_refused :
    ∃ s s', run (TradeState.step tradeConfig) oneStation refusedSale = some s ∧
      run (TradeState.step tradeConfig) s lateCancel = some s' ∧
      (∀ i st, st.terminal = true → s.HasStatus i st → s'.HasStatus i st) ∧
      s'.Compensated tradeConfig := by
  obtain ⟨s, hs, hcareful, s', hs', -⟩ :
      ∃ s, run (TradeState.step tradeConfig) oneStation refusedSale = some s ∧
        Meets (TradeState.step tradeConfig) (Careful tradeConfig) s lateCancel ∧
        ∃ s', run (TradeState.step tradeConfig) s lateCancel = some s' ∧ True := by
    decide +kernel
  refine ⟨s, s', hs, hs', trade_status_final injective_id ?_ ?_ hs hcareful hs'⟩
  · exact fun u hu => absurd hu not_mem_nil
  · decide +kernel

def TradeState.statuses (s : TradeState ID) : List TradeStatus := s.trades.map (·.trade.status)

/-- **A cancellation in flight.**  The call draws 5 kg for the cancelled trade and crashes; or the
ledger refuses, and the cancelled trade becomes a failed one. -/
theorem cancelled_trade_holds_and_changes : (∃ s, run (TradeState.step tradeConfig) oneStation
        [.create "k-1" (some sale), .cancel "trade-0", .draw 0, .crash 0] = some s ∧
      s.Quiet ∧ s.stations = [⟨"st-1", 3, 0⟩] ∧ s.statuses = [.cancelled] ∧
      s.trades.map (·.held) = [[⟨"st-1", 5⟩]]) ∧
      ∃ s s', run (TradeState.step tradeConfig) oneStation
          [.create "k-1" (some sale), .cancel "trade-0"] = some s ∧
        run (TradeState.step tradeConfig) s
          [.draw 0, .post 0 saleRefused, .restore 0, .fail 0] = some s' ∧
        s.statuses = [.cancelled] ∧ s'.statuses = [.failed] := by
  simp only [exists_and_left]
  decide +kernel

end H2Fleet.Commerce
