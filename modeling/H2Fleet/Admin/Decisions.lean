import H2Fleet.Admin.Conduct
import H2Fleet.Core.Slots

/-!
# One decision for each onboarding request

`decide` loads a request, refuses one that is not pending, and then rejects it, or provisions an
account and marks it completed.  `provisionCitizen` does the latter for a pending row it has found
or filed.  The UPDATE is unconditional, and Keycloak stands between the guard and it.  So an
approval that overlaps a rejection, or a sweep, decides a second time.
-/

namespace H2Fleet.Admin

open List Option Function World

/-! ## The conditions -/

/-- The UPDATE of `Decide` that marks a request completed is executed. -/
def Finalized (_ : World) (q : Query) (x : Choice) : Prop :=
  ∀ d ∈ q.decision, d.2 = .completed → x.fault ≠ .refused
  deriving Decidable

/-- Nobody decides a request between the read of a call and its UPDATE. -/
def Decisive (w : World) (q : Query) (x : Choice) : Prop :=
  ∀ d ∈ q.decision, x.fault ≠ .refused → ∀ r ∈ w.requests[d.1]?, r.status = .pending ∨
    r.status = d.2
  deriving Decidable

def Kept (cfg : Config) (p : Calls) (ev : Event) : Prop :=
  ∀ p', step cfg p ev = some p' → ∀ (id : ℕ) (r r' : Request), p.shared.requests[id]? = some r →
    p'.shared.requests[id]? = some r' → r'.status = r.status ∨ r.status = .pending

/-- Some call has granted the role of its persona on account of the request. -/
def GrantedFor (p : Calls) (id : ℕ) : Prop := ∃ c call, p.calls c = some call ∧ Granted call.hist id

/-- With nothing in flight and no Keycloak error, exactly the completed requests got the role. -/
def Settled (p : Calls) : Prop :=
  p.Quiet → (∀ c call, p.calls c = some call → ¬ Failed call.hist) →
    ∀ (id : ℕ) (r : Request), p.shared.requests[id]? = some r →
    (GrantedFor p id ↔ r.status = .completed)

/-! ## Statuses -/

/-- Where the status of a row comes from, after a query. -/
inductive StatusFrom (w : World) (id : ℕ) (r' : Request) : Query → Prop
  | kept (q : Query) (r : Request) (hr : w.requests[id]? = some r) (h : r'.status = r.status) :
      StatusFrom w id r' q
  | filed (q : Query) (hid : id = w.requests.length) (h : r'.status = .pending) :
      StatusFrom w id r' q
  | expired (q : Query) (r : Request) (hr : w.requests[id]? = some r)
      (hpending : r.status = .pending) (h : r'.status = .expired) : StatusFrom w id r' q
  | decided (r : Request) (hr : w.requests[id]? = some r) (sub decidedBy reason : String) :
      StatusFrom w id r' (.decide id r'.status sub decidedBy reason)

variable {id : ℕ}

variable {w w' : World} {q : Query} {cfg : Config} {x : Choice} {r : Request} {p p' : Calls}
  {h : History} {a : Answer q}

lemma World.Writes.status {rows : List Request} (h : w.Writes q rows) {r' : Request}
    (hr' : rows[id]? = some r') : StatusFrom w id r' q := by
  cases h with
  | same => exact .kept q r' hr' rfl
  | inserted req uuid =>
    rcases getElem?_append_cases hr' with ⟨hid, rfl⟩ | hold
    · exact .filed _ hid rfl
    · exact .kept _ r' hold rfl
  | decided id' status sub decidedBy reason r hr =>
    rcases getElem?_set_cases hr' with ⟨rfl, rfl⟩ | ⟨-, hold⟩
    · exact .decided r hr sub decidedBy reason
    · exact .kept _ r' hold rfl
  | merged id' key value r hr =>
    rcases getElem?_set_cases hr' with ⟨rfl, rfl⟩ | ⟨-, hold⟩
    · exact .kept _ r hr rfl
    · exact .kept _ r' hold rfl
  | swept before =>
    rw [getElem?_map, map_eq_some_iff] at hr'
    obtain ⟨r, hr, rfl⟩ := hr'
    by_cases hold : r.status = .pending ∧ r.createdAt < before
    · exact .expired _ r hr hold.1 (by simp [Request.swept, hold])
    · exact .kept _ r hr (by simp [Request.swept, hold])

lemma World.Writes.length_le {rows : List Request} (h : w.Writes q rows) :
    w.requests.length ≤ rows.length := by
  cases h <;> simp

lemma World.answer_decide {status : Status} {sub decidedBy reason : String}
    {a : Answer (.decide id status sub decidedBy reason)}
    (h : w.answer cfg (.decide id status sub decidedBy reason) x = some (w', a))
    (hx : x.fault ≠ .refused) (hr : w.requests[id]? = some r) :
    ∃ r', w'.requests[id]? = some r' ∧ r'.status = status := by
  obtain ⟨a', hp⟩ := answer_executed h hx
  simp only [perform, hr, some.injEq, Prod.mk.injEq] at hp
  refine ⟨r.decided status sub decidedBy reason w.now, ?_, rfl⟩
  rw [← hp.1]
  obtain ⟨hid, -⟩ := List.getElem?_eq_some_iff.mp hr
  exact getElem?_set_self hid

lemma World.answer_status (h : w.answer cfg q x = some (w', a)) (hok : Decisive w q x)
    {r' : Request} (hr : w.requests[id]? = some r) (hr' : w'.requests[id]? = some r') :
    r'.status = r.status ∨ r.status = .pending := by
  by_cases hx : x.fault = .refused
  · rw [answer_refused h hx, hr, some.injEq] at hr'
    exact .inl (by rw [hr'])
  · cases (answer_writes h).1.status hr' with
    | kept _ r₀ hr₀ heq =>
      cases hr.symm.trans hr₀
      exact .inl heq
    | filed _ hid _ =>
      rw [hid, getElem?_eq_none_iff.mpr le_rfl] at hr
      cases hr
    | expired _ r₀ hr₀ hpending _ =>
      cases hr.symm.trans hr₀
      exact .inr hpending
    | decided r₀ hr₀ sub decidedBy reason => exact (hok _ rfl hx r hr).symm.imp_left Eq.symm

/-! ## Kept and decisive -/

variable {ev : Event}

lemma kept_of_decisive (h : step cfg p ev = some p') (hok : p.Answering Decisive ev) :
    Kept cfg p ev := by
  intro p'' h'' id r r' hr hr'
  cases h.symm.trans h''
  cases Service.step_move h with
  | start c e hfree => exact .inl (by rw [some.inj (hr.symm.trans hr')])
  | ambient d w hw =>
    simp only [service, tick, some.injEq] at hw
    rw [← hw] at hr'
    exact .inl (by rw [some.inj (hr.symm.trans hr')])
  | next c x hist q k w a hcall hanswer =>
    rw [Pool.answering_next hcall] at hok
    exact answer_status hanswer hok hr hr'

lemma decisive_of_kept (h : step cfg p ev = some p') (hkept : Kept cfg p ev) :
    p.Answering Decisive ev := by
  cases Service.step_move h with
  | start c e hfree => trivial
  | ambient d w hw => trivial
  | next c x hist q k w a hcall hanswer =>
    rw [Pool.answering_next hcall]
    intro d hd hx r hr
    obtain ⟨sub, decidedBy, reason, rfl⟩ := Query.of_mem_decision hd
    obtain ⟨r', hr', hstatus⟩ := answer_decide hanswer hx hr
    rcases hkept _ h d.1 r r' hr hr' with heq | hpending
    · exact .inr (heq.symm.trans hstatus)
    · exact .inl hpending

/-! ## Grants and completions -/

lemma completed_cons {ex : Exchange Answer} :
    Completed id (ex :: h) ↔ completes id ex ∨ Completed id h := by
  simp [Completed]

lemma of_completes (h : completes id ⟨q, a⟩) :
    ∃ sub decidedBy reason, q = .decide id .completed sub decidedBy reason := by
  cases q with
  | decide id' status sub decidedBy reason =>
    cases status with
    | completed =>
      obtain rfl : id' = id := h
      exact ⟨sub, decidedBy, reason, rfl⟩
    | _ => cases h
  | _ => cases h

lemma granted_of_completed (hl : Lawful rule h) (hc : Completed id h) : Granted h id := by
  obtain ⟨⟨q, a⟩, hex, hcompletes⟩ := hc
  obtain ⟨old, hsuf, hrule⟩ := hl.of_mem hex
  obtain ⟨sub, decidedBy, reason, rfl⟩ := of_completes hcompletes
  obtain ⟨persona, hmem, hens⟩ := hrule
  obtain ⟨new, rfl⟩ := hsuf
  refine ⟨persona, ?_, hens.of_suffix (suffix_append _ _)⟩
  rw [subjects, filterMap_append, mem_append]
  exact .inr hmem

lemma concerns_failure {error : String} (h : failure error q = some a) :
    concerns ⟨q, a⟩ = none := by
  cases q <;> first | rfl | (obtain rfl := some.inj h; rfl)

lemma World.answer_concerns (h : w.answer cfg q x = some (w', a)) {y : ℕ × Persona}
    (hy : concerns ⟨q, a⟩ = some y) : y.1 < w'.requests.length := by
  have hp : w.perform cfg q x = some (w', a) := by
    refine (answer_or_failure h).resolve_right fun hf => ?_
    rw [concerns_failure hf] at hy
    cases hy
  cases q with
  | get id =>
    simp only [perform] at hp
    cases hp
    cases hr : w.requests[id]? with
    | none => simp [concerns, hr] at hy
    | some r =>
      simp only [concerns, hr, some.injEq] at hy
      rw [← hy]
      exact (List.getElem?_eq_some_iff.mp hr).1
  | findPending persona email =>
    simp only [perform] at hp
    cases hp
    cases hr : w.requests.zipIdx.find? fun p => p.1.pendingFor cfg.text persona email with
    | none => simp [concerns, hr] at hy
    | some found =>
      simp only [concerns, hr, map_some, some.injEq] at hy
      rw [← hy]
      have hmem := mem_of_find?_eq_some hr
      exact (List.getElem?_eq_some_iff.mp (mk_mem_zipIdx_iff_getElem?.mp hmem)).1
  | insert req =>
    simp only [perform] at hp
    split_ifs at hp <;> simp only [some.injEq, Prod.mk.injEq] at hp <;> obtain ⟨rfl, rfl⟩ := hp
    · simp [concerns] at hy
    · simp only [concerns, some.injEq] at hy
      rw [← hy]
      simp
  | _ => cases hy

/-! ## The invariant -/

/-- Rule and promise are kept, and the completed requests are those that a call has marked. -/
structure Decided (p : Calls) : Prop where
  obeys : p.Obeys rule promise
  known : ∀ c call, p.calls c = some call → ∀ y ∈ subjects call.hist, y.1 < p.shared.requests.length
  marked : ∀ c call, p.calls c = some call → ∀ id, Completed id call.hist →
    ∃ r, p.shared.requests[id]? = some r ∧ r.status = .completed
  origin : ∀ (id : ℕ) (r : Request), p.shared.requests[id]? = some r → r.status = .completed →
    ∃ c call, p.calls c = some call ∧ Completed id call.hist

lemma completed_stays (h : w.answer cfg q x = some (w', a)) (hok : Decisive w q x)
    (hdone : ∃ r, w.requests[id]? = some r ∧ r.status = .completed) :
    ∃ r, w'.requests[id]? = some r ∧ r.status = .completed := by
  obtain ⟨r, hr, hstatus⟩ := hdone
  have hwrites := (answer_writes h).1
  have hid : id < w'.requests.length :=
    (List.getElem?_eq_some_iff.mp hr).1.trans_le hwrites.length_le
  have hr' := getElem?_eq_getElem hid
  refine ⟨_, hr', ?_⟩
  rcases answer_status h hok hr hr' with heq | hpending
  · rw [heq, hstatus]
  · rw [hstatus] at hpending
    cases hpending

section Next

variable {cfg : Config} {p : Calls} {c : ℕ} {x : Choice} {hist : History} {q : Query}
  {k : Answer q → Code Reply} {w : World} {a : Answer q}

lemma Decided.known_next (hp : Decided p) (hcall : p.calls c = some ⟨hist, .ask q k⟩)
    (hanswer : p.shared.answer cfg q x = some (w, a)) {d : ℕ} {call : Call Answer Reply}
    (hd : update p.calls c (some ⟨⟨q, a⟩ :: hist, k a⟩) d = some call) {y : ℕ × Persona}
    (hy : y ∈ subjects call.hist) : y.1 < w.requests.length := by
  have hwrites := (answer_writes hanswer).1
  rcases update_call_cases hd with ⟨rfl, rfl⟩ | ⟨-, hd⟩
  · obtain ⟨ex, hex, hc⟩ := mem_filterMap.mp hy
    rcases mem_cons.mp hex with rfl | hex
    · exact answer_concerns hanswer hc
    · have hold := hp.known d _ hcall y (mem_filterMap.mpr ⟨ex, hex, hc⟩)
      exact hold.trans_le hwrites.length_le
  · exact (hp.known d call hd y hy).trans_le hwrites.length_le

lemma Decided.marked_next (hp : Decided p) (hcall : p.calls c = some ⟨hist, .ask q k⟩)
    (hanswer : p.shared.answer cfg q x = some (w, a)) (hfin : Finalized p.shared q x)
    (hok : Decisive p.shared q x) {d : ℕ} {call : Call Answer Reply}
    (hd : update p.calls c (some ⟨⟨q, a⟩ :: hist, k a⟩) d = some call)
    (hdone : Completed id call.hist) : ∃ r, w.requests[id]? = some r ∧ r.status = .completed := by
  rcases update_call_cases hd with ⟨rfl, rfl⟩ | ⟨-, hd⟩
  · rcases completed_cons.mp hdone with hcompletes | hdone
    · obtain ⟨sub, decidedBy, reason, rfl⟩ := of_completes hcompletes
      obtain ⟨persona, hmem, -⟩ : Granted hist id := (hp.obeys d _ hcall).2.1
      have hr := getElem?_eq_getElem (hp.known d _ hcall _ hmem)
      exact answer_decide hanswer (hfin _ rfl rfl) hr
    · exact completed_stays hanswer hok (hp.marked d _ hcall id hdone)
  · exact completed_stays hanswer hok (hp.marked d call hd id hdone)

lemma Decided.origin_next (hp : Decided p) (hcall : p.calls c = some ⟨hist, .ask q k⟩)
    (hanswer : p.shared.answer cfg q x = some (w, a)) (hr : w.requests[id]? = some r)
    (hstatus : r.status = .completed) :
    ∃ d call, update p.calls c (some ⟨⟨q, a⟩ :: hist, k a⟩) d = some call ∧
    Completed id call.hist := by
  cases (answer_writes hanswer).1.status hr with
  | kept _ r₀ hr₀ heq =>
    obtain ⟨d, call, hd, hdone⟩ := hp.origin id r₀ hr₀ (heq ▸ hstatus)
    by_cases hdc : d = c
    · subst hdc
      cases hcall.symm.trans hd
      exact ⟨d, _, update_self _ _ _, completed_cons.mpr (.inr hdone)⟩
    · exact ⟨d, call, by rw [update_of_ne hdc, hd], hdone⟩
  | filed _ hid hpending => exact absurd (hpending.symm.trans hstatus) (by simp)
  | expired _ r₀ hr₀ hpending hexpired => exact absurd (hexpired.symm.trans hstatus) (by simp)
  | decided r₀ hr₀ sub decidedBy reason =>
    refine ⟨c, _, update_self _ _ _, completed_cons.mpr (.inl ?_)⟩
    rw [hstatus]
    rfl

end Next

/-- **Every decisive step keeps the invariant**, if what it completes is written. -/
lemma Decided.next (hp : Decided p) (hfin : p.Answering Finalized ev)
    (hok : p.Answering Decisive ev) (h : step cfg p ev = some p') : Decided p' := by
  have hprog := program_safe cfg
  have hobeys : p'.Obeys rule promise := hp.obeys.step hprog h
  cases Service.step_move h with
  | start c e hfree =>
    refine ⟨hobeys, fun d call hd => ?_, fun d call hd id hdone => ?_, fun id r hr hstatus => ?_⟩
    · rcases update_call_cases hd with ⟨-, rfl⟩ | ⟨-, hd⟩
      · simp [subjects]
      · exact hp.known d call hd
    · rcases update_call_cases hd with ⟨-, rfl⟩ | ⟨-, hd⟩
      · simp [Completed] at hdone
      · exact hp.marked d call hd id hdone
    · obtain ⟨d, call, hd, hdone⟩ := hp.origin id r hr hstatus
      have hne : d ≠ c := by
        rintro rfl
        rw [hfree] at hd
        cases hd
      exact ⟨d, call, by simp [update_of_ne hne, hd], hdone⟩
  | ambient d w hw =>
    simp only [service, tick] at hw
    cases hw
    exact { hp with obeys := hobeys }
  | next c x hist q k w a hcall hanswer =>
    rw [Pool.answering_next hcall] at hfin hok
    exact ⟨hobeys, fun d call hd y hy => hp.known_next hcall hanswer hd hy,
      fun d call hd id hdone => hp.marked_next hcall hanswer hfin hok hd hdone,
      fun id r hr hstatus => hp.origin_next hcall hanswer hr hstatus⟩

lemma Decided.settled (hp : Decided p) : Settled p := by
  intro hquiet hclean id r hr
  constructor
  · rintro ⟨c, call, hc, hgranted⟩
    obtain ⟨reply, hpromise⟩ := hp.obeys.returned hc (hquiet c call hc)
    rcases hpromise id hgranted with hfail | hdone
    · exact absurd hfail (hclean c call hc)
    · obtain ⟨r', hr', hstatus⟩ := hp.marked c call hc id hdone
      rwa [some.inj (hr.symm.trans hr')]
  · intro hstatus
    obtain ⟨c, call, hc, hdone⟩ := hp.origin id r hr hstatus
    exact ⟨c, call, hc, granted_of_completed (hp.obeys c call hc).1 hdone⟩

lemma Decided.start (realm : Realm) (now : ℤ) : Decided (Admin.start realm now) where
  obeys _ _ hc := nomatch hc
  known _ _ hc := nomatch hc
  marked _ _ hc := nomatch hc
  origin _ _ hr := nomatch hr

/-- **One decision takes effect**: in every run that executes the UPDATEs completing a request, only
pending requests change, and grants and completions agree, exactly when every UPDATE of `Decide`
finds the request pending or in the status it writes. -/
theorem one_decision_iff (cfg : Config) {realm : Realm} {now : ℤ} {evs : List Event} {p : Calls}
    (hrun : run (step cfg) (start realm now) evs = some p)
    (hfin : Meets (step cfg) (Pool.Answering Finalized) (start realm now) evs) :
    (Meets (step cfg) (Kept cfg) (start realm now) evs ∧
        Throughout (step cfg) Settled (start realm now) evs) ↔
      Meets (step cfg) (Pool.Answering Decisive) (start realm now) evs := by
  constructor
  · rintro ⟨hkept, -⟩
    exact hkept.of_run (fun s ev s' hs h => decisive_of_kept hs h) hrun
  · intro hdecisive
    refine ⟨hdecisive.of_run (fun s ev s' hs h => kept_of_decisive hs h) hrun, ?_⟩
    exact (meets_and.mpr ⟨hfin, hdecisive⟩).throughout (fun _ h => Decided.settled h)
      (fun s ev s' h hok hs => Decided.next h hok.1 hok.2 hs) (Decided.start realm now)

/-! ## An approval beside a rejection -/

def administrator : Caller := ⟨"adm-1", ["platform-admin"]⟩

/-- A request for the operator persona is filed: lookup, clock, count, insert. -/
def operatorFiled : List Event :=
  [.start 0 (.intake "operator" (.ok ⟨"ona@example.com", "Ona Ops", "Depot", "", ""⟩)),
    .next 0 {}, .next 0 {}, .next 0 {}, .next 0 {}]

/-- A decision loads the request and looks at the clock. -/
def loadedBy (c : ℕ) (decision : Entry) : List Event := [.start c decision, .next c {}, .next c {}]

/-- What an approval then asks, up to its UPDATE. -/
def operatorProvisioned (c : ℕ) : List Event :=
  [.next c { userID := "u-1" }, .next c { password := "s3cret" }, .next c {}, .next c {},
    .next c {}, .next c {}, .next c {}, .next c {}]

def statuses (p : Calls) : List Status := p.shared.requests.map Request.status

def reply (p : Calls) (c : ℕ) : Option Reply :=
  match p.calls c with
  | some ⟨_, .done r⟩ => some r
  | _ => none

def approvedAlone : List Event :=
  operatorFiled ++ loadedBy 1 (.approve administrator 0) ++ operatorProvisioned 1

/-- Approved alone, the request is completed, and every state on the way is settled. -/
theorem approval_alone_settles :
    ∃ p, run (step plainConfig) (start ⟨[], ["operator"]⟩ 0) approvedAlone = some p ∧
      statuses p = [.completed] ∧ Settled p := by
  obtain ⟨p, hrun, hstatus⟩ : ∃ p, run (step plainConfig) (start ⟨[], ["operator"]⟩ 0) approvedAlone
      = some p ∧ statuses p = [.completed] := by decide +kernel
  have hfin : Meets (step plainConfig) (Pool.Answering Finalized) (start ⟨[], ["operator"]⟩ 0)
      approvedAlone := by decide +kernel
  have hdecisive : Meets (step plainConfig) (Pool.Answering Decisive) (start ⟨[], ["operator"]⟩ 0)
      approvedAlone := by decide +kernel
  exact ⟨p, hrun, hstatus, ((one_decision_iff plainConfig hrun hfin).mpr hdecisive).2.last hrun⟩

/-- An approval and a rejection load the pending request; the approval completes it. -/
def approvedBesideRejection : List Event :=
  operatorFiled ++ loadedBy 1 (.approve administrator 0) ++
    loadedBy 2 (.reject administrator 0 (.ok "duplicate")) ++ operatorProvisioned 1

/-- **The race.**  The rejection then rejects the completed request; the account keeps the role. -/
theorem completed_request_rejected :
    (run (step plainConfig) (start ⟨[], ["operator"]⟩ 0) approvedBesideRejection).map statuses
      = some [.completed] ∧
    (run (step plainConfig) (start ⟨[], ["operator"]⟩ 0)
      (approvedBesideRejection ++ [.next 2 {}])).map
      (fun p => (statuses p, p.shared.realm.accounts.map (fun u => (u.email, u.roles)),
        [0, 1, 2].all fun c => (reply p c).isSome))
      = some ([.rejected], [("ona@example.com", ["operator"])], true) := by
  constructor <;> decide +kernel

end H2Fleet.Admin
