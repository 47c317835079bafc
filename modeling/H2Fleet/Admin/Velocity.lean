import H2Fleet.Admin.Conduct

/-!
# The per-email velocity cap

`overVelocity` lets an address file at most five requests in twenty-four hours, for all personas
together.  It counts with one statement, and the row is inserted with another.  The dedup lookup has
the same gap, and there a unique index closes it; but the index separates the personas of an
address, so six calls for six personas can all count before one of them inserts.
-/

namespace H2Fleet.Admin

open List
open Onboarding (day maxRequestsPerEmailPerDay)

open Request

/-! ## The cap -/

/-- A request of the address, filed in the twenty-four hours from `t` on. -/
def Request.inWindow (T : GoText) (email : String) (t : ℤ) (r : Request) : Bool :=
  T.lower r.email = T.lower email && t ≤ r.createdAt && r.createdAt ≤ t + day

variable {T : GoText}

lemma Request.inWindow_iff {email : String} {t : ℤ} {r : Request} : r.inWindow T email t = true ↔
      (T.lower r.email = T.lower email ∧ t ≤ r.createdAt) ∧ r.createdAt ≤ t + day := by
  simp [inWindow]

lemma Request.recentFor_iff {email : String} {since : ℤ} {r : Request} :
    r.recentFor T email since = true ↔ T.lower r.email = T.lower email ∧ since ≤ r.createdAt := by
  simp [recentFor]

/-- At most five requests of an address in any twenty-four hours. -/
def Capped (T : GoText) (rows : List Request) : Prop :=
  ∀ email t, rows.countP (inWindow T email t) ≤ maxRequestsPerEmailPerDay

/-- The INSERT is executed and meets no pending request of persona and address. -/
def Inserts (cfg : Config) (w : World) (req : NewRequest) (x : Choice) : Prop :=
  x.fault ≠ .refused ∧ ¬ w.requests.any (pendingFor cfg.text req.persona req.email)
  deriving Decidable

/-- A call whose INSERT is next: its request, and when it has counted. -/
def counted : Call Answer Reply → Option (NewRequest × ℤ × ℕ)
  | ⟨⟨.countRecent _ since, .ok n⟩ :: _, .ask (.insert req) _⟩ => some (req, since, n)
  | _ => none

/-- No other request of the address was inserted between a call's count and its INSERT: rows are
never deleted. -/
def Undisturbed (cfg : Config) (p : Calls) : Event → Prop
  | .next c x => ∀ k ∈ (p.calls c).bind counted, Inserts cfg p.shared k.1 x →
      p.shared.requests.countP (recentFor cfg.text k.1.email k.2.1) = k.2.2
  | _ => True

instance (cfg : Config) (p : Calls) (ev : Event) : Decidable (Undisturbed cfg p ev) := by
  rcases ev <;> dsimp only [Undisturbed] <;> infer_instance

/-! ## What the steps do to it -/

def Request.filed (r : Request) : String × ℤ := (r.email, r.createdAt)

lemma Request.filed_swept (r : Request) (before now : ℤ) :
    (r.swept before now).filed = r.filed := by
  unfold swept
  split_ifs <;> rfl

lemma World.Writes.filed {w : World} {q : Query} {rows : List Request} (h : w.Writes q rows)
    (hq : ∀ req, q ≠ .insert req) : rows.map filed = w.requests.map filed := by
  have hset : ∀ {id : ℕ} {r r' : Request}, w.requests[id]? = some r → r'.filed = r.filed →
      (w.requests.set id r').map Request.filed = w.requests.map Request.filed := by
    intro id r r' hr hfiled
    obtain ⟨hid, rfl⟩ := List.getElem?_eq_some_iff.mp hr
    rw [map_set, hfiled]
    have hid' : id < (w.requests.map Request.filed).length := by simpa using hid
    have hself := set_getElem_self hid'
    rwa [getElem_map] at hself
  cases h with
  | same => rfl
  | inserted req uuid => exact absurd rfl (hq req)
  | decided id status sub decidedBy reason r hr => exact hset hr rfl
  | merged id key value r hr => exact hset hr rfl
  | swept before =>
    rw [map_map]
    exact map_congr_left fun r _ => r.filed_swept before w.now

variable {w w' : World} {req : NewRequest} {cfg : Config}

lemma World.answer_insert {x : Choice} {a : Answer (.insert req)}
    (h : w.answer cfg (.insert req) x = some (w', a)) :
    w'.requests = if Inserts cfg w req x then w.requests ++ [req.row x.uuid w.now] else
    w.requests := by
  by_cases hx : x.fault = .refused
  · rw [World.answer_refused h hx, if_neg fun hins => hins.1 hx]
  · obtain ⟨a', hp⟩ := World.answer_executed h hx
    simp only [perform] at hp
    split_ifs at hp with hany <;> rw [Option.some.injEq, Prod.mk.injEq] at hp <;> rw [← hp.1]
    · rw [if_neg fun hins => hins.2 hany]
    · rw [if_pos ⟨hx, hany⟩]

/-! ## The invariant -/

lemma Capped.of_filed {rows rows' : List Request} (h : Capped T rows)
    (hfiled : rows'.map filed = rows.map filed) : Capped T rows' := by
  intro email t
  have hcount : ∀ l : List Request, l.countP (inWindow T email t) = (l.map filed).countP fun k =>
      T.lower k.1 = T.lower email && t ≤ k.2 && k.2 ≤ t + day := fun l => by
    rw [countP_map]
    rfl
  rw [hcount, hfiled, ← hcount]
  exact h email t

/-- A window with the new request ends after it, so the others were counted. -/
lemma Capped.insert {rows : List Request} {uuid : ℕ} {now since : ℤ} (h : Capped T rows)
    (hsince : since ≤ now - day)
    (hcount : rows.countP (recentFor T req.email since) < maxRequestsPerEmailPerDay) :
    Capped T (rows ++ [req.row uuid now]) := by
  intro email t
  rw [countP_append, countP_singleton]
  split_ifs with hin
  · have hwindow : (T.lower req.email = T.lower email ∧ t ≤ now) ∧ now ≤ t + day :=
      inWindow_iff.mp hin
    have hle : rows.countP (inWindow T email t) ≤ rows.countP (recentFor T req.email since) := by
      refine countP_mono_left fun r _ hr => ?_
      rw [inWindow_iff] at hr
      rw [recentFor_iff]
      exact ⟨hr.1.1.trans hwindow.1.1.symm, by omega⟩
    omega
  · exact h email t

/-- The table is capped, the rule kept, and no clock was read in the future. -/
structure Paced (cfg : Config) (p : Calls) : Prop where
  capped : Capped cfg.text p.shared.requests
  obeys : p.Obeys rule promise
  past : ∀ c call, p.calls c = some call → ∀ t, (⟨.now, t⟩ : Exchange Answer) ∈ call.hist →
    t ≤ p.shared.now

lemma World.answer_now {x : Choice} {t : ℤ} (h : w.answer cfg .now x = some (w', t)) :
    t = w.now := by
  rcases World.answer_or_failure h with hp | hf
  · exact (congrArg Prod.snd (Option.some.inj hp)).symm
  · cases hf

variable {p p' : Calls}

lemma past_step {ev : Event} (hp : Paced cfg p) (h : step cfg p ev = some p') :
    ∀ c call, p'.calls c = some call → ∀ t, (⟨.now, t⟩ : Exchange Answer) ∈ call.hist →
      t ≤ p'.shared.now := by
  cases Service.step_move h with
  | start c e hfree =>
    intro d call hd t ht
    rcases update_call_cases hd with ⟨-, rfl⟩ | ⟨-, hd⟩
    · cases ht
    · exact hp.past d call hd t ht
  | ambient d w hw =>
    simp only [service, World.tick, Option.some.injEq] at hw
    intro c call hc t ht
    have hle := hp.past c call hc t ht
    rw [← hw]
    exact hle.trans (by simp)
  | next c x hist q k w a hcall hanswer =>
    obtain ⟨-, hnow⟩ := World.answer_writes hanswer
    intro d call hd t ht
    rw [hnow]
    rcases update_call_cases hd with ⟨-, rfl⟩ | ⟨-, hd⟩
    · rcases mem_cons.mp ht with heq | ht
      · cases heq
        exact (World.answer_now hanswer).le
      · exact hp.past c _ hcall t ht
    · exact hp.past d call hd t ht

lemma Paced.next {ev : Event} (hp : Paced cfg p) (hok : Undisturbed cfg p ev)
    (h : step cfg p ev = some p') : Paced cfg p' := by
  refine ⟨?_, hp.obeys.step (program_safe cfg) h, past_step hp h⟩
  cases Service.step_move h with
  | start c e hfree => exact hp.capped
  | ambient d w hw =>
    simp only [service, World.tick, Option.some.injEq] at hw
    rw [← hw]
    exact hp.capped
  | next c x hist q k w a hcall hanswer =>
    by_cases hq : ∃ req, q = .insert req
    · obtain ⟨req, rfl⟩ := hq
      have hrows := World.answer_insert hanswer
      split_ifs at hrows with hins
      · -- the call has counted fewer than five, and its count is still right
        obtain ⟨n, t, rest, rfl, hn⟩ := (hp.obeys c _ hcall).2.1
        have hmem : (req, t - day, n) ∈ (p.calls c).bind counted := by
          rw [hcall]
          rfl
        have hcount : p.shared.requests.countP (recentFor cfg.text req.email (t - day)) = n :=
          hok _ hmem hins
        have hnow := hp.past c _ hcall t (by simp)
        rw [hrows]
        exact hp.capped.insert (sub_le_sub_right hnow day) (hcount ▸ hn)
      · rw [hrows]
        exact hp.capped
    · push Not at hq
      exact hp.capped.of_filed ((World.answer_writes hanswer).1.filed hq)

/-- **The velocity cap.**  In every undisturbed run from an empty table no address has more than
five requests in twenty-four hours. -/
theorem velocity_cap (cfg : Config) (realm : Realm) (now : ℤ) {evs : List Event}
    (hok : Meets (step cfg) (Undisturbed cfg) (start realm now) evs) :
    Throughout (step cfg) (fun p => Capped cfg.text p.shared.requests) (start realm now) evs := by
  have hinit : Paced cfg (start realm now) :=
    ⟨fun email t => by simp [start, World.initial], nofun, nofun⟩
  exact hok.throughout (fun _ hp => hp.capped) (fun _ _ _ hp => hp.next) hinit

/-! ## Six personas at once -/

/-- An intake for the persona of a path segment, for one address. -/
def intakeFor (key : String) : Entry :=
  .intake key (.ok ⟨"Victim@example.com", "Vic", "Depot", "AB-1234", ""⟩)

/-- Start, look up, read the clock, count. -/
def countFor (c : ℕ) (key : String) : List Event :=
  [.start c (intakeFor key), .next c {}, .next c {}, .next c {}]

/-- An intake from its start to its INSERT. -/
def fileFor (c : ℕ) (key : String) : List Event := countFor c key ++ [.next c {}]

/-- Five personas file one after another, and the sixth counts five. -/
def fiveFiled : List Event :=
  fileFor 0 "driver" ++ fileFor 1 "operator" ++ fileFor 2 "station-staff" ++ fileFor 3
    "advertiser" ++ fileFor 4 "data-partner" ++ countFor 5 "gov-viewer"

theorem five_filed_capped :
    ∃ p, run (step plainConfig) (start ⟨[], []⟩ 0) fiveFiled = some p ∧
      p.shared.requests.length = 5 ∧
      Throughout (step plainConfig) (fun p => Capped asciiText p.shared.requests) (start ⟨[], []⟩ 0)
        fiveFiled := by
  obtain ⟨p, hrun, hlen⟩ : ∃ p, run (step plainConfig) (start ⟨[], []⟩ 0) fiveFiled = some p ∧
      p.shared.requests.length = 5 := by
    decide +kernel
  exact ⟨p, hrun, hlen, velocity_cap plainConfig ⟨[], []⟩ 0 (by decide +kernel)⟩

/-- **The race.**  Six calls for six personas of one address count before any inserts. -/
theorem six_personas_filed : (run (step plainConfig) (start ⟨[], []⟩ 0)
      (countFor 0 "driver" ++ countFor 1 "operator" ++ countFor 2 "station-staff" ++
        countFor 3 "advertiser" ++ countFor 4 "data-partner" ++ countFor 5 "gov-viewer" ++
        [.next 0 {}, .next 1 {}, .next 2 {}, .next 3 {}, .next 4 {}, .next 5 {}])).map
      (fun p => p.shared.requests.countP (inWindow asciiText "victim@example.com" 0)) = some 6 := by
  decide +kernel

end H2Fleet.Admin
