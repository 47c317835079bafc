import H2Fleet.Admin.Conduct

/-!
# Existing accounts keep their credentials

Anyone can file an intake for any address, so a handler that reset the password of the account
behind it would hand out other people's accounts.  The Keycloak client reports whether an account
existed, and `provision` sets a password only if it did not.  `Realm.Change` is everything a query
can do to the accounts.

A request whose answer was lost is a failure to the call, which then sets no password; the retry
finds the account, and sets none either.
-/

namespace H2Fleet.Admin

open World

/-! ## What a query does to the accounts -/

variable {f : Account → Account} {userID : String} {q : Query}

namespace Realm

open List Option

def credentials (realm : Realm) (userID : String) : List (Option (String × Bool)) :=
  (realm.accounts.filter (·.id = userID)).map Account.credential

inductive Change (realm : Realm) : Query → Realm → Prop
  | same (q : Query) : Change realm q realm
  | created (rep : UserRep) (id : String) (hfresh : FreshID realm id) :
      Change realm (.postUser rep) (realm.add id rep)
  | password (userID pw : String) : Change realm (.putPassword userID pw)
      (realm.modify userID fun u => { u with credential := some (pw, true) })
  | edited (q : Query) (userID : String) (f : Account → Account) (hid : ∀ u, (f u).id = u.id)
      (hcred : ∀ u, (f u).credential = u.credential) : Change realm q (realm.modify userID f)

lemma modify_ids {realm : Realm} (hid : ∀ u, (f u).id = u.id) :
    (realm.modify userID f).ids = realm.ids := by
  simp only [modify, ids, List.map_map]
  refine map_congr_left fun u _ => ?_
  by_cases hu : u.id = userID <;> simp [hu, hid]

/-- An edit that keeps the ids keeps the credentials of other accounts. -/
lemma modify_credentials {realm : Realm} {userID id : String} (hid : ∀ u, (f u).id = u.id)
    (hcred : id = userID → ∀ u, (f u).credential = u.credential) :
    (realm.modify userID f).credentials id = realm.credentials id := by
  simp only [credentials, modify]
  induction realm.accounts with
  | nil => rfl
  | cons u us ih =>
    have hid' : (if u.id = userID then f u else u).id = u.id := by split_ifs <;> simp [hid]
    rw [map_cons, filter_cons, filter_cons, hid']
    by_cases hu : u.id = id
    · simp only [hu, decide_true, if_true, map_cons, ih, cons.injEq, and_true]
      split_ifs with heq
      · exact hcred heq u
      · rfl
    · simpa [hu] using ih

lemma Change.ids_subset {realm realm' : Realm} (h : Change realm q realm') :
    ∀ id ∈ realm.ids, id ∈ realm'.ids := by
  intro id hmem
  cases h with
  | same => exact hmem
  | created rep new hfresh => simp only [add, ids, map_append, mem_append]; exact .inl hmem
  | password userID pw =>
    have hids : (realm.modify userID fun u => { u with credential := some (pw, true) }).ids
        = realm.ids := modify_ids fun _ => rfl
    rwa [hids]
  | edited _ userID f hid hcred => rwa [modify_ids hid]

lemma Change.credentials {realm realm' : Realm} (h : Change realm q realm') {id : String}
    (hmem : id ∈ realm.ids) (hq : ∀ pw, q ≠ .putPassword id pw) :
    realm'.credentials id = realm.credentials id := by
  cases h with
  | same => rfl
  | created rep new hfresh =>
    have hne : new ≠ id := fun heq => hfresh.1 (heq ▸ hmem)
    simp [Realm.credentials, add, hne]
  | password userID pw =>
    exact modify_credentials (fun _ => rfl) fun heq => absurd (by rw [heq]) (hq pw)
  | edited _ userID f hid hcred => exact modify_credentials hid fun _ => hcred

end Realm

variable {w w' : World}

lemma World.onAccount_realm {a : Except String Unit} (h : w.onAccount userID f = (w', a)) :
    w'.realm = w.realm ∨ w'.realm = w.realm.modify userID f := by
  rw [onAccount] at h
  split at h <;> rw [Prod.mk.injEq] at h
  · exact .inl (by rw [h.1])
  · exact .inr (by rw [← h.1])

variable {cfg : Config} {x : Choice}

lemma World.perform_change {a : Answer q} (h : w.perform cfg q x = some (w', a)) :
    w.realm.Change q w'.realm := by
  cases q with
  | postUser rep =>
    simp only [perform] at h
    split_ifs at h with htaken hfresh
    · rw [Option.some.injEq, Prod.mk.injEq] at h
      rw [← h.1]
      exact .same _
    · rw [Option.some.injEq, Prod.mk.injEq] at h
      rw [← h.1]
      exact .created rep x.userID hfresh
  | putPassword userID pw =>
    rcases onAccount_realm (Option.some.inj h) with hr | hr
    · rw [hr]
      exact .same _
    · rw [hr]
      exact .password userID pw
  | postRoleMapping | deleteRoleMapping | putActionsEmail | putUser =>
    rcases onAccount_realm (Option.some.inj h) with hr | hr <;> rw [hr]
    · exact .same _
    · exact .edited _ _ _ (fun _ => rfl) fun _ => rfl
  | insert req =>
    simp only [perform] at h
    split_ifs at h <;> (rw [Option.some.injEq, Prod.mk.injEq] at h; rw [← h.1]; exact .same _)
  | decide | mergeMeta =>
    simp only [perform] at h
    split at h <;> (rw [Option.some.injEq, Prod.mk.injEq] at h; rw [← h.1]; exact .same _)
  | _ =>
    simp only [perform, Option.some.injEq, Prod.mk.injEq] at h
    rw [← h.1]
    exact .same _

lemma World.answer_change {a : Answer q} (h : w.answer cfg q x = some (w', a)) :
    w.realm.Change q w'.realm := by
  rcases answer_world h with rfl | ⟨a', hp⟩
  · exact .same q
  · exact perform_change hp

/-! ## A call and the accounts it began with -/

/-- The accounts of the beginning are there, and the call has created none of them. -/
structure Untouched (known : List String) (c : ℕ) (p : Calls) : Prop where
  kept : ∀ id ∈ known, id ∈ p.shared.realm.ids
  fresh : ∀ call, p.calls c = some call → ∀ id, CreatedHere call.hist id → id ∉ known

lemma Untouched.step {known : List String} {c : ℕ} {p p' : Calls} {ev : Event}
    (hp : Untouched known c p) (h : step cfg p ev = some p') : Untouched known c p' := by
  cases Service.step_move h with
  | start d e hfree =>
    refine ⟨hp.kept, fun call hcall id hid => ?_⟩
    rcases update_call_cases hcall with ⟨-, rfl⟩ | ⟨-, hcall⟩
    · obtain ⟨rep, loc, hmem, -⟩ := hid
      cases hmem
    · exact hp.fresh call hcall id hid
  | next d x hist q k s a hcall hanswer =>
    have hchange := answer_change hanswer
    refine ⟨fun id hid => hchange.ids_subset id (hp.kept id hid), fun call hc id hid => ?_⟩
    rcases update_call_cases hc with ⟨rfl, rfl⟩ | ⟨-, hc⟩
    · obtain ⟨rep, loc, hmem, hloc⟩ := hid
      rcases List.mem_cons.mp hmem with heq | hmem
      · -- the account that this step created
        obtain ⟨rfl, heq⟩ := Sigma.mk.inj heq
        obtain rfl := eq_of_heq heq
        rw [← hloc]
        rcases answer_or_failure hanswer with hnew | hf
        · simp only [perform] at hnew
          split_ifs at hnew with htaken hfresh
          · simp at hnew
          · simp only [Option.some.injEq, Prod.mk.injEq, Except.ok.injEq,
              PostUserAnswer.created.injEq] at hnew
            rw [← hnew.2, lastSegment_append hfresh.2.2]
            exact fun hknown => hfresh.1 (hp.kept _ hknown)
        · simp [failure] at hf
      · exact hp.fresh _ hcall id ⟨rep, loc, hmem, hloc⟩
    · exact hp.fresh call hc id hid
  | ambient d s hs =>
    simp only [service, tick, Option.some.injEq] at hs
    rw [← hs]
    exact ⟨hp.kept, hp.fresh⟩

/-- **Existing accounts keep their credentials.**  A password about to be set is for an account that
the call created, and none of its steps changes the credentials of an older one. -/
theorem existing_accounts_keep_credentials (cfg : Config) {realm : Realm} {now : ℤ}
    {before after : List Event} {p₁ p : Calls} {c : ℕ} {e : Entry}
    (hbefore : run (step cfg) (start realm now) before = some p₁)
    (hafter : run (step cfg) p₁ (.start c e :: after) = some p) :
    (∀ hist userID pw k, p.calls c = some ⟨hist, .ask (.putPassword userID pw) k⟩ →
      CreatedHere hist userID ∧ userID ∉ p₁.shared.realm.ids) ∧
    ∀ x p', step cfg p (.next c x) = some p' → ∀ id ∈ p₁.shared.realm.ids,
      p'.shared.realm.credentials id = p.shared.realm.credentials id := by
  have hrun : run (step cfg) (start realm now) (before ++ .start c e :: after) = some p := by
    rw [run_append, hbefore]
    exact hafter
  have hobeys := obeys_of_run hrun
  have huntouched : Untouched p₁.shared.realm.ids c p := by
    obtain ⟨p₂, hfirst, hrest⟩ := run_cons_eq_some.mp hafter
    refine run_invariant_always (fun _ _ _ hs hstep => hs.step hstep) ?_ hrest
    cases Service.step_move hfirst with
    | start _ _ hfree =>
      refine ⟨fun id hid => hid, fun call hcall id hid => ?_⟩
      rcases update_call_cases hcall with ⟨-, rfl⟩ | ⟨hne, -⟩
      · obtain ⟨rep, loc, hmem, -⟩ := hid
        cases hmem
      · exact absurd rfl hne
  have hpassword : ∀ hist userID pw k, p.calls c = some ⟨hist, .ask (.putPassword userID pw) k⟩ →
      CreatedHere hist userID ∧ userID ∉ p₁.shared.realm.ids := by
    intro hist userID pw k hcall
    have hcreated : CreatedHere hist userID := (hobeys c _ hcall).2.1
    exact ⟨hcreated, huntouched.fresh _ hcall userID hcreated⟩
  refine ⟨hpassword, fun x p' hstep id hid => ?_⟩
  cases Service.step_move hstep with
  | next _ _ hist q k s a hcall hanswer =>
    refine (answer_change hanswer).credentials (huntouched.kept id hid) ?_
    rintro pw rfl
    exact (hpassword hist id pw k hcall).2 hid

/-! ## A newcomer beside an operator -/

def operatorRealm : Realm where
  accounts := [⟨"u-1", "ops@example.com", "ops@example.com", "Ona", "Ops", true,
    ["operator", "platform-admin"], some ("correct horse", false)⟩]
  roleNames := ["citizen", "driver", "operator", "station-staff", "platform-admin"]

def newcomerBody : Onboarding.IntakeBody := ⟨"New@example.com", "Nia New", "", "", ""⟩

/-- Lookup, clock, count, insert, account, password generator. -/
def newcomerSteps : List Event :=
  [.next 0 {}, .next 0 {}, .next 0 {}, .next 0 {}, .next 0 { userID := "u-2" },
    .next 0 { password := "s3cret" }]

/-- An outsider's filing for a new address sets a password, and not the operator's. -/
theorem newcomer_leaves_operator_alone : ∃ p p', run (step plainConfig) (start operatorRealm 0)
        (.start 0 (.citizenSelfServe (.ok newcomerBody)) :: newcomerSteps) = some p ∧
      step plainConfig p (.next 0 {}) = some p' ∧
      p.shared.realm.credentials "u-2" = [none] ∧
      p'.shared.realm.credentials "u-2" = [some ("s3cret", true)] ∧
      p'.shared.realm.credentials "u-1" = p.shared.realm.credentials "u-1" := by
  obtain ⟨p, hp, hnone, p', hp', hset⟩ : ∃ p, run (step plainConfig) (start operatorRealm 0)
          (.start 0 (.citizenSelfServe (.ok newcomerBody)) :: newcomerSteps) = some p ∧
        p.shared.realm.credentials "u-2" = [none] ∧ ∃ p',
          step plainConfig p (.next 0 {}) = some p' ∧
          p'.shared.realm.credentials "u-2" = [some ("s3cret", true)] := by decide +kernel
  have hkept := (existing_accounts_keep_credentials plainConfig (run_nil _ _) hp).2
  exact ⟨p, p', hp, hp', hnone, hset, hkept {} p' hp' "u-1" (by decide)⟩

end H2Fleet.Admin
