import H2Fleet.Admin.Credentials

/-!
# The last platform-admin

`UpdateRoles`, `Disable` and `Enable` of the admin-api.  A handler that is about to disable an
account, or to take the role platform-admin from it, first lists the platform-admins and refuses if
the account is the only one of them that is enabled.

**What goes wrong.**  Between the list and the write, other calls write too: two admins who disable
each other at the same time both find two of them.  And the list is one page: `ListUsers` turns the
1000 that it is asked for into 100, and an admin who is not among them is disabled without a look.
-/

namespace H2Fleet.Admin

open List Option Users World

/-! ## Enabled platform-admins -/

def Account.EnabledAdmin (u : Account) : Prop := u.enabled = true ∧ "platform-admin" ∈ u.roles
  deriving Decidable

def Realm.Administrable (realm : Realm) : Prop := ∃ u ∈ realm.accounts, u.EnabledAdmin
  deriving Decidable

/-- The account that a query disables or takes the role from. -/
def Query.removes : Query → Option String
  | .putUser id rep => if rep.enabled then none else some id
  | .deleteRoleMapping id _ role => if role = "platform-admin" then some id else none
  | _ => none

def Query.adminPage : Query → Option ℕ
  | .getRoleUsers role max => if role = "platform-admin" then some max else none
  | _ => none

def shownPage : Exchange Answer → Option (List Account)
  | ⟨.getRoleUsers role _, .ok page⟩ => if role = "platform-admin" then some page else none
  | _ => none

/-- The pages of platform-admins that a call has seen. -/
def pages (h : History) : List (List Account) := h.filterMap shownPage

/-- The test of `soleEnabledPlatformAdmin`. -/
def soleIn (page : List Account) (id : String) : Bool :=
  page.any (fun a => a.id = id && a.enabled) && page.countP (·.enabled) ≤ 1

/-- A page that the call has seen has passed the test. -/
def Passed (h : History) (id : String) : Prop := ∃ page ∈ pages h, soleIn page id = false

def guards (h : History) (q : Query) : Prop := ∀ id, q.removes = some id → Passed h id

variable {id : String}

lemma Passed.mono {h h' : History} (hsuf : h <:+ h') (hpassed : Passed h id) : Passed h' id := by
  obtain ⟨page, hpage, hsole⟩ := hpassed
  exact ⟨page, (hsuf.sublist.filterMap shownPage).subset hpage, hsole⟩

lemma guards_of_none {h : History} {q : Query} (hq : q.removes = none) : guards h q := by
  intro id hid
  rw [hq] at hid
  cases hid

/-! ## The handlers look before they write -/

section Handlers

open Prog

variable {h : History}

lemma loadUsers_safe (T : GoText) (role : String) : ∀ (accounts : List Account) (h : History),
    Safe guards (fun _ users => users.map (fun u => (u.id, u.enabled)) =
      accounts.map fun a => (a.id, a.enabled)) h (Keycloak.loadUsers T "" role accounts)
  | [], h => rfl
  | a :: accounts, h => by
    rw [Keycloak.loadUsers, if_neg (by simp)]
    refine safe_ask_bind (guards_of_none rfl) fun roles => ?_
    refine (loadUsers_safe T role accounts _).bind fun h' rest _ hrest => ?_
    simp [hrest]

lemma listUsers_safe (T : GoText) :
    Safe guards (fun h' r => ∀ users, r = .ok users → ∃ page ∈ pages h',
      users.map (fun u => (u.id, u.enabled)) = page.map fun a => (a.id, a.enabled)) h
      (Keycloak.listUsers T "" "platform-admin" 1000) := by
  rw [Keycloak.listUsers, if_pos (by decide)]
  refine safe_ask_bind (guards_of_none rfl) fun answer => ?_
  cases answer with
  | error e => exact fun users hr => by simp at hr
  | ok page =>
    refine (loadUsers_safe T _ page _).bind fun h' users hsuf husers => ?_
    rintro users' hr
    obtain rfl : users = users' := by simpa using hr
    refine ⟨page, (hsuf.sublist.filterMap shownPage).subset ?_, husers⟩
    simp [shownPage]

lemma soleEnabledPlatformAdmin_safe (cfg : Config) (id : String) :
    Safe guards (fun h' r => r = .ok false → Passed h' id) h (soleEnabledPlatformAdmin cfg id) := by
  refine (listUsers_safe cfg.text).bind fun h' r _ hr => ?_
  cases r with
  | error e => exact fun hfalse => by simp at hfalse
  | ok users =>
    obtain ⟨page, hpage, heq⟩ := hr users rfl
    intro hfalse
    have hsole : (users.any (fun a => a.id = id && a.enabled) &&
        decide (users.countP (·.enabled) ≤ 1)) = false := by simpa using hfalse
    have hany : users.any (fun a => a.id = id && a.enabled) =
        page.any fun a => a.id = id && a.enabled := by
      have := congrArg (any · fun p => p.1 = id && p.2) heq
      simpa [List.any_map, Function.comp_def] using this
    have hcount : users.countP (·.enabled) = page.countP (·.enabled) := by
      have := congrArg (countP Prod.snd) heq
      simpa [countP_map, Function.comp_def] using this
    exact ⟨page, hpage, by rw [soleIn, ← hany, ← hcount, hsole]⟩

lemma guardDemotion_safe (cfg : Config) (id : String) : ∀ (roles : List String) (h : History),
    Safe guards (fun h' r => r = none → "platform-admin" ∈ roles → Passed h' id) h
      (guardDemotion cfg id roles)
  | [], h => by simp [guardDemotion]
  | role :: roles, h => by
    rw [guardDemotion]
    split_ifs with hrole
    · refine (guardDemotion_safe cfg id roles h).mono fun h' r _ hr hnone hmem => ?_
      exact hr hnone ((mem_cons.mp hmem).resolve_left fun heq => hrole heq.symm)
    · refine (soleEnabledPlatformAdmin_safe cfg id).bind fun h' r _ hr => ?_
      split
      · simp
      · simp
      · refine (guardDemotion_safe cfg id roles h').mono fun h'' r' hsuf _ _ _ => ?_
        exact (hr rfl).mono hsuf

lemma safe_of_quiet {α : Type} {p : Code α} (hp : Asks (fun q => q.removes = none) p) :
    Safe guards (fun _ _ => True) h p :=
  (hp.safe (fun _ _ => guards_of_none) h).mono fun _ _ _ _ => trivial

lemma assignRoles_quiet (userID : String) :
    ∀ roles, Asks (fun q => q.removes = none) (assignRoles userID roles)
  | [] => by simp [assignRoles]
  | role :: roles => by
    refine Asks.bind (Asks.bind (asks_ask rfl) fun rep => ?_) fun answer => ?_
    · split
      · simp
      · exact asks_ask rfl
    · split
      · simp
      · exact assignRoles_quiet userID roles

lemma revokeRoles_safe (userID : String) : ∀ (roles : List String) (h : History),
    ("platform-admin" ∈ roles → Passed h userID) →
    Safe guards (fun _ _ => True) h (revokeRoles userID roles)
  | [], h, _ => trivial
  | role :: roles, h, hpassed => by
    have hrevoke : Safe guards (fun _ _ => True) h (Keycloak.revokeRealmRole userID role) := by
      refine safe_ask_bind (guards_of_none rfl) fun rep => ?_
      split
      · trivial
      · refine ⟨fun id hid => ?_, fun _ => trivial⟩
        simp only [Query.removes, ite_none_right_eq_some, some.injEq] at hid
        obtain ⟨rfl, rfl⟩ := hid
        exact (hpassed mem_cons_self).mono (suffix_cons _ _)
    refine hrevoke.bind fun h' answer hsuf _ => ?_
    split
    · trivial
    · exact revokeRoles_safe userID roles h' fun hmem =>
        (hpassed (mem_cons_of_mem _ hmem)).mono hsuf

lemma updateRoles_safe (cfg : Config) (id : String) (body : Except String RolesBody) :
    Safe guards (fun _ _ => True) h (updateRoles cfg id body) := by
  unfold updateRoles
  split
  · trivial
  · split_ifs
    · trivial
    · refine (guardDemotion_safe cfg id _ h).bind fun h₁ guarded _ hpassed => ?_
      split
      · trivial
      · refine (safe_of_quiet (assignRoles_quiet id _)).bind fun h₂ assigned hsuf _ => ?_
        split
        · trivial
        · refine (revokeRoles_safe id _ h₂ fun hmem => (hpassed rfl hmem).mono hsuf).bind
            fun h₃ revoked _ _ => ?_
          split <;> trivial

lemma writeEnabled_safe (id : String) (enabled : Bool) (hpassed : enabled = false → Passed h id) :
    Safe guards (fun _ _ => True) h (writeEnabled id enabled) := by
  have hset : Safe guards (fun _ _ => True) h (Keycloak.setEnabled id enabled) := by
    refine safe_ask_bind (guards_of_none rfl) fun rep => ?_
    split
    · trivial
    · refine ⟨fun id' hid => ?_, fun _ => trivial⟩
      cases enabled with
      | true => simp [Query.removes] at hid
      | false =>
        obtain rfl : id = id' := by simpa [Query.removes] using hid
        exact (hpassed rfl).mono (suffix_cons _ _)
  refine hset.bind fun h' written _ _ => ?_
  split <;> trivial

lemma setEnabled_safe (cfg : Config) (caller : Caller) (id : String) (enabled : Bool) :
    Safe guards (fun _ _ => True) h (setEnabled cfg caller id enabled) := by
  unfold setEnabled
  split_ifs with henabled
  · exact writeEnabled_safe id enabled fun hfalse => absurd henabled (by simp [hfalse])
  · trivial
  · refine (soleEnabledPlatformAdmin_safe cfg id).bind fun h' sole _ hsole => ?_
    split
    · trivial
    · trivial
    · exact writeEnabled_safe id enabled fun _ => hsole rfl

end Handlers

def administers : Event → Bool
  | .start _ (.updateRoles _ _ _) | .start _ (.disable _ _) | .start _ (.enable _ _) => true
  | .start _ _ => false
  | _ => true

lemma guards_of_program {cfg : Config} {c : ℕ} {e : Entry} (he : administers (.start c e) = true) :
    Prog.Safe guards (fun _ _ => True) [] (program cfg e) := by
  have hgate : ∀ (caller : Caller) (p : Code Reply), Prog.Safe guards (fun _ _ => True) [] p →
      Prog.Safe guards (fun _ _ => True) [] (requireAdmin caller p) := by
    intro caller p hp
    unfold requireAdmin
    split_ifs
    · exact hp
    · trivial
  cases e with
  | updateRoles caller id body => exact hgate _ _ (updateRoles_safe cfg id body)
  | disable caller id => exact hgate _ _ (setEnabled_safe cfg caller id false)
  | enable caller id => exact hgate _ _ (setEnabled_safe cfg caller id true)
  | _ => simp [administers] at he

/-! ## What the writes do to the platform-admins -/

/-- The list is complete, and the accounts it has shown as enabled, the target apart, are enabled
platform-admins still. -/
def World.Guarded (w : World) (h : History) (q : Query) (x : Choice) : Prop :=
  (∀ max ∈ q.adminPage, (w.realm.accounts.filter ("platform-admin" ∈ ·.roles)).length ≤ max) ∧
  ∀ id ∈ q.removes, x.fault ≠ .refused → ∀ page ∈ pages h, ∀ u ∈ page, u.enabled = true →
    u.id ≠ id → ∃ v ∈ w.realm.accounts, v.id = u.id ∧ v.EnabledAdmin
  deriving Decidable

def Calls.Guarded (s : Calls) : Event → Prop
  | .next c x =>
    match s.calls c with
    | some ⟨h, .ask q _⟩ => s.shared.Guarded h q x
    | _ => True
  | _ => True

instance (s : Calls) (ev : Event) : Decidable (Calls.Guarded s ev) := by
  unfold Calls.Guarded; (repeat' split) <;> infer_instance

section Writes

variable {cfg : Config} {w w' : World} {realm : Realm} {q : Query} {x : Choice} {a : Answer q}

lemma World.onAccount_administrable {f : Account → Account} {a : Except String Unit}
    (h : w.onAccount id f = (w', a)) {u : Account} (hu : u ∈ w.realm.accounts)
    (hadmin : u.EnabledAdmin) (hf : u.id = id → (f u).EnabledAdmin) : w'.realm.Administrable := by
  rcases onAccount_realm h with hr | hr
  · rw [hr]
    exact ⟨u, hu, hadmin⟩
  · rw [hr]
    refine ⟨if u.id = id then f u else u, mem_map_of_mem hu, ?_⟩
    split_ifs with hid
    · exact hf hid
    · exact hadmin

/-- **What is left after a query** of the enabled platform-admins. -/
lemma World.perform_administrable (h : w.perform cfg q x = some (w', a))
    (hw : ∃ u ∈ w.realm.accounts, u.EnabledAdmin ∧ ∀ id, q.removes = some id → u.id ≠ id) :
    w'.realm.Administrable := by
  obtain ⟨u, hu, hadmin, hother⟩ := hw
  cases q with
  | postUser rep =>
    simp only [perform] at h
    split_ifs at h <;> (rw [some.injEq, Prod.mk.injEq] at h; rw [← h.1])
    · exact ⟨u, hu, hadmin⟩
    · exact ⟨u, mem_append_left _ hu, hadmin⟩
  | putPassword | putActionsEmail =>
    exact onAccount_administrable (some.inj h) hu hadmin fun _ => hadmin
  | postRoleMapping userID roleID role =>
    refine onAccount_administrable (some.inj h) hu hadmin fun _ => ⟨hadmin.1, ?_⟩
    split_ifs
    · exact hadmin.2
    · exact mem_append_left _ hadmin.2
  | deleteRoleMapping userID roleID role =>
    refine onAccount_administrable (some.inj h) hu hadmin fun hid => ⟨hadmin.1, ?_⟩
    have hrole : role ≠ "platform-admin" := fun hrole =>
      hother userID (by simp [Query.removes, hrole]) hid
    simp [hadmin.2, hrole.symm]
  | putUser userID rep =>
    refine onAccount_administrable (some.inj h) hu hadmin fun hid => ⟨?_, hadmin.2⟩
    by_contra hdisabled
    have hfalse : rep.enabled = false := by simpa using hdisabled
    exact hother userID (by simp [Query.removes, hfalse]) hid
  | insert _ | decide _ _ _ _ _ | mergeMeta _ _ _ =>
    simp only [perform] at h
    split at h <;> (rw [some.injEq, Prod.mk.injEq] at h; rw [← h.1]; exact ⟨u, hu, hadmin⟩)
  | _ =>
    simp only [perform, some.injEq, Prod.mk.injEq] at h
    rw [← h.1]
    exact ⟨u, hu, hadmin⟩

lemma Realm.Change.ids_nodup {realm' : Realm} (h : Change realm q realm')
    (hnodup : realm.ids.Nodup) : realm'.ids.Nodup := by
  cases h with
  | same => exact hnodup
  | created rep new hfresh =>
    simpa [Realm.add, Realm.ids, nodup_append] using ⟨hnodup, fun u hu heq =>
      hfresh.1 (heq ▸ mem_map_of_mem hu)⟩
  | password userID pw =>
    have hids : (realm.modify userID fun u => { u with credential := some (pw, true) }).ids =
        realm.ids := Realm.modify_ids fun _ => rfl
    rwa [hids]
  | edited _ userID f hid hcred => rwa [Realm.modify_ids hid]

/-- The accounts are different, and one of them is enabled. -/
structure GoodPage (page : List Account) : Prop where
  nodup : (page.map Account.id).Nodup
  enabled : ∃ u ∈ page, u.enabled = true

/-- **The test**: a good page that passes it shows another enabled account. -/
lemma GoodPage.other {page : List Account} (hpage : GoodPage page)
    (hpassed : soleIn page id = false) : ∃ u ∈ page, u.enabled = true ∧ u.id ≠ id := by
  by_contra hnone
  have hall : ∀ u ∈ page, u.enabled = true → u.id = id := fun u hu henabled =>
    not_not.mp fun hne => hnone ⟨u, hu, henabled, hne⟩
  obtain ⟨u, hu, henabled⟩ := hpage.enabled
  have hany : page.any (fun a => a.id = id && a.enabled) = true :=
    any_eq_true.mpr ⟨u, hu, by simp [hall u hu henabled, henabled]⟩
  have hnodup : ((page.filter (·.enabled)).map Account.id).Nodup :=
    hpage.nodup.sublist ((filter_sublist).map _)
  have hcount : page.countP (·.enabled) ≤ 1 := by
    rw [countP_eq_length_filter]
    match hf : page.filter (·.enabled) with
    | [] | [_] => simp [hf]
    | b :: c :: rest =>
      have hmem : ∀ d ∈ page.filter (·.enabled), d.id = id := fun d hd =>
        hall d (mem_filter.mp hd).1 (mem_filter.mp hd).2
      rw [hf] at hmem hnodup
      simp [hmem b (by simp), hmem c (by simp)] at hnodup
  rw [soleIn, hany, decide_eq_true hcount] at hpassed
  cases hpassed

lemma goodPage_of_answer {page : List Account} (h : w.answer cfg q x = some (w', a))
    (hshown : shownPage ⟨q, a⟩ = some page) (hw : w.realm.Administrable) (hids : w.realm.ids.Nodup)
    (hcomplete : ∀ max ∈ q.adminPage,
      (w.realm.accounts.filter ("platform-admin" ∈ ·.roles)).length ≤ max) : GoodPage page := by
  cases q with
  | getRoleUsers role max =>
    rcases answer_or_failure h with hp | hfail
    · simp only [perform] at hp
      cases hp
      by_cases hrole : role = "platform-admin"
      · subst hrole
        have hmax := hcomplete max (by simp [Query.adminPage])
        by_cases hmem : "platform-admin" ∈ w.realm.roleNames
        · simp only [hmem, if_true, shownPage, some.injEq] at hshown
          rw [take_of_length_le hmax] at hshown
          subst hshown
          refine ⟨hids.sublist ((filter_sublist).map _), ?_⟩
          obtain ⟨u, hu, henabled, hadmin⟩ := hw
          exact ⟨u, mem_filter.mpr ⟨hu, by simpa using hadmin⟩, henabled⟩
        · simp [hmem, shownPage] at hshown
      · cases ha : (if role ∈ w.realm.roleNames then
          (.ok ((w.realm.accounts.filter (role ∈ ·.roles)).take max) : Except String (List Account))
          else .error "status 404") <;> simp [ha, shownPage, hrole] at hshown
    · obtain rfl : (.error x.error : Except String (List Account)) = a := by
        simpa [failure] using hfail
      simp [shownPage] at hshown
  | _ => simp [shownPage] at hshown

end Writes

/-! ## The theorem -/

structure Calls.Sound (s : Calls) : Prop where
  administrable : s.shared.realm.Administrable
  nodup : s.shared.realm.ids.Nodup
  obeys : s.Obeys guards (fun _ _ => True)
  pages : ∀ c call, s.calls c = some call → ∀ page ∈ pages call.hist, GoodPage page

lemma sound_step {cfg : Config} {s s' : Calls} {ev : Event} (hs : Calls.Sound s)
    (hadministers : administers ev = true) (hok : Calls.Guarded s ev)
    (h : step cfg s ev = some s') : Calls.Sound s' := by
  have hobeys : s'.Obeys guards (fun _ _ => True) := hs.obeys.step_of_start
    (fun c e hev => guards_of_program (hev ▸ hadministers)) h
  cases Service.step_move h with
  | start c e hfree =>
    refine ⟨hs.administrable, hs.nodup, hobeys, fun d call hd => ?_⟩
    rcases update_call_cases hd with ⟨-, rfl⟩ | ⟨-, hd⟩
    · simp [pages]
    · exact hs.pages d call hd
  | ambient v w hw =>
    cases hw
    exact { hs with obeys := hobeys }
  | next c x hist q k w' a hcall hanswer =>
    have hguarded : s.shared.Guarded hist q x := by simpa [Calls.Guarded, hcall] using hok
    refine ⟨?_, (answer_change hanswer).ids_nodup hs.nodup, hobeys, fun d call hd page hpage => ?_⟩
    · by_cases hrefused : x.fault = .refused
      · rw [answer_refused hanswer hrefused]
        exact hs.administrable
      · obtain ⟨a', hperform⟩ := answer_executed hanswer hrefused
        refine perform_administrable hperform ?_
        cases hremoves : q.removes with
        | none =>
          obtain ⟨u, hu, hadmin⟩ := hs.administrable
          exact ⟨u, hu, hadmin, by simp⟩
        | some id =>
          -- The guard has seen another enabled account, and it is still there.
          obtain ⟨page, hpage, hpassed⟩ := (hs.obeys c _ hcall).2.1 id hremoves
          obtain ⟨u, hu, henabled, hne⟩ := (hs.pages c _ hcall page hpage).other hpassed
          obtain ⟨v, hv, hid, hadmin⟩ :=
            hguarded.2 id hremoves hrefused page hpage u hu henabled hne
          exact ⟨v, hv, hadmin, fun id' hid' => by
            rw [← some.inj hid', hid]
            exact hne⟩
    · rcases update_call_cases hd with ⟨-, rfl⟩ | ⟨-, hd⟩
      · rw [pages, filterMap_cons] at hpage
        cases hshown : shownPage ⟨q, a⟩ with
        | none =>
          rw [hshown] at hpage
          exact hs.pages c _ hcall page hpage
        | some page' =>
          rw [hshown] at hpage
          rcases mem_cons.mp hpage with rfl | hpage
          · exact goodPage_of_answer hanswer hshown hs.administrable hs.nodup hguarded.1
          · exact hs.pages c _ hcall page hpage
      · exact hs.pages d call hd page hpage

def adminAccount (id : String) : Account := ⟨id, id, id, "", "", true, ["platform-admin"], none⟩

def adminCaller (id : String) : Caller := ⟨id, ["platform-admin"]⟩

def twoAdmins : Realm := ⟨[adminAccount "a", adminAccount "b"], ["platform-admin"]⟩

/-- The next queries of a call, all of which succeed. -/
def goesOn (c n : ℕ) : List Event := replicate n (.next c {})

/-- One disables the other, who is enabled again and then loses the role. -/
def oneByOne : List Event :=
  .start 0 (.disable (adminCaller "a") "b") :: goesOn 0 5 ++
  .start 1 (.enable (adminCaller "a") "b") :: goesOn 1 2 ++
  .start 2 (.updateRoles (adminCaller "a") "b" (.ok ⟨[], ["platform-admin"]⟩)) :: goesOn 2 5

/-- Two disable each other: both look, then both write. -/
def eachOther : List Event :=
  .start 0 (.disable (adminCaller "a") "b") :: .start 1 (.disable (adminCaller "b") "a") ::
    goesOn 0 3 ++ goesOn 1 3 ++ goesOn 0 2 ++ goesOn 1 2

/-- A hundred platform-admins who are disabled, and one who is not. -/
def crowded : Realm :=
  ⟨((range 100).map fun n =>
    { adminAccount (String.ofList [Char.ofNat (256 + n)]) with enabled := false }) ++
      [adminAccount "b"], ["platform-admin"]⟩

/-- The one who is not gives up the role. -/
def givesUp : List Event :=
  .start 0 (.updateRoles (adminCaller "b") "b" (.ok ⟨[], ["platform-admin"]⟩)) :: goesOn 0 103

/-- **Someone can always administer**, in every run from a realm with an enabled platform-admin in
which the lists are complete and still hold at the write. -/
theorem platform_admin_remains {cfg : Config} {realm : Realm} {now : ℤ} {evs : List Event}
    (hids : realm.ids.Nodup) (hrealm : realm.Administrable)
    (hevs : ∀ ev ∈ evs, administers ev = true)
    (hok : Meets (step cfg) Calls.Guarded (start realm now) evs) :
    Throughout (step cfg) (fun s => s.shared.realm.Administrable) (start realm now) evs := by
  have hstart : Calls.Sound (start realm now) :=
    ⟨hrealm, hids, fun c call hc => by simp [start] at hc, fun c call hc => by simp [start] at hc⟩
  exact Meets.throughout (fun _ hs => hs.administrable)
    (fun _ _ _ hs hok hstep => sound_step hs hok.1 hok.2 hstep) hstart
    (meets_and.mpr ⟨Meets.of_mem hevs, hok⟩)

theorem one_by_one_remains :
    Throughout (step plainConfig) (fun s => s.shared.realm.Administrable) (start twoAdmins 0)
    oneByOne ∧ ((run (step plainConfig) (start twoAdmins 0) oneByOne).map fun s =>
      s.shared.realm.accounts.map fun u => (u.id, u.enabled, u.roles)) =
      some [("a", true, ["platform-admin"]), ("b", true, [])] := by
  exact ⟨platform_admin_remains (by decide) (by decide) (by decide) (by decide +kernel),
    by decide +kernel⟩

/-- Two admins disable each other; and the only enabled one of 101 gives up the role. -/
theorem nobody_can_administer :
    (twoAdmins.Administrable ∧ ((run (step plainConfig) (start twoAdmins 0) eachOther).map fun s =>
      decide s.shared.realm.Administrable) = some false) ∧
    (crowded.Administrable ∧ ((run (step plainConfig) (start crowded 0) givesUp).map fun s =>
      decide s.shared.realm.Administrable) = some false) := by
  exact ⟨⟨by decide, by decide +kernel⟩, by decide +kernel, by decide +kernel⟩

end H2Fleet.Admin
