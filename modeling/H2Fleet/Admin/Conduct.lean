import H2Fleet.Admin.Users

/-!
# What the calls of the admin-api do

Every handler, whatever it is answered, keeps to one rule and one promise about its own history.

* **The rule.**  It sets a password only for an account that a `POST /users` of the same call
  created, marks a request completed only after the role of its persona was ensured on account of
  it, and files a request right after it has counted fewer than five of the address.
* **The promise.**  When it returns, a request on whose account a role was ensured has been marked
  completed, or a request to Keycloak has failed.

`program_safe` proves both for every entry point.  Most handlers never look at one request
(`managing`) or never ask for a role (`filing`).  That leaves `provision` and what surrounds it.
-/

namespace H2Fleet.Admin

open List Onboarding Keycloak Users

abbrev History := List (Exchange Answer)

/-! ## Reading a history -/

def concerns : Exchange Answer → Option (ℕ × Persona)
  | ⟨.get id, .ok (some r)⟩ => some (id, r.persona)
  | ⟨.findPending persona _, .ok (some (id, _))⟩ => some (id, persona)
  | ⟨.insert req, .ok (id, _)⟩ => some (id, req.persona)
  | _ => none

variable (h : History)

/-- The requests that a call is about. -/
def subjects : List (ℕ × Persona) := h.filterMap concerns

/-- After the exchange the account has the role. -/
def ensures (role : String) : Exchange Answer → Prop
  | ⟨.getRoleMappings _, .ok roles⟩ => role ∈ roles
  | ⟨.postRoleMapping _ _ given, .ok ()⟩ => given = role
  | _ => False

def Ensured (role : String) (h : History) : Prop := ∃ ex ∈ h, ensures role ex

def keycloakError : Exchange Answer → Prop
  | ⟨.postUser _, .error _⟩ | ⟨.getUsersByEmail _, .error _⟩ | ⟨.putPassword _ _, .error _⟩
  | ⟨.getRole _, .error _⟩ | ⟨.getRoleMappings _, .error _⟩ | ⟨.postRoleMapping _ _ _, .error _⟩
  | ⟨.deleteRoleMapping _ _ _, .error _⟩ | ⟨.putActionsEmail _ _, .error _⟩
  | ⟨.getRoleUsers _ _, .error _⟩ | ⟨.getUsers _ _, .error _⟩ | ⟨.getUser _, .error _⟩
  | ⟨.putUser _ _, .error _⟩ => True
  | _ => False

def Failed : Prop := ∃ ex ∈ h, keycloakError ex

/-- The call has marked the request completed. -/
def completes (id : ℕ) : Exchange Answer → Prop
  | ⟨.decide id' .completed _ _ _, _⟩ => id' = id
  | _ => False

def Completed (id : ℕ) (h : History) : Prop := ∃ ex ∈ h, completes id ex

def Granted (id : ℕ) : Prop :=
  ∃ persona, (id, persona) ∈ subjects h ∧ Ensured (realmRole persona) h

def CreatedHere (userID : String) : Prop :=
  ∃ rep loc, (⟨.postUser rep, .ok (.created loc)⟩ : Exchange Answer) ∈ h ∧ lastSegment loc = userID

/-- The call has just counted the requests of the address, and they are below the cap. -/
def Counted (email : String) : Prop :=
  ∃ n t rest, h = ⟨.countRecent email (t - day), .ok n⟩ :: ⟨.now, t⟩ :: rest ∧
    n < maxRequestsPerEmailPerDay

/-! ## The rule and the promise -/

def rule : Query → Prop
  | .putPassword userID _ => CreatedHere h userID
  | .decide id .completed _ _ _ => Granted h id
  | .insert req => Counted h req.email
  | _ => True

def promise (_ : Reply) : Prop := ∀ id, Granted h id → Failed h ∨ Completed id h

/-! ## Handlers that look at no request, or ask for no role -/

/-- The queries of the user management and of `reconcile`. -/
def managing : Query → Prop
  | .list _ _ _ _ | .postUser _ | .getUsersByEmail _ | .getRole _ | .getRoleMappings _
  | .postRoleMapping _ _ _ | .deleteRoleMapping _ _ _ | .putActionsEmail _ _ | .getRoleUsers _ _
  | .getUsers _ _ | .getUser _ | .putUser _ _ => True
  | _ => False

/-- The queries of the intake but for its INSERT, of a rejection and of the sweep. -/
def filing : Query → Prop
  | .now | .captcha _ | .findPending _ _ | .countRecent _ _ | .get _ | .mergeMeta _ _ _
  | .expirePending _ => True
  | .decide _ status _ _ _ => status ≠ .completed
  | _ => False

/-- The queries of the two guards of the intake. -/
def guarding : Query → Prop
  | .now | .captcha _ | .countRecent _ _ => True
  | _ => False

lemma filing_of_guarding (q : Query) (hq : guarding q) : filing q := by
  cases q <;> trivial

lemma rule_of_managing (q : Query) (hq : managing q) : rule h q := by
  cases q <;> trivial

lemma rule_of_filing (q : Query) (hq : filing q) : rule h q := by
  cases q with
  | decide id status sub by' reason => cases status <;> trivial
  | _ => trivial

variable (cfg : Config) {ex : Exchange Answer}

lemma concerns_of_managing (hex : managing ex.1) : concerns ex = none := by
  obtain ⟨q, a⟩ := ex
  cases q <;> first | rfl | contradiction

lemma concerns_of_guarding (hex : guarding ex.1) : concerns ex = none := by
  obtain ⟨q, a⟩ := ex
  cases q <;> first | rfl | contradiction

lemma not_ensures_of_filing (hex : filing ex.1) (role : String) : ¬ ensures role ex := by
  obtain ⟨q, a⟩ := ex
  cases q <;> first | exact not_false | contradiction

variable {p : Code Reply}

lemma safe_of_managing (hp : Prog.Asks managing p) : Prog.Safe rule promise [] p := by
  refine (hp.safe rule_of_managing []).mono ?_
  rintro h' reply - ⟨new, rfl, hnew⟩ id ⟨persona, hmem, -⟩
  obtain ⟨ex, hex, hc⟩ := mem_filterMap.mp hmem
  rw [append_nil] at hex
  rw [concerns_of_managing (hnew ex hex)] at hc
  cases hc

variable {h : History}

lemma safe_of_filing (hp : Prog.Asks filing p) (hh : ∀ role, ¬ Ensured role h) :
    Prog.Safe rule promise h p := by
  refine (hp.safe rule_of_filing h).mono ?_
  rintro h' reply - ⟨new, rfl, hnew⟩ id ⟨persona, -, ex, hex, hens⟩
  rcases mem_append.mp hex with hex | hex
  · exact absurd hens (not_ensures_of_filing (hnew ex hex) _)
  · exact absurd ⟨ex, hex, hens⟩ (hh _)

lemma safe_of_guarding {α : Type} {p : Code α} (hp : Prog.Asks guarding p)
    (hh : ∀ role, ¬ Ensured role h) :
    Prog.Safe rule (fun h' _ => subjects h' = subjects h ∧ ∀ role, ¬ Ensured role h') h p := by
  refine (hp.safe (fun h q hq => rule_of_filing h q (filing_of_guarding q hq)) h).mono ?_
  rintro h' a - ⟨new, rfl, hnew⟩
  constructor
  · have hnone : new.filterMap concerns = [] := by
      rw [filterMap_eq_nil_iff]
      exact fun ex hex => concerns_of_guarding (hnew ex hex)
    rw [subjects, filterMap_append, hnone, nil_append, subjects]
  · rintro role ⟨ex, hex, hens⟩
    rcases mem_append.mp hex with hex | hex
    · exact not_ensures_of_filing (filing_of_guarding _ (hnew ex hex)) role hens
    · exact hh role ⟨ex, hex, hens⟩

section Managing

open Prog

lemma createUser_managing (T : GoText) (spec : CreateUserSpec) :
    Asks managing (createUser T spec) := by
  refine Asks.bind (asks_ask trivial) fun answer => ?_
  split
  · simp
  · split_ifs <;> simp
  · refine Asks.bind (Asks.bind (asks_ask trivial) fun found => ?_) fun id => ?_
    · split <;> simp
    · split <;> simp

lemma assignRealmRole_managing (userID role : String) :
    Asks managing (assignRealmRole userID role) := by
  refine Asks.bind (asks_ask trivial) fun rep => ?_
  split
  · simp
  · exact asks_ask trivial

lemma revokeRealmRole_managing (userID role : String) :
    Asks managing (revokeRealmRole userID role) := by
  refine Asks.bind (asks_ask trivial) fun rep => ?_
  split
  · simp
  · exact asks_ask trivial

lemma ensureRealmRole_managing (userID role : String) :
    Asks managing (ensureRealmRole userID role) := by
  refine Asks.bind (asks_ask trivial) fun roles => ?_
  split
  · simp
  · split_ifs
    · simp
    · exact assignRealmRole_managing userID role

lemma loadUsers_managing (T : GoText) (search role : String) :
    ∀ accounts, Asks managing (loadUsers T search role accounts)
  | [] => by simp [loadUsers]
  | u :: us => by
    have ih := loadUsers_managing T search role us
    rw [loadUsers]
    split_ifs
    · exact ih
    · refine Asks.bind (asks_ask trivial) fun roles => ?_
      exact Asks.bind ih fun rest => by simp

lemma listUsers_managing (T : GoText) (search role : String) (max : ℕ) :
    Asks managing (listUsers T search role max) := by
  refine Asks.bind ?_ fun accounts => ?_
  · split_ifs
    · exact asks_ask trivial
    · exact asks_ask trivial
  · split
    · simp
    · exact Asks.bind (loadUsers_managing T search role _) fun users => by simp

lemma assignRoles_managing (userID : String) : ∀ roles, Asks managing (assignRoles userID roles)
  | [] => by simp [assignRoles]
  | role :: roles => by
    refine Asks.bind (assignRealmRole_managing userID role) fun answer => ?_
    split
    · simp
    · exact assignRoles_managing userID roles

lemma revokeRoles_managing (userID : String) : ∀ roles, Asks managing (revokeRoles userID roles)
  | [] => by simp [revokeRoles]
  | role :: roles => by
    refine Asks.bind (revokeRealmRole_managing userID role) fun answer => ?_
    split
    · simp
    · exact revokeRoles_managing userID roles

lemma create_managing (body : Except String CreateBody) :
    Asks managing (create cfg body) := by
  unfold Users.create
  split
  · simp
  · dsimp only
    split_ifs
    · simp
    · simp
    · refine Asks.bind (createUser_managing _ _) fun account => ?_
      split
      · simp
      · simp
      · refine Asks.bind (assignRoles_managing _ _) fun assigned => ?_
        split
        · simp
        · exact Asks.bind (asks_ask trivial) fun sent => by simp

lemma soleEnabledPlatformAdmin_managing (targetID : String) :
    Asks managing (soleEnabledPlatformAdmin cfg targetID) := by
  refine Asks.bind (listUsers_managing _ _ _ _) fun admins => ?_
  split <;> simp

lemma guardDemotion_managing (id : String) :
    ∀ roles, Asks managing (guardDemotion cfg id roles)
  | [] => by simp [guardDemotion]
  | role :: roles => by
    have ih := guardDemotion_managing id roles
    rw [guardDemotion]
    split_ifs
    · exact ih
    · refine Asks.bind (soleEnabledPlatformAdmin_managing cfg id) fun sole => ?_
      split
      · simp
      · simp
      · exact ih

lemma updateRoles_managing (id : String) (body : Except String RolesBody) :
    Asks managing (updateRoles cfg id body) := by
  unfold updateRoles
  split
  · simp
  · split_ifs
    · simp
    · refine Asks.bind (guardDemotion_managing _ _ _) fun guarded => ?_
      split
      · simp
      · refine Asks.bind (assignRoles_managing _ _) fun assigned => ?_
        split
        · simp
        · refine Asks.bind (revokeRoles_managing _ _) fun revoked => ?_
          split <;> simp

lemma writeEnabled_managing (id : String) (enabled : Bool) :
    Asks managing (writeEnabled id enabled) := by
  refine Asks.bind (Asks.bind (asks_ask trivial) fun rep => ?_) fun written => ?_
  · split
    · simp
    · exact asks_ask trivial
  · split <;> simp

lemma setEnabled_managing (caller : Caller) (id : String) (enabled : Bool) :
    Asks managing (setEnabled cfg caller id enabled) := by
  unfold Users.setEnabled
  split_ifs
  · exact writeEnabled_managing id enabled
  · simp
  · refine Asks.bind (soleEnabledPlatformAdmin_managing cfg id) fun sole => ?_
    split
    · simp
    · simp
    · exact writeEnabled_managing id enabled

lemma resetPassword_managing (id : String) : Asks managing (resetPassword id) := by
  refine Asks.bind (asks_ask trivial) fun sent => ?_
  split <;> simp

lemma reconcilePage_managing : ∀ reqs sum, Asks managing (reconcilePage reqs sum)
  | [], sum => by simp [reconcilePage]
  | (id, req) :: reqs, sum => by
    rw [reconcilePage]
    split_ifs
    · exact reconcilePage_managing reqs _
    · refine Asks.bind (ensureRealmRole_managing _ _) fun ensured => ?_
      split
      · exact reconcilePage_managing reqs _
      · exact reconcilePage_managing reqs _

lemma reconcileFrom_managing : ∀ pages offset sum, Asks managing (reconcileFrom pages offset sum)
  | 0, offset, sum => by simp [reconcileFrom]
  | pages + 1, offset, sum => by
    refine Asks.bind (asks_ask trivial) fun reqs => ?_
    split
    · simp
    · refine Asks.bind (reconcilePage_managing _ _) fun sum => ?_
      split_ifs
      · simp
      · exact reconcileFrom_managing pages _ _

lemma reconcile_managing (caller : Caller) (pages : ℕ) :
    Asks managing (reconcile caller pages) := by
  unfold reconcile
  split_ifs
  · exact reconcileFrom_managing pages 0 _
  · simp

end Managing

section Filing

open Prog

lemma verifyCaptcha_guarding (token : String) :
    Asks guarding (verifyCaptcha cfg token) := by
  unfold verifyCaptcha
  split_ifs
  · simp
  · simp
  · refine Asks.bind (asks_ask trivial) fun verdict => ?_
    split <;> simp

lemma pendingTooLong_guarding (req : Request) :
    Asks guarding (pendingTooLong cfg req) := by
  unfold pendingTooLong
  split_ifs
  · exact Asks.bind (asks_ask trivial) fun now => by simp
  · simp

lemma expireSweep_filing : Asks filing (expireSweep cfg) := by
  refine Asks.bind (asks_ask trivial) fun now => ?_
  exact Asks.bind (asks_ask trivial) fun swept => by simp

lemma reject_filing (caller : Caller) (id : ℕ) (reason : Except String String) :
    Asks filing (reject cfg caller id reason) := by
  unfold reject
  split
  · simp
  split_ifs
  · simp
  refine Asks.bind (asks_ask (by simp [filing])) fun final => ?_
  split <;> simp

end Filing

/-! ## Provisioning -/

lemma not_ensured_cons {x : Exchange Answer} (hx : ∀ role, ¬ ensures role x)
    (hh : ∀ role, ¬ Ensured role h) (role : String) : ¬ Ensured role (x :: h) := by
  simpa [Ensured, hx] using hh role

lemma Ensured.of_suffix {role : String} {h' : History} (he : Ensured role h) (hsuf : h <:+ h') :
    Ensured role h' := by
  obtain ⟨ex, hex, hens⟩ := he
  exact ⟨ex, hsuf.subset hex, hens⟩

lemma Failed.of_suffix {h' : History} (hf : Failed h) (hsuf : h <:+ h') : Failed h' := by
  obtain ⟨ex, hex, herr⟩ := hf
  exact ⟨ex, hsuf.subset hex, herr⟩

lemma promise_of_not_ensured (hh : ∀ role, ¬ Ensured role h) (reply : Reply) : promise h reply := by
  rintro id ⟨persona, -, hens⟩
  exact absurd hens (hh _)

section Intake

open Prog

variable {h : History}

/-- The guard that lets a request through has counted. -/
lemma overVelocity_safe (email : String) (hh : ∀ role, ¬ Ensured role h) :
    Safe rule (fun h' result => subjects h' = subjects h ∧ (∀ role, ¬ Ensured role h') ∧
      (result = none → Counted h' email)) h (overVelocity email) := by
  refine safe_ask_bind trivial fun now => ?_
  refine safe_ask_bind trivial fun count => ?_
  have hcount := not_ensured_cons (x := ⟨.countRecent email (now - day), count⟩)
    (fun _ => not_false) (not_ensured_cons (x := ⟨.now, now⟩) (fun _ => not_false) hh)
  match count with
  | .error e => exact ⟨rfl, hcount, by simp⟩
  | .ok n =>
    dsimp only
    split_ifs with hn
    · exact ⟨rfl, hcount, by simp⟩
    · exact ⟨rfl, hcount, fun _ => ⟨n, now, h, rfl, not_le.mp hn⟩⟩

lemma intake_safe (key : String) (body : Except String IntakeBody) :
    Safe rule promise [] (intake cfg key body) := by
  have hnil : ∀ role, ¬ Ensured role [] := by simp [Ensured]
  unfold intake
  split
  · exact promise_of_not_ensured hnil _
  · exact promise_of_not_ensured hnil _
  split
  · exact promise_of_not_ensured hnil _
  split
  · exact promise_of_not_ensured hnil _
  refine (safe_of_guarding (verifyCaptcha_guarding _ _) hnil).bind ?_
  rintro h₁ captcha - ⟨-, hens₁⟩
  split
  · exact promise_of_not_ensured hens₁ _
  refine safe_ask_bind trivial fun found => ?_
  have hfound := not_ensured_cons (x := ⟨_, found⟩) (fun _ => not_false) hens₁
  split
  · exact promise_of_not_ensured hfound _
  · exact promise_of_not_ensured hfound _
  refine (overVelocity_safe _ hfound).bind ?_
  rintro h₂ velocity - ⟨-, hens₂, hcounted⟩
  split
  · exact promise_of_not_ensured hens₂ _
  refine safe_ask_bind (hcounted rfl) fun created => ?_
  have hcreated := not_ensured_cons (x := ⟨_, created⟩) (fun _ => not_false) hens₂
  split
  · exact promise_of_not_ensured hcreated _
  · exact promise_of_not_ensured hcreated _
  refine safe_of_filing (Asks.bind (asks_ask trivial) fun winner => ?_) hcreated
  split <;> simp

end Intake

section Provision

open Prog

variable {h : History}

lemma createUser_safe (T : GoText) (spec : CreateUserSpec) (hh : ∀ role, ¬ Ensured role h) :
    Safe rule (fun h' result => subjects h' = subjects h ∧ (∀ role, ¬ Ensured role h') ∧
      ∀ id, result = .ok (id, false) → CreatedHere h' id) h (createUser T spec) := by
  unfold createUser
  refine safe_ask_bind trivial fun answer => ?_
  have hpost := not_ensured_cons (x := ⟨_, answer⟩) (fun _ => not_false) hh
  match answer with
  | .error e => exact ⟨rfl, hpost, by simp⟩
  | .ok (.created loc) =>
    dsimp only
    split_ifs
    · exact ⟨rfl, hpost, by simp⟩
    · refine ⟨rfl, hpost, fun id hid => ?_⟩
      simp only [Except.ok.injEq, Prod.mk.injEq, and_true] at hid
      exact ⟨_, loc, mem_cons_self, hid⟩
  | .ok .conflict =>
    refine (safe_bind _ _).mpr (safe_ask_bind trivial fun found => ?_)
    have hfound := not_ensured_cons (x := ⟨_, found⟩) (fun _ => not_false) hpost
    match found with
    | .error e => exact ⟨rfl, hfound, by simp⟩
    | .ok [] => exact ⟨rfl, hfound, by simp⟩
    | .ok (u :: us) => exact ⟨rfl, hfound, by simp⟩

lemma ensureRealmRole_safe (userID role : String) :
    Safe rule (fun h' result => subjects h' = subjects h ∧ (result = .ok () → Ensured role h') ∧
      ∀ e, result = .error e → Failed h') h (ensureRealmRole userID role) := by
  unfold ensureRealmRole
  refine safe_ask_bind trivial fun answer => ?_
  match answer with
  | .error e => exact ⟨rfl, by simp, fun _ _ => ⟨_, mem_cons_self, trivial⟩⟩
  | .ok roles =>
    dsimp only
    split_ifs with hmem
    · exact ⟨rfl, fun _ => ⟨_, mem_cons_self, hmem⟩, by simp⟩
    · unfold assignRealmRole
      refine safe_ask_bind trivial fun rep => ?_
      match rep with
      | .error e => exact ⟨rfl, by simp, fun _ _ => ⟨_, mem_cons_self, trivial⟩⟩
      | .ok roleID =>
        refine ⟨trivial, fun given => ?_⟩
        match given with
        | .error e => exact ⟨rfl, by simp, fun _ _ => ⟨_, mem_cons_self, trivial⟩⟩
        | .ok () => exact ⟨rfl, fun _ => ⟨_, mem_cons_self, rfl⟩, by simp⟩

lemma setPasswordIfNew_safe (userID : String) (existed : Bool)
    (hnew : existed = false → CreatedHere h userID) :
    Safe rule (fun h' result => subjects h' = subjects h ∧ ∀ e, result = .error e → Failed h') h
      (setPasswordIfNew userID existed) := by
  unfold setPasswordIfNew
  split_ifs with hex
  · exact ⟨rfl, by simp⟩
  · refine safe_ask_bind trivial fun password => ?_
    obtain ⟨rep, loc, hmem, hloc⟩ := hnew (by simpa using hex)
    refine ⟨⟨rep, loc, mem_cons_of_mem _ hmem, hloc⟩, fun answer => ?_⟩
    match answer with
    | .error e => exact ⟨rfl, fun _ _ => ⟨_, mem_cons_self, trivial⟩⟩
    | .ok () => exact ⟨rfl, by simp⟩

/-- What a call knows when `provision` has returned. -/
def ProvisionResult (persona : Persona) (h : History) : Except String (String × Bool) → Prop
  | .error _ => (∀ role, ¬ Ensured role h) ∨ Failed h
  | .ok _ => Ensured (realmRole persona) h

/-- **Provisioning** sets passwords of accounts it created only, and grants the role or fails. -/
lemma provision_safe (T : GoText) (persona : Persona) (email displayName : String)
    (hh : ∀ role, ¬ Ensured role h) :
    Safe rule (fun h' result => subjects h' = subjects h ∧ ProvisionResult persona h' result) h
      (provision T persona email displayName) := by
  refine (createUser_safe T ⟨email, email, displayName⟩ hh).bind ?_
  rintro h₁ account - ⟨hsub₁, hens₁, hnew⟩
  match account with
  | .error e => exact ⟨hsub₁, .inl hens₁⟩
  | .ok (userID, existed) =>
    refine (setPasswordIfNew_safe userID existed fun hex => hnew userID (by rw [hex])).bind ?_
    rintro h₂ set - ⟨hsub₂, hfail₂⟩
    rw [hsub₁] at hsub₂
    match set with
    | .error e => exact ⟨hsub₂, .inr (hfail₂ e rfl)⟩
    | .ok () =>
      refine (ensureRealmRole_safe userID (realmRole persona)).bind ?_
      rintro h₃ ensured - ⟨hsub₃, hens₃, hfail₃⟩
      match ensured with
      | .error e => exact ⟨hsub₃.trans hsub₂, .inr (hfail₃ e rfl)⟩
      | .ok () =>
        refine safe_ask_bind trivial fun sent => ?_
        match sent with
        | .error e =>
          exact ⟨hsub₃.trans hsub₂, .inr ⟨_, mem_cons_self, trivial⟩⟩
        | .ok () =>
          exact ⟨hsub₃.trans hsub₂, (hens₃ rfl).of_suffix (suffix_cons _ _)⟩

lemma promise_of_error (persona : Persona) (e : String) (reply : Reply)
    (hresult : ProvisionResult persona h (.error e)) : promise h reply := by
  rintro id ⟨p, -, hens⟩
  rcases hresult with hnone | hfail
  · exact absurd hens (hnone _)
  · exact .inl hfail

variable {id : ℕ}

lemma complete_safe {persona : Persona} (kcID decidedBy : String)
    (hsub : subjects h = [(id, persona)]) (hens : Ensured (realmRole persona) h)
    {f : Except DbError (Option Request) → Code Reply} (hf : ∀ final, ∃ reply, f final = pure reply)
    : Safe rule promise h (storeDecide id .completed kcID decidedBy "" >>= f) := by
  refine safe_ask_bind ⟨persona, by rw [hsub]; simp, hens⟩ fun final => ?_
  obtain ⟨reply, hreply⟩ := hf final
  have hdone : Completed id (⟨.decide id .completed kcID decidedBy "", final⟩ :: h) :=
    ⟨_, mem_cons_self, rfl⟩
  have hsub' : subjects (⟨.decide id .completed kcID decidedBy "", final⟩ :: h) = [(id, persona)] :=
    hsub
  rw [hreply]
  rintro id' ⟨p, hmem, -⟩
  rw [hsub', mem_singleton, Prod.mk.injEq] at hmem
  rw [hmem.1]
  exact .inr hdone

lemma provisionCitizen_safe (req : Request) (retried : Bool)
    (hsub : subjects h = [(id, .citizen)]) (hh : ∀ role, ¬ Ensured role h) :
    Safe rule promise h (provisionCitizen cfg id req retried) := by
  refine (provision_safe cfg.text .citizen req.email req.displayName hh).bind ?_
  rintro h' result - ⟨hsub', hresult⟩
  match result with
  | .error e =>
    refine safe_ask_bind trivial fun merged => promise_of_error .citizen e _ ?_
    rcases hresult with hnone | hfail
    · exact .inl (not_ensured_cons (fun _ => not_false) hnone)
    · exact .inr (hfail.of_suffix (suffix_cons _ _))
  | .ok (kcID, existed) =>
    refine complete_safe kcID "self-service" (hsub'.trans hsub) hresult fun final => ?_
    split <;> exact ⟨_, rfl⟩

lemma adopt_safe (email : String) (hsub : subjects h = [])
    (hh : ∀ role, ¬ Ensured role h) {f : Except DbError (Option (ℕ × Request)) → Code Reply}
    (hfound : ∀ id req, f (.ok (some (id, req))) = provisionCitizen cfg id req true)
    (hnone : ∀ h', subjects h' = [] → (∀ role, ¬ Ensured role h') →
    Safe rule promise h' (f (.ok none))) (herr : ∀ e, ∃ reply, f (.error e) = pure reply) :
    Safe rule promise h (findPending .citizen email >>= f) := by
  refine safe_ask_bind trivial fun found => ?_
  have hfound' := not_ensured_cons (x := ⟨_, found⟩) (fun _ => not_false) hh
  match found with
  | .error e =>
    obtain ⟨reply, hreply⟩ := herr e
    rw [hreply]
    exact promise_of_not_ensured hfound' reply
  | .ok none => exact hnone _ hsub hfound'
  | .ok (some (id, req)) =>
    rw [hfound]
    refine provisionCitizen_safe cfg req true ?_ hfound'
    show (id, Persona.citizen) :: subjects h = _
    rw [hsub]

lemma citizenSelfServe_safe (body : Except String IntakeBody) :
    Safe rule promise [] (citizenSelfServe cfg body) := by
  have hnil : ∀ role, ¬ Ensured role [] := by simp [Ensured]
  unfold citizenSelfServe
  split
  · exact promise_of_not_ensured hnil _
  split
  · exact promise_of_not_ensured hnil _
  refine (safe_of_guarding (verifyCaptcha_guarding _ _) hnil).bind ?_
  rintro h₁ captcha - ⟨hsub₁, hens₁⟩
  split
  · exact promise_of_not_ensured hens₁ _
  refine adopt_safe cfg _ hsub₁ hens₁ (fun id req => rfl) ?_ fun e => ⟨_, rfl⟩
  intro h₂ hsub₂ hens₂
  refine (overVelocity_safe _ hens₂).bind ?_
  rintro h₃ velocity - ⟨hsub₃, hens₃, hcounted⟩
  rw [hsub₂] at hsub₃
  split
  · exact promise_of_not_ensured hens₃ _
  refine safe_ask_bind (hcounted rfl) fun created => ?_
  have hcreated := not_ensured_cons (x := ⟨_, created⟩) (fun _ => not_false) hens₃
  match created with
  | .ok (id, req) =>
    refine provisionCitizen_safe cfg req false ?_ hcreated
    show (id, Persona.citizen) :: subjects h₃ = _
    rw [hsub₃]
  | .error (.other _) => exact promise_of_not_ensured hcreated _
  | .error .uniqueViolation =>
    -- the row of the call that was faster
    refine adopt_safe cfg _ ?_ hcreated (fun id req => rfl) ?_ fun e => ⟨_, rfl⟩
    · exact hsub₃
    · exact fun h' _ hh' => promise_of_not_ensured hh' _

lemma decide_safe (caller : Caller) (id : ℕ)
    (verdict : Option (Except String String)) :
    Safe rule promise [] (decide cfg caller id verdict) := by
  have hnil : ∀ role, ¬ Ensured role [] := by simp [Ensured]
  unfold Onboarding.decide
  split_ifs
  · refine safe_ask_bind trivial fun found => ?_
    have hfound := not_ensured_cons (x := ⟨_, found⟩) (fun _ => not_false) hnil
    match found with
    | .error e => exact promise_of_not_ensured hfound _
    | .ok none => exact promise_of_not_ensured hfound _
    | .ok (some req) =>
      have hsub : subjects [⟨.get id, .ok (some req)⟩] = [(id, req.persona)] := rfl
      refine (safe_of_guarding (pendingTooLong_guarding cfg req) hfound).bind ?_
      rintro h₁ tooLong - ⟨hsub₁, hens₁⟩
      rw [hsub] at hsub₁
      match tooLong with
      | true =>
        refine safe_ask_bind trivial fun expired => promise_of_not_ensured ?_ _
        exact not_ensured_cons (fun _ => not_false) hens₁
      | false =>
        dsimp only
        split_ifs
        · exact promise_of_not_ensured hens₁ _
        · split
          · exact safe_of_filing (reject_filing cfg caller id _) hens₁
          · refine (provision_safe cfg.text _ _ _ hens₁).bind ?_
            rintro h' result - ⟨hsub', hresult⟩
            match result with
            | .error e => exact promise_of_error _ e _ hresult
            | .ok (kcID, existed) =>
              refine complete_safe kcID caller.subject (hsub'.trans hsub₁) hresult fun final => ?_
              split <;> exact ⟨_, rfl⟩
  · exact promise_of_not_ensured hnil _

end Provision

/-! ## Every entry point -/

lemma requireAdmin_safe {caller : Caller} (hp : Prog.Safe rule promise [] p) :
    Prog.Safe rule promise [] (requireAdmin caller p) := by
  unfold requireAdmin
  split_ifs
  · exact hp
  · exact promise_of_not_ensured (by simp [Ensured]) _

/-- **The conduct of the admin-api**: every handler keeps rule and promise. -/
theorem program_safe (cfg : Config) (e : Entry) : Prog.Safe rule promise [] (program cfg e) := by
  have hnil : ∀ role, ¬ Ensured role [] := by simp [Ensured]
  cases e with
  | citizenSelfServe body => exact citizenSelfServe_safe cfg body
  | intake key body => exact intake_safe cfg key body
  | approve caller id => exact requireAdmin_safe (decide_safe cfg caller id none)
  | reject caller id reason => exact requireAdmin_safe (decide_safe cfg caller id (some reason))
  | reconcile caller pages =>
    exact requireAdmin_safe (safe_of_managing (reconcile_managing caller pages))
  | expireSweep => exact safe_of_filing (expireSweep_filing cfg) hnil
  | createUser caller body => exact requireAdmin_safe (safe_of_managing (create_managing cfg body))
  | updateRoles caller id body =>
    exact requireAdmin_safe (safe_of_managing (updateRoles_managing cfg id body))
  | disable caller id =>
    exact requireAdmin_safe (safe_of_managing (setEnabled_managing cfg caller id false))
  | enable caller id =>
    exact requireAdmin_safe (safe_of_managing (setEnabled_managing cfg caller id true))
  | resetPassword caller id =>
    exact requireAdmin_safe (safe_of_managing (resetPassword_managing id))

/-- In every state of every run the calls have kept the rule, and will keep the promise. -/
theorem obeys_of_run {cfg : Config} {realm : Realm} {now : ℤ} {evs : List Event} {p : Calls}
    (h : run (step cfg) (start realm now) evs = some p) : p.Obeys rule promise := by
  have hstart : (start realm now).Obeys rule promise := nofun
  have hprog := program_safe cfg
  exact hstart.of_run hprog h

end H2Fleet.Admin
