import H2Fleet.Admin.Onboarding

/-!
# User management, and the admin-api as a service

`internal/users` of the admin-api, and the entry points of both packages behind the router: `Entry`
is a request with everything its handler reads, `program` the handler behind the router's role gate.
-/

namespace H2Fleet.Admin

namespace Users

/-- The decoded body of `POST /v1/users`. -/
structure CreateBody where
  email : String
  displayName : String
  roles : List String

/-- The decoded body of `PUT /v1/users/{id}/roles`. -/
structure RolesBody where
  add : List String
  remove : List String

/-- The loop that assigns roles, up to the first that fails. -/
def assignRoles (userID : String) : List String → Code (Except String Unit)
  | [] => return .ok ()
  | role :: roles => do
    match ← Keycloak.assignRealmRole userID role with
    | .error _ => return .error role
    | .ok () => assignRoles userID roles

/-- The loop that revokes roles, up to the first that fails. -/
def revokeRoles (userID : String) : List String → Code (Except String Unit)
  | [] => return .ok ()
  | role :: roles => do
    match ← Keycloak.revokeRealmRole userID role with
    | .error _ => return .error role
    | .ok () => revokeRoles userID roles

variable (cfg : Config)

def create (body : Except String CreateBody) : Code Reply := do
  match body with
  | .error e => return .error 400 ("invalid JSON body: " ++ e)
  | .ok body =>
  let email := cfg.text.trimSpace body.email
  let displayName := cfg.text.trimSpace body.displayName
  if email = "" ∨ '@' ∉ email.toList then return .error 400 "email is required"
  else if displayName = "" then return .error 400 "display_name is required"
  else
    match ← Keycloak.createUser cfg.text ⟨email, email, displayName⟩ with
    | .error _ => return .error 502 "failed to create user"
    | .ok (id, true) =>
      return .error 409 ("a user with this email already exists (id=" ++ id ++
        "); manage roles on the existing account")
    | .ok (id, false) =>
      match ← assignRoles id body.roles with
      | .error _ => return .error 502 "user created but role assignment failed"
      | .ok () =>
        -- a failed email is only logged
        let _ ← Keycloak.sendActionsEmail id ["VERIFY_EMAIL", "UPDATE_PASSWORD"]
        return .userCreated id

def soleEnabledPlatformAdmin (targetID : String) : Code (Except String Bool) := do
  match ← Keycloak.listUsers cfg.text "" "platform-admin" 1000 with
  | .error e => return .error e
  | .ok admins =>
    let enabled := admins.countP (·.enabled)
    return .ok (admins.any (fun a => a.id = targetID && a.enabled) && enabled ≤ 1)

/-- The loop of `UpdateRoles` over the roles to remove: the reply, if one must stay. -/
def guardDemotion (id : String) : List String → Code (Option Reply)
  | [] => return none
  | role :: roles => do
    if role ≠ "platform-admin" then guardDemotion id roles
    else
      match ← soleEnabledPlatformAdmin cfg id with
      | .error _ => return some (.error 502 "failed to verify platform-admin accounts")
      | .ok true =>
        return some (.error 409
          "cannot revoke platform-admin from the last enabled platform-admin account")
      | .ok false => guardDemotion id roles

def updateRoles (id : String) (body : Except String RolesBody) : Code Reply := do
  match body with
  | .error e => return .error 400 ("invalid JSON body: " ++ e)
  | .ok body =>
  if body.add = [] ∧ body.remove = [] then
    return .error 400 "provide add and/or remove role lists"
  else
    match ← guardDemotion cfg id body.remove with
    | some reply => return reply
    | none =>
      match ← assignRoles id body.add with
      | .error role => return .error 502 ("failed to assign role " ++ role)
      | .ok () =>
        match ← revokeRoles id body.remove with
        | .error role => return .error 502 ("failed to revoke role " ++ role)
        | .ok () => return .rolesUpdated id body.add body.remove

def writeEnabled (id : String) (enabled : Bool) : Code Reply := do
  match ← Keycloak.setEnabled id enabled with
  | .error _ => return .error 502 "failed to update user"
  | .ok () => return .enabledSet id enabled

/-- `setEnabled`, behind the lockout guards when it disables. -/
def setEnabled (caller : Caller) (id : String) (enabled : Bool) : Code Reply := do
  if enabled then writeEnabled id enabled
  else if id = caller.subject then
    return .error 409 "cannot disable your own account; another platform-admin must do this"
  else
    match ← soleEnabledPlatformAdmin cfg id with
    | .error _ => return .error 502 "failed to verify platform-admin accounts"
    | .ok true => return .error 409 "cannot disable the last enabled platform-admin account"
    | .ok false => writeEnabled id enabled

def resetPassword (id : String) : Code Reply := do
  match ← Keycloak.sendActionsEmail id ["UPDATE_PASSWORD"] with
  | .error _ => return .error 502 "failed to trigger password reset"
  | .ok () => return .resetSent id "password-reset email sent"

end Users

/-! ## The service -/

/-- A request that reaches the admin-api, or the sweep of `main`. -/
inductive Entry where
  | citizenSelfServe (body : Except String Onboarding.IntakeBody)
  | intake (key : String) (body : Except String Onboarding.IntakeBody)
  | approve (caller : Caller) (id : ℕ)
  | reject (caller : Caller) (id : ℕ) (reason : Except String String)
  | reconcile (caller : Caller) (pages : ℕ)
  | expireSweep
  | createUser (caller : Caller) (body : Except String Users.CreateBody)
  | updateRoles (caller : Caller) (id : String) (body : Except String Users.RolesBody)
  | disable (caller : Caller) (id : String)
  | enable (caller : Caller) (id : String)
  | resetPassword (caller : Caller) (id : String)

/-- `RequireRole("platform-admin")` of the router. -/
def requireAdmin (caller : Caller) (handler : Code Reply) : Code Reply :=
  if "platform-admin" ∈ caller.roles then handler
  else return .error 403 "missing required realm role: platform-admin"

def program (cfg : Config) : Entry → Code Reply
  | .citizenSelfServe body => Onboarding.citizenSelfServe cfg body
  | .intake key body => Onboarding.intake cfg key body
  | .approve caller id => requireAdmin caller (Onboarding.decide cfg caller id none)
  | .reject caller id reason =>
    requireAdmin caller (Onboarding.decide cfg caller id (some reason))
  | .reconcile caller pages => requireAdmin caller (Onboarding.reconcile caller pages)
  | .expireSweep => Onboarding.expireSweep cfg
  | .createUser caller body => requireAdmin caller (Users.create cfg body)
  | .updateRoles caller id body => requireAdmin caller (Users.updateRoles cfg id body)
  | .disable caller id => requireAdmin caller (Users.setEnabled cfg caller id false)
  | .enable caller id => requireAdmin caller (Users.setEnabled cfg caller id true)
  | .resetPassword caller id => requireAdmin caller (Users.resetPassword id)

def service (cfg : Config) : Service World Answer Reply Entry Choice ℕ where
  program := program cfg
  answer := World.answer cfg
  ambient := World.tick

abbrev Calls := Pool World Answer Reply

abbrev Event := PoolEvent Entry Choice ℕ

def step (cfg : Config) : Calls → Event → Option Calls := (service cfg).step

def start (realm : Realm) (now : ℤ) : Calls := ⟨World.initial realm now, fun _ => none⟩

end H2Fleet.Admin
