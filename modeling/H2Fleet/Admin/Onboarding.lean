import H2Fleet.Admin.Keycloak

/-!
# The onboarding handlers

`internal/onboarding` of the admin-api, each handler a program that asks the store, Keycloak, the
captcha service and the clock: `citizenSelfServe` provisions an account at once, `intake` files a
request, `decide` is what `Approve` and `Reject` do, `expireSweep` runs every day, and `reconcile`
ensures the roles of the completed requests.

The loop of `reconcile` over the pages has no bound of its own; the model takes the number of pages
it looks at as an argument, and every finite beginning of a run is a run of it.
-/

namespace H2Fleet.Admin

/-- Who calls, from the claims of the token. -/
structure Caller where
  subject : String
  roles : List String

inductive Reply where
  /-- `httpx.Error`. -/
  | error (code : ℕ) (msg : String)
  | provisioned (code : ℕ) (id : ℕ) (req : Request) (message : String)
  | filed (code : ℕ) (id : ℕ) (req : Request) (deduplicated : Bool)
  | rejected (id : ℕ) (req : Request)
  | approved (id : ℕ) (req : Request) (existingAccount : Bool)
  | reconciled (checked ensured failed : ℕ) (failedIDs : List ℕ)
  /-- The page loop has not come to its end. -/
  | reconciling
  | userCreated (id : String)
  | rolesUpdated (id : String) (added removed : List String)
  | enabledSet (id : String) (enabled : Bool)
  | resetSent (id : String) (message : String)
  /-- A job of `main`, without a caller. -/
  | background

namespace Onboarding

/-! ## The store -/

def findPending (persona : Persona) (email : String) :
    Code (Except DbError (Option (ℕ × Request))) :=
  ask (.findPending persona email)

def countRecent (email : String) (since : ℤ) : Code (Except DbError ℕ) :=
  ask (.countRecent email since)

def create (req : NewRequest) : Code (Except DbError (ℕ × Request)) := ask (.insert req)

def get (id : ℕ) : Code (Except DbError (Option Request)) := ask (.get id)

def storeDecide (id : ℕ) (status : Status) (keycloakSub decidedBy reason : String) :
    Code (Except DbError (Option Request)) :=
  ask (.decide id status keycloakSub decidedBy reason)

def mergeMeta (id : ℕ) (key value : String) : Code (Except DbError (Option Request)) :=
  ask (.mergeMeta id key value)

/-- A limit of 0 or beyond 500 is replaced by 100. -/
def list (status : Option Status) (persona : Option Persona) (limit offset : ℕ) :
    Code (Except DbError (List (ℕ × Request))) :=
  ask (.list status persona (if limit = 0 ∨ 500 < limit then 100 else limit) offset)

/-! ## The intake body -/

structure IntakeBody where
  email : String
  displayName : String
  org : String
  metaDoc : String
  captchaToken : String

/-- The class `\s`. -/
def isSpace (c : Char) : Bool := c ∈ ['\t', '\n', Char.ofNat 12, '\r', ' ']

/-- `emailRe`: something, an at sign, something with a dot inside; no blank, no second at sign. -/
def emailMatches (email : String) : Bool :=
  match email.toList.span (· ≠ '@') with
  | (front, _ :: domain) =>
    front ≠ [] && front.all (!isSpace ·) && domain.all (fun c => !isSpace c && c ≠ '@') &&
      '.' ∈ (domain.drop 1).dropLast
  | (_, []) => false

def IntakeBody.normalized (T : GoText) (b : IntakeBody) : IntakeBody :=
  { b with
    email := T.toLower (T.trimSpace b.email)
    displayName := T.trimSpace b.displayName
    org := T.trimSpace b.org }

/-- `validate`: the normalised body, or the message. -/
def IntakeBody.validate (T : GoText) (body : IntakeBody) : Except String IntakeBody :=
  let b := body.normalized T
  if ¬ emailMatches b.email ∨ 254 < b.email.utf8ByteSize then .error "email is missing or malformed"
  else if b.displayName = "" ∨ 120 < b.displayName.utf8ByteSize then
    .error "display_name is required (max 120 chars)"
  else if 200 < b.org.utf8ByteSize then .error "org too long (max 200 chars)"
  else if 8192 < b.metaDoc.utf8ByteSize then .error "meta too large (max 8 KiB)"
  else if b.metaDoc ≠ "" ∧ ¬ T.jsonValid b.metaDoc then .error "meta must be valid JSON"
  else .ok b

def IntakeBody.validateForPersona (T : GoText) (persona : Persona) (body : IntakeBody) :
    Except String IntakeBody :=
  match body.validate T with
  | .error msg => .error msg
  | .ok b =>
    if persona = .citizen then .ok b
    else if b.org = "" then .error ("org is required for " ++ persona.name ++ " onboarding")
    else if persona = .driver then
      if b.metaDoc = "" then .error "driver onboarding requires meta.license_no"
      else
        match T.licenseNo b.metaDoc with
        | none => .error "driver onboarding requires meta.license_no"
        | some no =>
          let n := (T.trimSpace no).utf8ByteSize
          if n < 4 ∨ 64 < n then .error "meta.license_no is required (4–64 chars)" else .ok b
    else .ok b

def IntakeBody.request (b : IntakeBody) (persona : Persona) : NewRequest :=
  ⟨persona, b.email, b.displayName, b.org, b.metaDoc⟩

/-! ## Guards -/

variable (cfg : Config)

/-- `verifyCaptcha`: the reply that ends the handler, if it does not pass. -/
def verifyCaptcha (token : String) : Code (Option Reply) := do
  if !cfg.captcha then return none
  else if token = "" then return some (.error 400 "captcha_token is required")
  else
    match ← ask (.captcha token) with
    | .unavailable => return some (.error 502 "captcha verification unavailable")
    | .rejected => return some (.error 400 "captcha verification failed")
    | .success => return none

/-- A day, in microseconds. -/
def day : ℤ := 24 * 60 * 60 * 1000000

def maxRequestsPerEmailPerDay : ℕ := 5

def failedToCreate : Reply := .error 500 "failed to create onboarding request"

/-- `overVelocity`: the reply, if the address has filed too much. -/
def overVelocity (email : String) : Code (Option Reply) := do
  let now ← ask .now
  match ← countRecent email (now - day) with
  | .error _ => return some failedToCreate
  | .ok n =>
    if maxRequestsPerEmailPerDay ≤ n then
      return some
        (.error 429 "too many onboarding requests for this email address; try again later")
    else return none

/-! ## Provisioning -/

def welcomeActions : List String := ["VERIFY_EMAIL", "UPDATE_PASSWORD"]

/-- The temporary password, for a brand-new account only. -/
def setPasswordIfNew (userID : String) (existed : Bool) : Code (Except String Unit) := do
  if existed then return .ok ()
  else
    let password ← ask .password
    Keycloak.setTemporaryPassword userID password

/-- `provision`: a new account gets a temporary password, and the account the role. -/
def provision (T : GoText) (persona : Persona) (email displayName : String) :
    Code (Except String (String × Bool)) := do
  match ← Keycloak.createUser T ⟨email, email, displayName⟩ with
  | .error e => return .error e
  | .ok (userID, existed) =>
    match ← setPasswordIfNew userID existed with
    | .error e => return .error e
    | .ok () =>
      match ← Keycloak.ensureRealmRole userID (realmRole persona) with
      | .error e => return .error e
      | .ok () =>
        match ← Keycloak.sendActionsEmail userID welcomeActions with
        | .error e => return .error e
        | .ok () => return .ok (userID, existed)

def provisionCitizen (id : ℕ) (req : Request) (retried : Bool) : Code Reply := do
  match ← provision cfg.text .citizen req.email req.displayName with
  | .error _ =>
    let _ ← mergeMeta id "provision_error" "identity provisioning failed; safe to retry"
    return .error 502 "identity provisioning failed"
  | .ok (kcID, _) =>
    match ← storeDecide id .completed kcID "self-service" "" with
    | .ok (some final) =>
      return .provisioned (if retried then 200 else 201) id final
        "account created; check your email to verify the address and set a password"
    | _ => return .error 500 "failed to finalize onboarding request"

/-! ## Intake -/

def citizenSelfServe (body : Except String IntakeBody) : Code Reply := do
  match body with
  | .error e => return .error 400 ("invalid JSON body: " ++ e)
  | .ok body =>
  match body.validate cfg.text with
  | .error msg => return .error 400 msg
  | .ok body =>
  match ← verifyCaptcha cfg (cfg.text.trimSpace body.captchaToken) with
  | some reply => return reply
  | none =>
  match ← findPending .citizen body.email with
  | .error _ => return failedToCreate
  | .ok (some (id, existing)) => provisionCitizen cfg id existing true
  | .ok none =>
  match ← overVelocity body.email with
  | some reply => return reply
  | none =>
  match ← create (body.request .citizen) with
  | .ok (id, req) => provisionCitizen cfg id req false
  | .error (.other _) => return failedToCreate
  | .error .uniqueViolation =>
    -- a raced duplicate: the winner's row is adopted
    match ← findPending .citizen body.email with
    | .ok (some (id, existing)) => provisionCitizen cfg id existing true
    | _ => return failedToCreate

def intake (key : String) (body : Except String IntakeBody) : Code Reply := do
  match Persona.ofKey key with
  | none => return .error 404 ("unknown onboarding persona: " ++ key)
  | some .citizen => return .error 400 "citizens self-serve via POST /v1/onboarding/citizen"
  | some persona =>
  match body with
  | .error e => return .error 400 ("invalid JSON body: " ++ e)
  | .ok body =>
  match body.validateForPersona cfg.text persona with
  | .error msg => return .error 400 msg
  | .ok body =>
  match ← verifyCaptcha cfg (cfg.text.trimSpace body.captchaToken) with
  | some reply => return reply
  | none =>
  match ← findPending persona body.email with
  | .error _ => return failedToCreate
  | .ok (some (id, existing)) => return .filed 200 id existing true
  | .ok none =>
  match ← overVelocity body.email with
  | some reply => return reply
  | none =>
  match ← create (body.request persona) with
  | .ok (id, req) => return .filed 201 id req false
  | .error (.other _) => return failedToCreate
  | .error .uniqueViolation =>
    match ← findPending persona body.email with
    | .ok (some (id, existing)) => return .filed 200 id existing true
    | _ => return failedToCreate

/-! ## Decisions -/

/-- `Reject`.  The reason is the decoded body, or the error of the decoder. -/
def reject (caller : Caller) (id : ℕ) (reason : Except String String) :
    Code Reply := do
  match reason with
  | .error e => return .error 400 ("invalid JSON body: " ++ e)
  | .ok reason =>
  if 500 < reason.utf8ByteSize then return .error 400 "reason too long (max 500 chars)"
  else
    match ← storeDecide id .rejected "" caller.subject (cfg.text.trimSpace reason) with
    | .ok (some final) => return .rejected id final
    | _ => return .error 500 "failed to reject onboarding request"

def approve (caller : Caller) (id : ℕ) (req : Request) : Code Reply := do
  match ← provision cfg.text req.persona req.email req.displayName with
  | .error _ => return .error 502 "identity provisioning failed"
  | .ok (kcID, existed) =>
    match ← storeDecide id .completed kcID caller.subject "" with
    | .ok (some final) => return .approved id final existed
    | _ => return .error 500 "failed to finalize onboarding request"

def pendingTooLong (req : Request) : Code Bool := do
  if req.status = .pending ∧ 0 < cfg.pendingTTL then
    let now ← ask .now
    return cfg.pendingTTL < now - req.createdAt
  else return false

/-- `decide`: a request pending for too long is expired on the spot.  `verdict` is `none` to
approve, and the body to reject. -/
def decide (caller : Caller) (id : ℕ) (verdict : Option (Except String String)) :
    Code Reply := do
  if "platform-admin" ∉ caller.roles then
    return .error 403 "onboarding decisions require the platform-admin role"
  else
  match ← get id with
  | .error _ => return .error 500 "failed to load onboarding request"
  | .ok none => return .error 404 "onboarding request not found"
  | .ok (some req) =>
  match ← pendingTooLong cfg req with
  | true =>
    let _ ← storeDecide id .expired "" "system:ttl-expiry" ""
    return .error 409 "request expired (pending longer than the onboarding TTL)"
  | false =>
  if req.status ≠ .pending then
    return .error 409 ("request already decided (status=" ++ req.status.text ++ ")")
  else
    match verdict with
    | some reason => reject cfg caller id reason
    | none => approve cfg caller id req

def expireSweep : Code Reply := do
  let now ← ask .now
  let _ ← ask (.expirePending (now - cfg.pendingTTL))
  return .background

/-! ## Reconcile -/

structure Summary where
  checked : ℕ
  ensured : ℕ
  failedIDs : List ℕ

def reconcilePage : List (ℕ × Request) → Summary → Code Summary
  | [], sum => return sum
  | (id, req) :: reqs, sum => do
    let sum := { sum with checked := sum.checked + 1 }
    if req.keycloakSub = "" then reconcilePage reqs sum
    else
      match ← Keycloak.ensureRealmRole req.keycloakSub (realmRole req.persona) with
      | .error _ => reconcilePage reqs { sum with failedIDs := sum.failedIDs ++ [id] }
      | .ok () => reconcilePage reqs { sum with ensured := sum.ensured + 1 }

def page : ℕ := 500

def reconcileFrom : ℕ → ℕ → Summary → Code Reply
  | 0, _, _ => return .reconciling
  | pages + 1, offset, sum => do
    match ← list (some .completed) none page offset with
    | .error _ => return .error 500 "failed to list completed requests"
    | .ok reqs =>
      let sum ← reconcilePage reqs sum
      if reqs.length < page then
        return .reconciled sum.checked sum.ensured sum.failedIDs.length sum.failedIDs
      else reconcileFrom pages (offset + page) sum

def reconcile (caller : Caller) (pages : ℕ) : Code Reply := do
  if "platform-admin" ∉ caller.roles then
    return .error 403 "onboarding reconcile requires the platform-admin role"
  else reconcileFrom pages 0 ⟨0, 0, []⟩

end Onboarding

end H2Fleet.Admin
