import H2Fleet.Core.Interaction

/-!
# What the admin-api works on

The table `platform.onboarding_requests`, the Keycloak realm, the clock, and the queries that the
handlers of the admin-api ask of them.

**Outside the repository.**  `GoText` has the functions of Go's `strings` and `encoding/json`,
Postgres' `lower` and Keycloak's normal form of names and addresses.  Keycloak's Admin REST API is
`World.perform`: `POST /users` answers 409 exactly when the user name or the address is taken, and
otherwise creates an account under a new id, the last segment of the `Location` header.

**Failures.**  Every statement and every HTTP request can fail, before it was executed or after
(`Fault`): an answer that got lost is a failure to the caller.

**Rows.**  A request is known by its position in the table; its uuid is only compared, in the order
of `List`.  Instants are whole microseconds; the clocks of service and database agree.
-/

namespace H2Fleet.Admin

/-! ## Requests -/

/-- The personas of the onboarding intake. -/
inductive Persona where
  | citizen
  | driver
  | operator
  | stationStaff
  | advertiser
  | dataPartner
  | govViewer
  deriving DecidableEq

def Persona.name : Persona → String
  | .citizen => "citizen"
  | .driver => "driver"
  | .operator => "operator"
  | .stationStaff => "station-staff"
  | .advertiser => "advertiser"
  | .dataPartner => "data-partner"
  | .govViewer => "gov-viewer"

/-- `personaRoles`: the realm role that a persona is provisioned with. -/
def realmRole : Persona → String
  | .citizen => "citizen"
  | .driver => "driver"
  | .operator => "operator"
  | .stationStaff => "station-staff"
  | .advertiser => "citizen"
  | .dataPartner => "citizen"
  | .govViewer => "citizen"

/-- The persona of a path segment. -/
def Persona.ofKey (key : String) : Option Persona :=
  [.citizen, .driver, .operator, .stationStaff, .advertiser, .dataPartner, .govViewer].find?
    (·.name = key)

inductive Status where
  | pending
  | approved
  | rejected
  | completed
  | expired
  deriving DecidableEq

def Status.text : Status → String
  | .pending => "pending"
  | .approved => "approved"
  | .rejected => "rejected"
  | .completed => "completed"
  | .expired => "expired"

/-- The column `meta`: the document, and the keys merged into it, in order. -/
structure Meta where
  filed : String
  merged : List (String × String)

/-- A row of `platform.onboarding_requests`. -/
structure Request where
  uuid : ℕ
  persona : Persona
  email : String
  displayName : String
  org : String
  status : Status
  keycloakSub : String
  metaDoc : Meta
  createdAt : ℤ
  decidedAt : Option ℤ
  decidedBy : String

/-- What `Create` inserts. -/
structure NewRequest where
  persona : Persona
  email : String
  displayName : String
  org : String
  metaDoc : String

/-! ## The realm -/

/-- An account.  A credential is a password with its `temporary` flag. -/
structure Account where
  id : String
  username : String
  email : String
  firstName : String
  lastName : String
  enabled : Bool
  roles : List String
  credential : Option (String × Bool)

/-- The body of `POST /users` and of `PUT /users/{id}`. -/
structure UserRep where
  username : String
  email : String
  firstName : String
  lastName : String
  enabled : Bool

def Account.rep (u : Account) : UserRep := ⟨u.username, u.email, u.firstName, u.lastName, u.enabled⟩

structure Realm where
  accounts : List Account
  roleNames : List String

/-- The answer to `POST /users`: 201 with a `Location`, or 409. -/
inductive PostUserAnswer where
  | created (location : String)
  | conflict

inductive CaptchaAnswer where
  | success
  | rejected
  | unavailable

inductive DbError where
  | uniqueViolation
  | other (msg : String)

/-! ## Queries -/

inductive Query where
  | now
  | password
  | captcha (token : String)
  | findPending (persona : Persona) (email : String)
  | countRecent (email : String) (since : ℤ)
  | insert (req : NewRequest)
  | get (id : ℕ)
  | decide (id : ℕ) (status : Status) (keycloakSub decidedBy reason : String)
  | mergeMeta (id : ℕ) (key value : String)
  | expirePending (before : ℤ)
  | list (status : Option Status) (persona : Option Persona) (limit offset : ℕ)
  | postUser (rep : UserRep)
  | getUsersByEmail (email : String)
  | putPassword (userID password : String)
  | getRole (role : String)
  | getRoleMappings (userID : String)
  | postRoleMapping (userID roleID role : String)
  | deleteRoleMapping (userID roleID role : String)
  | putActionsEmail (userID : String) (actions : List String)
  | getRoleUsers (role : String) (max : ℕ)
  | getUsers (search : String) (max : ℕ)
  | getUser (userID : String)
  | putUser (userID : String) (rep : UserRep)

@[reducible] def Answer : Query → Type
  | .now => ℤ
  | .password => String
  | .captcha _ => CaptchaAnswer
  | .findPending _ _ => Except DbError (Option (ℕ × Request))
  | .countRecent _ _ => Except DbError ℕ
  | .insert _ => Except DbError (ℕ × Request)
  | .get _ => Except DbError (Option Request)
  | .decide _ _ _ _ _ => Except DbError (Option Request)
  | .mergeMeta _ _ _ => Except DbError (Option Request)
  | .expirePending _ => Except DbError ℕ
  | .list _ _ _ _ => Except DbError (List (ℕ × Request))
  | .postUser _ => Except String PostUserAnswer
  | .getUsersByEmail _ => Except String (List Account)
  | .putPassword _ _ => Except String Unit
  | .getRole _ => Except String String
  | .getRoleMappings _ => Except String (List String)
  | .postRoleMapping _ _ _ => Except String Unit
  | .deleteRoleMapping _ _ _ => Except String Unit
  | .putActionsEmail _ _ => Except String Unit
  | .getRoleUsers _ _ => Except String (List Account)
  | .getUsers _ _ => Except String (List Account)
  | .getUser _ => Except String UserRep
  | .putUser _ _ => Except String Unit

variable {q : Query}

def Query.decision : Query → Option (ℕ × Status)
  | .decide id status _ _ _ => some (id, status)
  | _ => none

lemma Query.of_mem_decision {d : ℕ × Status} (h : d ∈ q.decision) :
    ∃ sub decidedBy reason, q = .decide d.1 d.2 sub decidedBy reason := by
  cases q with
  | decide id status sub decidedBy reason =>
    cases h
    exact ⟨sub, decidedBy, reason, rfl⟩
  | _ => cases h

/-! ## The environment -/

structure GoText where
  /-- `strings.ToLower`, `strings.TrimSpace`, `strings.Fields`, `json.Valid`. -/
  toLower : String → String
  trimSpace : String → String
  fields : String → List String
  jsonValid : String → Bool
  /-- The field `license_no` of a document, or an error. -/
  licenseNo : String → Option String
  /-- `lower` of Postgres. -/
  lower : String → String
  /-- The form in which Keycloak compares user names and addresses. -/
  fold : String → String
  /-- Keycloak's search over users. -/
  finds : String → UserRep → Bool

structure Config where
  text : GoText
  /-- `PendingTTL`, in microseconds. -/
  pendingTTL : ℤ
  /-- A captcha is configured. -/
  captcha : Bool
  /-- The address of the realm's users, before the id in a `Location`. -/
  usersURL : String

structure World where
  requests : List Request
  realm : Realm
  now : ℤ

inductive Fault where
  | none
  | refused
  | lost
  deriving DecidableEq

/-- What the environment decides about one query. -/
structure Choice where
  fault : Fault := .none
  error : String := "unreachable"
  userID : String := ""
  uuid : ℕ := 0
  password : String := ""
  captcha : CaptchaAnswer := .success

/-- `WHERE persona = $1 AND lower(email) = lower($2) AND status = 'pending'`. -/
def Request.pendingFor (T : GoText) (persona : Persona) (email : String) (r : Request) : Bool :=
  r.persona = persona && T.lower r.email = T.lower email && r.status = .pending

/-- `WHERE lower(email) = lower($1) AND created_at >= $2`. -/
def Request.recentFor (T : GoText) (email : String) (since : ℤ) (r : Request) : Bool :=
  T.lower r.email = T.lower email && since ≤ r.createdAt

/-- The row that `INSERT INTO platform.onboarding_requests` writes. -/
def NewRequest.row (req : NewRequest) (uuid : ℕ) (now : ℤ) : Request where
  uuid := uuid
  persona := req.persona
  email := req.email
  displayName := req.displayName
  org := req.org
  status := .pending
  keycloakSub := ""
  metaDoc := ⟨if req.metaDoc = "" then "\x7b\x7d" else req.metaDoc, []⟩
  createdAt := now
  decidedAt := none
  decidedBy := ""

/-- The row after the UPDATE of `Decide`. -/
def Request.decided (r : Request) (status : Status) (keycloakSub decidedBy reason : String)
    (now : ℤ) : Request :=
  { r with
    status := status
    keycloakSub := if keycloakSub = "" then r.keycloakSub else keycloakSub
    decidedAt := some now
    decidedBy := decidedBy
    metaDoc := if reason = "" then r.metaDoc
      else { r.metaDoc with merged := r.metaDoc.merged ++ [("reject_reason", reason)] } }

/-- The row after the UPDATE of `ExpirePending`. -/
def Request.swept (r : Request) (before now : ℤ) : Request :=
  if r.status = .pending ∧ r.createdAt < before then
    { r with status := .expired, decidedAt := some now, decidedBy := "system:ttl-expiry" }
  else r

/-- `ORDER BY created_at DESC, id`. -/
def ListOrder (p q : ℕ × Request) : Prop :=
  q.2.createdAt < p.2.createdAt ∨ (q.2.createdAt = p.2.createdAt ∧ p.2.uuid ≤ q.2.uuid)

instance : DecidableRel ListOrder := fun _ _ => inferInstanceAs (Decidable (_ ∨ _))

/-- `WHERE ($1 = '' OR status = $1) AND ($2 = '' OR persona = $2)`. -/
def Request.listed (status : Option Status) (persona : Option Persona) (r : Request) : Bool :=
  status.all (r.status = ·) && persona.all (r.persona = ·)

/-- `SELECT … ORDER BY created_at DESC, id LIMIT $3 OFFSET $4`. -/
def listRequests (rows : List Request) (status : Option Status) (persona : Option Persona)
    (limit offset : ℕ) : List (ℕ × Request) :=
  let found := (rows.zipIdx.map fun p => (p.2, p.1)).filter fun p => p.2.listed status persona
  ((found.insertionSort ListOrder).drop offset).take limit

namespace Realm

def find (realm : Realm) (userID : String) : Option Account :=
  realm.accounts.find? (·.id = userID)

/-- The user name or the address is taken. -/
def taken (T : GoText) (realm : Realm) (rep : UserRep) : Bool :=
  realm.accounts.any fun u =>
    T.fold u.username = T.fold rep.username || T.fold u.email = T.fold rep.email

def add (realm : Realm) (id : String) (rep : UserRep) : Realm :=
  { realm with accounts := realm.accounts ++
      [⟨id, rep.username, rep.email, rep.firstName, rep.lastName, rep.enabled, [], none⟩] }

def modify (realm : Realm) (userID : String) (f : Account → Account) : Realm :=
  { realm with accounts := realm.accounts.map fun u => if u.id = userID then f u else u }

def ids (realm : Realm) : List String := realm.accounts.map Account.id

end Realm

/-- An id that Keycloak can give to a new account: unused, and one path segment. -/
def FreshID (realm : Realm) (id : String) : Prop :=
  id ∉ realm.ids ∧ id ≠ "" ∧ '/' ∉ id.toList
  deriving Decidable

namespace World

/-- A write to an account that exists, answered 204, or 404. -/
def onAccount (w : World) (userID : String) (f : Account → Account) : World × Except String Unit :=
  match w.realm.find userID with
  | none => (w, .error "status 404")
  | some _ => ({ w with realm := w.realm.modify userID f }, .ok ())

def perform (cfg : Config) (w : World) : (q : Query) → Choice → Option (World × Answer q)
  | .now, _ => some (w, w.now)
  | .password, x => some (w, x.password)
  | .captcha _, x => some (w, x.captcha)
  | .findPending persona email, _ =>
    some (w, .ok ((w.requests.zipIdx.find? fun p => p.1.pendingFor cfg.text persona email).map
      fun p => (p.2, p.1)))
  | .countRecent email since, _ =>
    some (w, .ok (w.requests.countP (Request.recentFor cfg.text email since)))
  | .insert req, x =>
    -- the partial unique index on (persona, lower(email)) WHERE status = 'pending'
    if w.requests.any (Request.pendingFor cfg.text req.persona req.email) then
      some (w, .error .uniqueViolation)
    else
      let row := req.row x.uuid w.now
      some ({ w with requests := w.requests ++ [row] }, .ok (w.requests.length, row))
  | .get id, _ => some (w, .ok (w.requests[id]?))
  | .decide id status keycloakSub decidedBy reason, _ =>
    match w.requests[id]? with
    | none => some (w, .ok none)
    | some r =>
      let r' := r.decided status keycloakSub decidedBy reason w.now
      some ({ w with requests := w.requests.set id r' }, .ok (some r'))
  | .mergeMeta id key value, _ =>
    match w.requests[id]? with
    | none => some (w, .ok none)
    | some r =>
      let r' := { r with metaDoc := { r.metaDoc with
        merged := r.metaDoc.merged ++ [(key, value)] } }
      some ({ w with requests := w.requests.set id r' }, .ok (some r'))
  | .expirePending before, _ =>
    some ({ w with requests := w.requests.map (Request.swept · before w.now) },
      .ok (w.requests.countP fun r => r.status = .pending ∧ r.createdAt < before))
  | .list status persona limit offset, _ =>
    some (w, .ok (listRequests w.requests status persona limit offset))
  | .postUser rep, x =>
    if w.realm.taken cfg.text rep then some (w, .ok .conflict)
    else if FreshID w.realm x.userID then
      some ({ w with realm := w.realm.add x.userID rep },
        .ok (.created (cfg.usersURL ++ "/" ++ x.userID)))
    else none
  | .getUsersByEmail email, _ =>
    some (w, .ok (w.realm.accounts.filter fun u => cfg.text.fold u.email = cfg.text.fold email))
  | .putPassword userID password, _ =>
    some (w.onAccount userID fun u => { u with credential := some (password, true) })
  | .getRole role, _ =>
    some (w, if role ∈ w.realm.roleNames then .ok ("role:" ++ role) else .error "status 404")
  | .getRoleMappings userID, _ =>
    some (w, match w.realm.find userID with
      | none => .error "status 404"
      | some u => .ok u.roles)
  | .postRoleMapping userID _ role, _ =>
    some (w.onAccount userID fun u =>
      { u with roles := if role ∈ u.roles then u.roles else u.roles ++ [role] })
  | .deleteRoleMapping userID _ role, _ =>
    some (w.onAccount userID fun u => { u with roles := u.roles.filter (· ≠ role) })
  | .putActionsEmail userID _, _ => some (w.onAccount userID id)
  | .getRoleUsers role max, _ =>
    some (w, if role ∈ w.realm.roleNames then
        .ok ((w.realm.accounts.filter (role ∈ ·.roles)).take max)
      else .error "status 404")
  | .getUsers search max, _ =>
    some (w, .ok ((w.realm.accounts.filter fun u =>
      search = "" || cfg.text.finds search u.rep).take max))
  | .getUser userID, _ =>
    some (w, match w.realm.find userID with
      | none => .error "status 404"
      | some u => .ok u.rep)
  | .putUser userID rep, _ =>
    some (w.onAccount userID fun u =>
      { u with
        username := rep.username, email := rep.email, firstName := rep.firstName
        lastName := rep.lastName, enabled := rep.enabled })

end World

def failure (error : String) : (q : Query) → Option (Answer q)
  | .now | .password | .captcha _ => none
  | .findPending _ _ | .countRecent _ _ | .insert _ | .get _ | .decide _ _ _ _ _ | .mergeMeta _ _ _
  | .expirePending _ | .list _ _ _ _ => some (.error (.other error))
  | .postUser _ | .getUsersByEmail _ | .putPassword _ _ | .getRole _ | .getRoleMappings _
  | .postRoleMapping _ _ _ | .deleteRoleMapping _ _ _ | .putActionsEmail _ _ | .getRoleUsers _ _
  | .getUsers _ _ | .getUser _ | .putUser _ _ => some (.error error)

/-- One query: it succeeds, or fails before or after it was executed. -/
def World.answer (cfg : Config) (w : World) (q : Query) (x : Choice) : Option (World × Answer q) :=
  match x.fault with
  | .none => w.perform cfg q x
  | .refused => (failure x.error q).map fun a => (w, a)
  | .lost => (w.perform cfg q x).bind fun p => (failure x.error q).map fun a => (p.1, a)

def World.tick (w : World) (d : ℕ) : Option World := some { w with now := w.now + d }

def World.initial (realm : Realm) (now : ℤ) : World := ⟨[], realm, now⟩

variable {cfg : Config} {w w' : World} {x : Choice} {a : Answer q}

variable (h : w.answer cfg q x = some (w', a))
include h

lemma World.answer_refused (hx : x.fault = .refused) : w' = w := by
  rw [World.answer, hx] at h
  obtain ⟨b, -, hb⟩ := Option.map_eq_some_iff.mp h
  exact (congrArg Prod.fst hb).symm

lemma World.answer_executed (hx : x.fault ≠ .refused) :
    ∃ a', w.perform cfg q x = some (w', a') := by
  unfold World.answer at h
  split at h
  · exact ⟨a, h⟩
  · rename_i hfault
    exact absurd hfault hx
  · obtain ⟨⟨w'', b⟩, hp, hb⟩ := Option.bind_eq_some_iff.mp h
    obtain ⟨c, -, hc⟩ := Option.map_eq_some_iff.mp hb
    obtain rfl : w'' = w' := congrArg Prod.fst hc
    exact ⟨b, hp⟩

lemma World.answer_world : w' = w ∨ ∃ a', w.perform cfg q x = some (w', a') := by
  by_cases hx : x.fault = .refused
  · exact .inl (World.answer_refused h hx)
  · exact .inr (World.answer_executed h hx)

lemma World.answer_or_failure : w.perform cfg q x = some (w', a) ∨ failure x.error q = some a := by
  unfold World.answer at h
  split at h
  · exact .inl h
  · obtain ⟨b, hb, heq⟩ := Option.map_eq_some_iff.mp h
    rw [Prod.mk.injEq] at heq
    exact .inr (heq.2 ▸ hb)
  · obtain ⟨p, -, hp⟩ := Option.bind_eq_some_iff.mp h
    obtain ⟨b, hb, heq⟩ := Option.map_eq_some_iff.mp hp
    rw [Prod.mk.injEq] at heq
    exact .inr (heq.2 ▸ hb)

omit h

/-! ## What a query does to the table -/

/-- The tables that a query can leave behind. -/
inductive World.Writes (w : World) : Query → List Request → Prop
  | same (q : Query) : Writes w q w.requests
  | inserted (req : NewRequest) (uuid : ℕ) :
      Writes w (.insert req) (w.requests ++ [req.row uuid w.now])
  | decided (id : ℕ) (status : Status) (sub decidedBy reason : String) (r : Request)
      (hr : w.requests[id]? = some r) : Writes w (.decide id status sub decidedBy reason)
        (w.requests.set id (r.decided status sub decidedBy reason w.now))
  | merged (id : ℕ) (key value : String) (r : Request) (hr : w.requests[id]? = some r) :
      Writes w (.mergeMeta id key value) (w.requests.set id
        { r with metaDoc := { r.metaDoc with merged := r.metaDoc.merged ++ [(key, value)] } })
  | swept (before : ℤ) :
      Writes w (.expirePending before) (w.requests.map (Request.swept · before w.now))

lemma World.perform_writes (h : w.perform cfg q x = some (w', a)) :
    w.Writes q w'.requests ∧ w'.now = w.now := by
  cases q with
  | insert req =>
    simp only [perform] at h
    split_ifs at h <;> cases h
    · exact ⟨.same _, rfl⟩
    · exact ⟨.inserted req x.uuid, rfl⟩
  | decide id status sub decidedBy reason =>
    simp only [perform] at h
    split at h <;> cases h
    · exact ⟨.same _, rfl⟩
    · exact ⟨.decided id status sub decidedBy reason _ (by assumption), rfl⟩
  | mergeMeta id key value =>
    simp only [perform] at h
    split at h <;> cases h
    · exact ⟨.same _, rfl⟩
    · exact ⟨.merged id key value _ (by assumption), rfl⟩
  | expirePending before =>
    cases h
    exact ⟨.swept before, rfl⟩
  | postUser rep =>
    simp only [perform] at h
    split_ifs at h <;> cases h <;> exact ⟨.same _, rfl⟩
  | putPassword | postRoleMapping | deleteRoleMapping | putActionsEmail | putUser =>
    have h := Option.some.inj h
    rw [onAccount] at h
    split at h <;> (rw [Prod.mk.injEq] at h; rw [← h.1]; exact ⟨.same _, rfl⟩)
  | _ =>
    simp only [perform, Option.some.injEq, Prod.mk.injEq] at h
    rw [← h.1]
    exact ⟨.same _, rfl⟩

lemma World.answer_writes (h : w.answer cfg q x = some (w', a)) :
    w.Writes q w'.requests ∧ w'.now = w.now := by
  rcases World.answer_world h with rfl | ⟨a', hp⟩
  · exact ⟨.same q, rfl⟩
  · exact World.perform_writes hp

/-! ## Plain text

The functions on ASCII text; documents are not looked into. -/

def asciiLower (s : String) : String := String.ofList (s.toList.map Char.toLower)

def asciiFields (s : String) : List String :=
  ((s.toList.splitOn ' ').filter (· ≠ [])).map String.ofList

def asciiText : GoText where
  toLower := asciiLower
  trimSpace s :=
    String.ofList ((s.toList.dropWhile (· = ' ')).reverse.dropWhile (· = ' ')).reverse
  fields := asciiFields
  jsonValid _ := true
  licenseNo doc := some doc
  lower := asciiLower
  fold := asciiLower
  finds _ _ := true

/-- Thirty days, no captcha. -/
def plainConfig : Config where
  text := asciiText
  pendingTTL := 30 * 24 * 60 * 60 * 1000000
  captcha := false
  usersURL := "/admin/realms/h2fleet/users"

end H2Fleet.Admin
