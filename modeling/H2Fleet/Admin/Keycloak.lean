import H2Fleet.Admin.World

/-!
# The Keycloak admin client

`internal/keycloak` of the admin-api: the methods of `AdminClient` as `httpClient` implements them,
each a program over HTTP requests.  The texts of the errors are only logged.

`createUser` says whether the account existed: a 409 is turned into the id of the account that has
the address.
-/

namespace H2Fleet.Admin

abbrev Code := Prog Answer

def ask (q : Query) : Code (Answer q) := Prog.query q

lemma asks_ask {S : Query → Prop} {q : Query} (hq : S q) : Prog.Asks S (ask q) :=
  (Prog.asks_query q).mpr hq

lemma safe_ask_bind {pre : List (Exchange Answer) → Query → Prop} {α : Type}
    {post : List (Exchange Answer) → α → Prop} {h : List (Exchange Answer)} {q : Query}
    {f : Answer q → Code α} (hq : pre h q) (hf : ∀ x, Prog.Safe pre post (⟨q, x⟩ :: h) (f x)) :
    Prog.Safe pre post h (ask q >>= f) := ⟨hq, hf⟩

/-- The text behind the last slash: `loc[strings.LastIndex(loc, "/")+1:]`. -/
def lastSegment (loc : String) : String :=
  String.ofList (loc.toList.reverse.takeWhile (· ≠ '/')).reverse

lemma lastSegment_append {base id : String} (hid : '/' ∉ id.toList) :
    lastSegment (base ++ "/" ++ id) = id := by
  have hslash : ("/" : String).toList = ['/'] := rfl
  have htake : (id.toList.reverse ++ '/' :: base.toList.reverse).takeWhile (· ≠ '/')
      = id.toList.reverse := by
    rw [List.takeWhile_append_of_pos]
    · simp
    · intro c hc
      rw [List.mem_reverse] at hc
      simpa using ne_of_mem_of_not_mem hc hid
  rw [lastSegment, String.toList_append, String.toList_append, hslash, List.reverse_append,
    List.reverse_append, List.reverse_singleton, List.singleton_append, htake, List.reverse_reverse,
    String.ofList_toList]

namespace Keycloak

structure CreateUserSpec where
  username : String
  email : String
  displayName : String

/-- `splitDisplayName`: the last field is the last name. -/
def splitDisplayName (T : GoText) (name : String) : String × String :=
  match (T.fields name).reverse with
  | [] => ("", "")
  | [first] => (first, "")
  | last :: rest => (String.intercalate " " rest.reverse, last)

def findUserIDByEmail (email : String) : Code (Except String String) := do
  match ← ask (.getUsersByEmail email) with
  | .error e => return .error e
  | .ok [] => return .error "no user with email"
  | .ok (u :: _) => return .ok u.id

/-- The id of the account, and whether it existed. -/
def createUser (T : GoText) (spec : CreateUserSpec) : Code (Except String (String × Bool)) := do
  let (first, last) := splitDisplayName T spec.displayName
  match ← ask (.postUser ⟨spec.username, spec.email, first, last, true⟩) with
  | .error e => return .error e
  | .ok (.created loc) =>
    if lastSegment loc = "" then return .error "create user: 201 without Location header"
    else return .ok (lastSegment loc, false)
  | .ok .conflict =>
    match ← findUserIDByEmail spec.email with
    | .error e => return .error e
    | .ok id => return .ok (id, true)

def setTemporaryPassword (userID password : String) : Code (Except String Unit) :=
  ask (.putPassword userID password)

def roleRep (role : String) : Code (Except String String) := ask (.getRole role)

def assignRealmRole (userID role : String) : Code (Except String Unit) := do
  match ← roleRep role with
  | .error e => return .error e
  | .ok roleID => ask (.postRoleMapping userID roleID role)

def userRoles (userID : String) : Code (Except String (List String)) :=
  ask (.getRoleMappings userID)

def ensureRealmRole (userID role : String) : Code (Except String Unit) := do
  match ← userRoles userID with
  | .error e => return .error e
  | .ok roles => if role ∈ roles then return .ok () else assignRealmRole userID role

def revokeRealmRole (userID role : String) : Code (Except String Unit) := do
  match ← roleRep role with
  | .error e => return .error e
  | .ok roleID => ask (.deleteRoleMapping userID roleID role)

def sendActionsEmail (userID : String) (actions : List String) : Code (Except String Unit) :=
  ask (.putActionsEmail userID actions)

/-- `User`: the view of an account. -/
structure User where
  id : String
  username : String
  email : String
  firstName : String
  lastName : String
  enabled : Bool
  roles : List String

/-- The client-side search filter of the list of the users of a role. -/
def matchesSearch (T : GoText) (search : String) (u : Account) : Prop :=
  (T.toLower search).toList <:+: (T.toLower (u.username ++ " " ++ u.email)).toList
  deriving Decidable

/-- The loop over the users: each with its roles, or none if they could not be read. -/
def loadUsers (T : GoText) (search role : String) : List Account → Code (List User)
  | [] => return []
  | u :: us => do
    if search ≠ "" ∧ role ≠ "" ∧ ¬ matchesSearch T search u then loadUsers T search role us
    else
      let roles := match ← userRoles u.id with
        | .ok roles => roles
        | .error _ => []
      let rest ← loadUsers T search role us
      return ⟨u.id, u.username, u.email, u.firstName, u.lastName, u.enabled, roles⟩ :: rest

/-- A `max` beyond 500 is replaced by 100. -/
def pageSize (max : ℕ) : ℕ := if max = 0 ∨ 500 < max then 100 else max

def listUsers (T : GoText) (search role : String) (max : ℕ) : Code (Except String (List User)) := do
  match ← (if role ≠ "" then ask (.getRoleUsers role (pageSize max))
      else ask (.getUsers search (pageSize max)) : Code (Except String (List Account))) with
  | .error e => return .error e
  | .ok accounts => return .ok (← loadUsers T search role accounts)

/-- `SetEnabled`: the representation is read, changed and written back. -/
def setEnabled (userID : String) (enabled : Bool) : Code (Except String Unit) := do
  match ← ask (.getUser userID) with
  | .error e => return .error e
  | .ok rep => ask (.putUser userID { rep with enabled := enabled })

end Keycloak

end H2Fleet.Admin
