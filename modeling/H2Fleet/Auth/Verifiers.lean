import H2Fleet.Core.Json
import Mathlib.Algebra.Order.Floor.Ring
import Mathlib.Tactic

/-!
# The three token verifiers

`Middleware.verify` of `packages/go-auth`, `KeycloakJwtVerifier.verify` of the Python services and
`jwtAuth` of the analytics BFF.  The comments of the last two say that they mirror the first.

**What a verifier is.**  A program that stops at the first check that fails.  What `golang-jwt`,
`PyJWT` and `jose` do with their options is written out.  Signatures are a parameter, and so are
white space, and `int(…)` and `str(…)` of Python.  A token is what base64 and JSON decoding make of
it.  Times are seconds.

**Grounds.**  `Objects` says, verifier by verifier and ground by ground, when a token is turned
down.  Python has no ground in the audience.  TypeScript has none in the algorithm, which the key
set decides, nor in a missing `exp`.  Go has none in `iat`.  Go forgives one slash at the end of
`iss`, Python any number, TypeScript none.
-/

namespace H2Fleet.Auth.Verify

open List

/-! ## Settings, keys and tokens -/

/-- `KEYCLOAK_ISSUER`, `KEYCLOAK_ISSUER_ALT` and `KEYCLOAK_AUDIENCE`; `none` if not set. -/
structure Settings where
  issuer : Option String
  issuerAlt : Option String
  audience : Option String

/-- An entry of the JWKS document, with the key of its parameters, if they make one. -/
structure Jwk (K : Type) where
  kty : String
  kid : Option String
  alg : Option String
  use : Option String
  keyOps : Option (List String)
  key : Option K

structure Token where
  alg : String
  kid : Option Json
  claims : List (String × Json)

def Token.claim (tok : Token) (name : String) : Option Json := lastMember tok.claims name

/-- What is not in the repository. -/
structure Libraries (K : Type) where
  /-- The signature of the token, for an algorithm and a key. -/
  verifies : String → K → Token → Bool
  goSpace : Char → Bool
  pySpace : Char → Bool
  jsSpace : Char → Bool
  /-- `int(…)` of a string. -/
  pyInt : String → Option ℤ
  /-- `str(…)` of what is no string. -/
  pyStr : Json → String

/-! ## Texts -/

def trim (space : Char → Bool) (s : String) : String :=
  String.ofList ((s.toList.dropWhile space).reverse.dropWhile space).reverse

/-- One slash at the end is dropped. -/
def trimSlash (s : String) : String :=
  if s.toList.getLast? = some '/' then String.ofList s.toList.dropLast else s

/-- All slashes at the end are dropped. -/
def trimSlashes (s : String) : String :=
  String.ofList (s.toList.reverse.dropWhile (· = '/')).reverse

def splitComma (s : String) : List String := (s.toList.splitOn ',').map String.ofList

def defaultAltIssuer : String := "http://localhost:8088/realms/h2fleet"

/-- The loop that collects the issuers, in Go and in Python. -/
def addIssuer (issuers : List String) (a : String) : List String :=
  if a = "" ∨ a ∈ issuers then issuers else issuers ++ [a]

variable {K : Type} (lib : Libraries K) (st : Settings) (keys : List (Jwk K)) (now : ℚ)
  (tok : Token)

/-- The key of a `kid` in Go and in Python: RSA only, the last entry. -/
def rsaKey (kid : String) : Option K :=
  keys.foldl (fun found j => if j.kty = "RSA" ∧ j.kid.getD "" = kid then j.key <|> found else found)
    none

/-- `aud` is a string or a list, in Go and in TypeScript. -/
def audienceContains (aud : Option Json) (want : String) : Bool :=
  match aud with
  | some (.str s) => s = want
  | some (.arr items) => items.any fun
      | .str s => s = want
      | _ => false
  | _ => false

/-! ## Go -/

def goIssuer : String := trimSlash (st.issuer.getD "")

/-- An alternative that is empty is one that is not set. -/
def altOrDefault : String :=
  if st.issuerAlt.getD "" = "" then defaultAltIssuer else st.issuerAlt.getD ""

def goIssuers : List String :=
  ((splitComma (altOrDefault st)).map fun a => trimSlash (trim lib.goSpace a)).foldl addIssuer
    (if goIssuer st = "" then [] else [goIssuer st])

def goAudience : String := trim lib.goSpace (st.audience.getD "")

def goKid : String :=
  match tok.kid with
  | some (.str kid) => kid
  | _ => ""

def goIss : String :=
  match tok.claim "iss" with
  | some (.str iss) => iss
  | _ => ""

/-- A date in whole seconds.  Zero counts as absent, another type is an error. -/
def goDate : Option Json → Option (Option ℤ)
  | none => some none
  | some (.num x) => some (if x = 0 then none else some ⌊x⌋)
  | _ => none

def goSignature : Option Unit := do
  let key ← rsaKey keys (goKid tok)
  guard (lib.verifies tok.alg key tok = true)

variable (claim : Option Json)

/-- `WithExpirationRequired`. -/
def goExpiry : Option Unit := do
  let exp ← (← goDate claim)
  guard (now < exp)

def goNotBefore : Option Unit := do
  match ← goDate claim with
  | none => pure ()
  | some nbf => guard (nbf ≤ now)

/-- `Middleware.verify`. -/
def goVerify : Option Unit := do
  guard (tok.alg = "RS256")
  goSignature lib keys tok
  goExpiry now (tok.claim "exp")
  goNotBefore now (tok.claim "nbf")
  guard (trimSlash (goIss tok) ∈ goIssuers lib st)
  guard (goAudience lib st = "" ∨ audienceContains (tok.claim "aud") (goAudience lib st) = true)

/-! ## Python -/

def pyIssuer : String := trimSlashes (st.issuer.getD "")

def pyIssuers : List String :=
  ((splitComma (altOrDefault st)).map fun a => trimSlashes (trim lib.pySpace a)).foldl addIssuer
    (if pyIssuer st = "" then [] else [pyIssuer st])

/-- `get_unverified_header` insists on a string. -/
def pyKid : Option String :=
  match tok.kid with
  | none => some ""
  | some (.str kid) => some kid
  | _ => none

/-- `int(…)`, which drops the fraction. -/
def pyDate : Json → Option ℤ
  | .num x => some (if 0 ≤ x then ⌊x⌋ else ⌈x⌉)
  | .bool b => some (if b then 1 else 0)
  | .str s => lib.pyInt s
  | _ => none

def pyString : Json → String
  | .str s => s
  | v => lib.pyStr v

/-- A claim that PyJWT wants to be a string if it is there. -/
def stringOrAbsent : Option Json → Bool
  | none | some (.str _) => true
  | _ => false

def pySignature : Option Unit := do
  let kid ← pyKid tok
  let key ← rsaKey keys kid
  guard (lib.verifies tok.alg key tok = true)

/-- A date that may be absent: `iat` and `nbf`. -/
def pyNotInFuture : Option Unit :=
  match claim with
  | none => pure ()
  | some v => do
    let date ← pyDate lib v
    guard (date ≤ now)

def pyExpiry : Option Unit := do
  let date ← pyDate lib (← claim)
  guard (now < date)

def pyIssuerCheck : Option Unit := do
  let iss ← claim
  guard (iss.isNull = false)
  guard (trimSlashes (pyString lib iss) ∈ pyIssuers lib st)

/-- `KeycloakJwtVerifier.verify`: `exp` and `iss` are required, the audience is not verified. -/
def pythonVerify : Option Unit := do
  guard (tok.alg = "RS256")
  pySignature lib keys tok
  pyNotInFuture lib now (tok.claim "iat")
  pyNotInFuture lib now (tok.claim "nbf")
  pyExpiry lib now (tok.claim "exp")
  guard (stringOrAbsent (tok.claim "sub") = true)
  guard (stringOrAbsent (tok.claim "jti") = true)
  pyIssuerCheck lib st (tok.claim "iss")

/-! ## TypeScript -/

def tsIssuer : String := trimSlash (st.issuer.getD "")

/-- Only an alternative that is not set is replaced by the default. -/
def tsIssuers : List String :=
  (tsIssuer st :: (splitComma (st.issuerAlt.getD defaultAltIssuer)).map fun a =>
    trimSlash (trim lib.jsSpace a)).filter (· ≠ "")

def tsAudience : String := st.audience.getD ""

/-- The type of key for an algorithm. -/
def ktyOf (alg : String) : Option String :=
  match alg.toList.take 2 with
  | ['R', 'S'] | ['P', 'S'] => some "RSA"
  | ['E', 'S'] => some "EC"
  | ['E', 'd'] => some "OKP"
  | _ => none

/-- A key that the header of the token can mean. -/
def candidate (kty : String) (j : Jwk K) : Bool :=
  j.kty = kty &&
  (match tok.kid with
    | some (.str kid) => j.kid = some kid
    | _ => true) &&
  j.alg.all (· = tok.alg) && j.use.all (· = "sig") && j.keyOps.all (·.contains "verify")

/-- There has to be exactly one. -/
def tsKey : Option K := do
  let kty ← ktyOf tok.alg
  match keys.filter (candidate tok kty) with
  | [j] => j.key
  | _ => none

def tsSignature : Option Unit := do
  let key ← tsKey keys tok
  guard (lib.verifies tok.alg key tok = true)

/-- A claim that may be absent, but has to be a number that passes the check. -/
def tsNumber (check : ℚ → Prop) [DecidablePred check] (claim : Option Json) : Option Unit :=
  match claim with
  | none => pure ()
  | some (.num x) => guard (check x)
  | _ => none

def tsIssuerCheck : Option Unit :=
  match claim with
  | some (.str iss) => guard (iss ∈ tsIssuers lib st)
  | _ => none

/-- `jwtVerify`: issuer, audience, and the claims of time if they are there. -/
def tsVerify : Option Unit := do
  tsSignature lib keys tok
  tsIssuerCheck lib st (tok.claim "iss")
  guard (tsAudience st = "" ∨ audienceContains (tok.claim "aud") (tsAudience st) = true)
  tsNumber (fun _ => True) (tok.claim "iat")
  tsNumber (fun nbf => nbf ≤ ⌊now⌋) (tok.claim "nbf")
  tsNumber (fun exp => ⌊now⌋ < exp) (tok.claim "exp")

/-! ## Verdicts and grounds -/

inductive Verifier where
  | go
  | python
  | ts

/-- 503, 401, or the request goes on. -/
inductive Verdict where
  | unconfigured
  | invalid
  | accepted
  deriving DecidableEq

/-- What a token can be turned down for. -/
inductive Ground where
  | unconfigured
  | algorithm
  | signature
  | expiry
  | notBefore
  | issuedAt
  | identity
  | issuer
  | audience
  deriving DecidableEq

def verdict : Verifier → Verdict
  | .go =>
    if goIssuer st = "" then .unconfigured
    else if (goVerify lib st keys now tok).isSome then .accepted else .invalid
  | .python =>
    if pyIssuer st = "" then .unconfigured
    else if (pythonVerify lib st keys now tok).isSome then .accepted else .invalid
  | .ts =>
    if tsIssuer st = "" then .unconfigured
    else if (tsVerify lib st keys now tok).isSome then .accepted else .invalid

def Objects : Verifier → Ground → Prop
  | .go, .unconfigured => goIssuer st = ""
  | .python, .unconfigured => pyIssuer st = ""
  | .ts, .unconfigured => tsIssuer st = ""
  | .go, .algorithm | .python, .algorithm => tok.alg ≠ "RS256"
  | .ts, .algorithm => False
  -- There is no key, or it is not the one the token was signed with.
  | .go, .signature => ∀ key, rsaKey keys (goKid tok) = some key →
      lib.verifies tok.alg key tok = false
  | .python, .signature => ∀ kid, pyKid tok = some kid → ∀ key, rsaKey keys kid = some key →
      lib.verifies tok.alg key tok = false
  | .ts, .signature => ∀ key, tsKey keys tok = some key → lib.verifies tok.alg key tok = false
  -- For Go and Python a token without `exp` has expired.
  | .go, .expiry => ∀ x, tok.claim "exp" = some (.num x) → x = 0 ∨ ⌊x⌋ ≤ now
  | .python, .expiry => ∀ v, tok.claim "exp" = some v → ∀ d, pyDate lib v = some d → d ≤ now
  | .ts, .expiry => ∃ v, tok.claim "exp" = some v ∧ ∀ x, v = .num x → x ≤ ⌊now⌋
  | .go, .notBefore => ∃ v, tok.claim "nbf" = some v ∧ ∀ x, v = .num x → x ≠ 0 ∧ now < ⌊x⌋
  | .python, .notBefore => ∃ v, tok.claim "nbf" = some v ∧ ∀ d, pyDate lib v = some d → now < d
  | .ts, .notBefore => ∃ v, tok.claim "nbf" = some v ∧ ∀ x, v = .num x → ⌊now⌋ < x
  | .go, .issuedAt => False
  | .python, .issuedAt => ∃ v, tok.claim "iat" = some v ∧ ∀ d, pyDate lib v = some d → now < d
  | .ts, .issuedAt => ∃ v, tok.claim "iat" = some v ∧ ∀ x, v ≠ .num x
  | .python, .identity => ∃ name ∈ ["sub", "jti"], ∃ v, tok.claim name = some v ∧ ∀ s, v ≠ .str s
  | .go, .identity | .ts, .identity => False
  | .go, .issuer => ∀ iss, tok.claim "iss" = some (.str iss) → trimSlash iss ∉ goIssuers lib st
  | .python, .issuer => ∀ v, tok.claim "iss" = some v → v = .null ∨
      trimSlashes (pyString lib v) ∉ pyIssuers lib st
  | .ts, .issuer => ∀ iss, tok.claim "iss" = some (.str iss) → iss ∉ tsIssuers lib st
  | .go, .audience => goAudience lib st ≠ "" ∧
      audienceContains (tok.claim "aud") (goAudience lib st) = false
  | .ts, .audience => tsAudience st ≠ "" ∧
      audienceContains (tok.claim "aud") (tsAudience st) = false
  | .python, .audience => False

/-- The three accept the token, or none of them does. -/
def Agree : Prop :=
  ∀ v w, verdict lib st keys now tok v = .accepted ↔ verdict lib st keys now tok w = .accepted

/-! ## A token is accepted if there is no ground against it -/

@[simp] lemma guard_eq_some {p : Prop} [Decidable p] : (guard p : Option Unit) = some () ↔ p := by
  by_cases h : p <;> simp [guard, h]

@[simp] lemma bind_unit_eq_some {a b : Option Unit} :
    (a.bind fun _ => b) = some () ↔ a = some () ∧ b = some () := by
  cases a <;> simp

section Checks

variable {lib st keys now tok}

lemma goSignature_iff :
    goSignature lib keys tok = some () ↔ ¬ Objects lib st keys now tok .go .signature := by
  simp [goSignature, Objects, Option.bind_eq_some_iff]

lemma pySignature_iff :
    pySignature lib keys tok = some () ↔ ¬ Objects lib st keys now tok .python .signature := by
  simp [pySignature, Objects, Option.bind_eq_some_iff]

lemma tsSignature_iff :
    tsSignature lib keys tok = some () ↔ ¬ Objects lib st keys now tok .ts .signature := by
  simp [tsSignature, Objects, Option.bind_eq_some_iff]

lemma goExpiry_iff :
    goExpiry now (tok.claim "exp") = some () ↔ ¬ Objects lib st keys now tok .go .expiry := by
  simp only [goExpiry, Objects]
  cases tok.claim "exp" with
  | none => simp [goDate]
  | some v =>
    cases v with
    | num x => by_cases h : x = 0 <;> simp [goDate, h]
    | _ => simp [goDate]

lemma goNotBefore_iff :
    goNotBefore now (tok.claim "nbf") = some () ↔ ¬ Objects lib st keys now tok .go .notBefore := by
  simp only [goNotBefore, Objects]
  cases tok.claim "nbf" with
  | none => simp [goDate]
  | some v =>
    cases v with
    | num x => by_cases h : x = 0 <;> simp [goDate, h]
    | _ => simp [goDate]

variable {claim : Option Json}

lemma pyNotInFuture_iff : pyNotInFuture lib now claim = some () ↔
    ¬ ∃ v, claim = some v ∧ ∀ d, pyDate lib v = some d → now < d := by
  cases claim with
  | none => simp [pyNotInFuture]
  | some v => cases h : pyDate lib v <;> simp [pyNotInFuture, h]

lemma pyExpiry_iff :
    pyExpiry lib now (tok.claim "exp") = some () ↔
    ¬ Objects lib st keys now tok .python .expiry := by
  simp only [pyExpiry, Objects]
  cases tok.claim "exp" with
  | none => simp
  | some v => cases h : pyDate lib v <;> simp [h]

lemma stringOrAbsent_iff : stringOrAbsent claim = true ↔
    ¬ ∃ v, claim = some v ∧ ∀ s, v ≠ .str s := by
  cases claim with
  | none => simp [stringOrAbsent]
  | some v => cases v <;> simp [stringOrAbsent]

lemma isNull_eq_false {v : Json} : v.isNull = false ↔ v ≠ .null := by
  cases v <;> simp [Json.isNull]

lemma pyIssuerCheck_iff : pyIssuerCheck lib st (tok.claim "iss") = some () ↔
    ¬ Objects lib st keys now tok .python .issuer := by
  simp only [pyIssuerCheck, Objects]
  cases tok.claim "iss" with
  | none => simp
  | some v => simp [isNull_eq_false]

lemma tsIssuerCheck_iff : tsIssuerCheck lib st (tok.claim "iss") = some () ↔
    ¬ Objects lib st keys now tok .ts .issuer := by
  simp only [tsIssuerCheck, Objects]
  cases tok.claim "iss" with
  | none => simp
  | some v => cases v <;> simp

lemma tsNumber_iff {check : ℚ → Prop} [DecidablePred check] :
    tsNumber check claim = some () ↔ ¬ ∃ v, claim = some v ∧ ∀ x, v = .num x → ¬ check x := by
  cases claim with
  | none => simp [tsNumber]
  | some v => cases v <;> simp [tsNumber]

lemma mem_foldl_addIssuer {x : String} : ∀ {as issuers : List String},
    x ∈ as.foldl addIssuer issuers ↔ x ∈ issuers ∨ x ∈ as ∧ x ≠ ""
  | [], issuers => by simp
  | a :: as, issuers => by
    rw [foldl_cons, @mem_foldl_addIssuer x as]
    unfold addIssuer
    split
    · rename_i h
      constructor
      · rintro (hx | ⟨hx, hne⟩)
        · exact .inl hx
        · exact .inr ⟨mem_cons_of_mem _ hx, hne⟩
      · rintro (hx | ⟨hx, hne⟩)
        · exact .inl hx
        · rcases mem_cons.mp hx with rfl | hx
          · exact .inl (h.resolve_left hne)
          · exact .inr ⟨hx, hne⟩
    · rename_i h
      simp only [mem_append, mem_cons, not_mem_nil, or_false]
      constructor
      · rintro ((hx | rfl) | ⟨hx, hne⟩)
        · exact .inl hx
        · exact .inr ⟨.inl rfl, fun hx => h (.inl hx)⟩
        · exact .inr ⟨.inr hx, hne⟩
      · rintro (hx | ⟨rfl | hx, hne⟩)
        · exact .inl (.inl hx)
        · exact .inl (.inr rfl)
        · exact .inr ⟨hx, hne⟩

lemma audience_iff {want : String} {aud : Option Json} :
    (want = "" ∨ audienceContains aud want = true) ↔
    ¬ (want ≠ "" ∧ audienceContains aud want = false) := by
  rw [not_and_or, not_not, Bool.not_eq_false]

lemma goIss_iff : trimSlash (goIss tok) ∈ goIssuers lib st ↔
    ¬ Objects lib st keys now tok .go .issuer := by
  have hempty : trimSlash "" ∉ goIssuers lib st := by
    rw [goIssuers, mem_foldl_addIssuer]
    rintro (hmem | ⟨-, hne⟩)
    · split_ifs at hmem with h
      · cases hmem
      · exact h (mem_singleton.mp hmem).symm
    · exact hne rfl
  simp only [goIss, Objects]
  cases tok.claim "iss" with
  | none => simp [hempty]
  | some v => cases v <;> simp [hempty]

end Checks

lemma goVerify_iff : goVerify lib st keys now tok = some () ↔
    ∀ g, g ≠ .unconfigured → ¬ Objects lib st keys now tok .go g := by
  simp only [goVerify, Option.bind_eq_bind, bind_unit_eq_some, guard_eq_some,
    @goSignature_iff _ _ st _ now, @goExpiry_iff _ lib st keys, @goNotBefore_iff _ lib st keys,
    @goIss_iff _ _ _ keys now, audience_iff]
  constructor
  · rintro ⟨halg, hsig, hexp, hnbf, hiss, haud⟩ g hg
    cases g with
    | unconfigured => exact absurd rfl hg
    | algorithm => exact not_not.mpr halg
    | issuedAt | identity => exact id
    | signature | expiry | notBefore | issuer | audience => assumption
  · intro h
    exact ⟨not_not.mp (h .algorithm (by simp)), h .signature (by simp), h .expiry (by simp),
      h .notBefore (by simp), h .issuer (by simp), h .audience (by simp)⟩

lemma pythonVerify_iff : pythonVerify lib st keys now tok = some () ↔
    ∀ g, g ≠ .unconfigured → ¬ Objects lib st keys now tok .python g := by
  simp only [pythonVerify, Option.bind_eq_bind, bind_unit_eq_some, guard_eq_some,
    @pySignature_iff _ _ st _ now, @pyExpiry_iff _ _ st keys, pyNotInFuture_iff, stringOrAbsent_iff,
    @pyIssuerCheck_iff _ _ _ keys now]
  constructor
  · rintro ⟨halg, hsig, hiat, hnbf, hexp, hsub, hjti, hiss⟩ g hg
    cases g with
    | unconfigured => exact absurd rfl hg
    | algorithm => exact not_not.mpr halg
    | identity =>
      rintro ⟨name, hname, hbad⟩
      rcases mem_pair.mp hname with rfl | rfl
      · exact hsub hbad
      · exact hjti hbad
    | audience => exact id
    | signature | expiry | notBefore | issuedAt | issuer => assumption
  · intro h
    exact ⟨not_not.mp (h .algorithm (by simp)), h .signature (by simp), h .issuedAt (by simp),
      h .notBefore (by simp), h .expiry (by simp),
      fun hbad => h .identity (by simp) ⟨"sub", by simp, hbad⟩,
      fun hbad => h .identity (by simp) ⟨"jti", by simp, hbad⟩, h .issuer (by simp)⟩

lemma tsVerify_iff : tsVerify lib st keys now tok = some () ↔
    ∀ g, g ≠ .unconfigured → ¬ Objects lib st keys now tok .ts g := by
  simp only [tsVerify, Option.bind_eq_bind, bind_unit_eq_some, guard_eq_some,
    @tsSignature_iff _ _ st _ now, tsNumber_iff, @tsIssuerCheck_iff _ _ _ keys now, audience_iff,
    not_true_eq_false, not_le, not_lt]
  constructor
  · rintro ⟨hsig, hiss, haud, hiat, hnbf, hexp⟩ g hg
    cases g with
    | unconfigured => exact absurd rfl hg
    | algorithm | identity => exact id
    | signature | expiry | notBefore | issuedAt | issuer | audience => assumption
  · intro h
    exact ⟨h .signature (by simp), h .issuer (by simp), h .audience (by simp),
      h .issuedAt (by simp), h .notBefore (by simp), h .expiry (by simp)⟩

lemma verdict_eq_accepted {issuer : String} {checks : Option Unit} :
    (if issuer = "" then Verdict.unconfigured
      else if checks.isSome then .accepted else .invalid) = .accepted ↔
    issuer ≠ "" ∧ checks = some () := by
  by_cases h : issuer = ""
  · simp [h]
  · cases checks <;> simp [h]

lemma forall_ground {P : Ground → Prop} : (∀ g, P g) ↔
    P .unconfigured ∧ ∀ g, g ≠ .unconfigured → P g :=
  ⟨fun h => ⟨h _, fun g _ => h g⟩, fun h g => by
    by_cases hg : g = .unconfigured
    · exact hg ▸ h.1
    · exact h.2 g hg⟩

/-- **A token is accepted if the verifier has no ground against it.** -/
theorem accepted_iff (v : Verifier) : verdict lib st keys now tok v = .accepted ↔
    ∀ g, ¬ Objects lib st keys now tok v g := by
  rw [forall_ground]
  cases v with
  | go => rw [verdict, verdict_eq_accepted, goVerify_iff]; rfl
  | python => rw [verdict, verdict_eq_accepted, pythonVerify_iff]; rfl
  | ts => rw [verdict, verdict_eq_accepted, tsVerify_iff]; rfl

/-- Signatures are good, and a blank is the only white space. -/
def anySignature : Libraries Unit :=
  ⟨fun _ _ _ => true, (· = ' '), (· = ' '), (· = ' '), fun _ => none, fun _ => ""⟩

def realm : String := "http://keycloak:8080/realms/h2fleet"

def audienceSet : Settings := ⟨some realm, none, some "h2fleet-api"⟩

def realmKey : Jwk Unit := ⟨"RSA", some "k1", some "RS256", some "sig", none, some ()⟩

/-- **The three verifiers agree** on a token exactly if none has a ground against it, or each. -/
theorem verifiers_agree_iff : Agree lib st keys now tok ↔
    (∀ v g, ¬ Objects lib st keys now tok v g) ∨ ∀ v, ∃ g, Objects lib st keys now tok v g := by
  simp only [Agree, accepted_iff]
  constructor
  · intro h
    by_cases hgo : ∀ g, ¬ Objects lib st keys now tok .go g
    · exact .inl fun v => (h .go v).mp hgo
    · refine .inr fun v => ?_
      have hv : ¬ ∀ g, ¬ Objects lib st keys now tok v g := fun hv => hgo ((h .go v).mpr hv)
      simpa using hv
  · rintro (hnone | heach) v w
    · exact ⟨fun _ => hnone w, fun _ => hnone v⟩
    · have hv : ∀ v, ¬ ∀ g, ¬ Objects lib st keys now tok v g := fun v hall =>
        (heach v).elim fun g hg => hall g hg
      exact ⟨fun h => absurd h (hv v), fun h => absurd h (hv w)⟩

/-- A token of the realm without an audience; and one that never expires. -/
theorem verifiers_disagree : ¬ Agree anySignature audienceSet [realmKey] 1500
        ⟨"RS256", some (.str "k1"), [("iss", .str realm), ("exp", .num 2000)]⟩ ∧
    ¬ Agree anySignature { audienceSet with audience := none } [realmKey] 1500
        ⟨"RS256", some (.str "k1"), [("iss", .str realm)]⟩ := by
  constructor
  · intro h
    exact absurd ((h .python .go).mp (by decide +kernel)) (by decide +kernel)
  · intro h
    exact absurd ((h .ts .go).mp (by decide +kernel)) (by decide +kernel)

/-! ## Tokens of a realm -/

/-- No blanks around the settings, no slash at the end, no alternative set to nothing. -/
structure Clean {K : Type} (lib : Libraries K) (st : Settings) : Prop where
  issuer : ∃ i, st.issuer = some i ∧ i ≠ "" ∧ trimSlash i = i ∧ trimSlashes i = i
  alt : st.issuerAlt ≠ some ""
  alts : ∀ a ∈ splitComma (altOrDefault st), trim lib.goSpace a = a ∧ trim lib.pySpace a = a ∧
    trim lib.jsSpace a = a ∧ trimSlash a = a ∧ trimSlashes a = a
  audience : goAudience lib st = tsAudience st

/-- A token as a realm issues it, in the time since. -/
structure OfRealm {K : Type} (keys : List (Jwk K)) (now : ℚ) (tok : Token) : Prop where
  alg : tok.alg = "RS256"
  key : ∃ kid before j after, tok.kid = some (.str kid) ∧ kid ≠ "" ∧ keys = before ++ j :: after ∧
    (∀ j' ∈ before ++ after, j'.kid ≠ some kid) ∧ j.kty = "RSA" ∧ j.kid = some kid ∧
    candidate tok "RSA" j = true
  exp : ∃ n : ℕ, n ≠ 0 ∧ tok.claim "exp" = some (.num n)
  nbf : tok.claim "nbf" = none ∨ ∃ n : ℕ, n ≠ 0 ∧ tok.claim "nbf" = some (.num n)
  iat : tok.claim "iat" = none ∨ ∃ n : ℕ, tok.claim "iat" = some (.num n) ∧ n ≤ now
  names : ∀ name ∈ ["sub", "jti"], tok.claim name = none ∨ ∃ s, tok.claim name = some (.str s)
  iss : ∃ s, tok.claim "iss" = some (.str s) ∧ trimSlash s = s ∧ trimSlashes s = s

section Realm

variable {lib st keys now tok}

lemma Clean.issuers (h : Clean lib st) (x : String) :
    (x ∈ goIssuers lib st ↔ x ∈ tsIssuers lib st) ∧
    (x ∈ pyIssuers lib st ↔ x ∈ tsIssuers lib st) := by
  obtain ⟨i, hi, hne, hslash, hslashes⟩ := h.issuer
  have halt : altOrDefault st = st.issuerAlt.getD defaultAltIssuer := by
    unfold altOrDefault
    cases hst : st.issuerAlt with
    | none => simp
    | some a =>
      have ha : a ≠ "" := fun heq => h.alt (by rw [hst, heq])
      simp [ha]
  have hmap : ∀ f : String → String, (∀ a ∈ splitComma (altOrDefault st), f a = a) →
      (splitComma (altOrDefault st)).map f = splitComma (altOrDefault st) := fun f hf =>
    (map_congr_left hf).trans (map_id' _)
  have hgo : goIssuer st = i := by simp [goIssuer, hi, hslash]
  have hpy : pyIssuer st = i := by simp [pyIssuer, hi, hslashes]
  have hts : tsIssuer st = i := hgo
  have hmem : x ∈ tsIssuers lib st ↔ x = i ∨ x ∈ splitComma (altOrDefault st) ∧ x ≠ "" := by
    rw [tsIssuers, ← halt, hts, hmap _ fun a ha => by
      obtain ⟨-, -, htrim, hslash, -⟩ := h.alts a ha
      rw [htrim, hslash]]
    simp only [mem_filter, mem_cons, decide_eq_true_eq]
    constructor
    · rintro ⟨rfl | hx, hx'⟩
      · exact .inl rfl
      · exact .inr ⟨hx, hx'⟩
    · rintro (rfl | ⟨hx, hx'⟩)
      · exact ⟨.inl rfl, hne⟩
      · exact ⟨.inr hx, hx'⟩
  rw [hmem]
  constructor
  · rw [goIssuers, hgo, if_neg hne, mem_foldl_addIssuer, mem_singleton, hmap _ fun a ha => by
      obtain ⟨htrim, -, -, hslash, -⟩ := h.alts a ha
      rw [htrim, hslash]]
  · rw [pyIssuers, hpy, if_neg hne, mem_foldl_addIssuer, mem_singleton, hmap _ fun a ha => by
      obtain ⟨-, htrim, -, -, hslash⟩ := h.alts a ha
      rw [htrim, hslash]]

lemma OfRealm.keys_eq (h : OfRealm keys now tok) :
    ∃ kid, goKid tok = kid ∧ pyKid tok = some kid ∧ tsKey keys tok = rsaKey keys kid := by
  obtain ⟨kid, before, j, after, htok, hkid, rfl, hother, hkty, hj, hcand⟩ := h.key
  refine ⟨kid, by simp [goKid, htok], by simp [pyKid, htok], ?_⟩
  have hskip : ∀ (js : List (Jwk K)) (found : Option K), (∀ j' ∈ js, j'.kid ≠ some kid) →
      js.foldl (fun found j => if j.kty = "RSA" ∧
      j.kid.getD "" = kid then j.key <|> found else found)
        found = found := by
    intro js
    induction js with
    | nil => simp
    | cons j' js ih =>
      intro found hjs
      have hne : j'.kid.getD "" ≠ kid := by
        have := hjs j' mem_cons_self
        cases hk : j'.kid with
        | none => simpa [eq_comm] using hkid
        | some k => simpa [hk] using this
      rw [foldl_cons, if_neg fun hc => hne hc.2]
      exact ih found fun j'' hj'' => hjs j'' (mem_cons_of_mem _ hj'')
  have hnot : ∀ j' ∈ before ++ after, candidate tok "RSA" j' = false := fun j' hj' => by
    simp [candidate, htok, hother j' hj']
  have hfilter : (before ++ j :: after).filter (candidate tok "RSA") = [j] := by
    rw [filter_append, filter_cons_of_pos hcand,
      filter_eq_nil_iff.mpr fun j' hj' => by simp [hnot j' (mem_append_left _ hj')],
      filter_eq_nil_iff.mpr fun j' hj' => by simp [hnot j' (mem_append_right _ hj')]]
    rfl
  have hts : tsKey (before ++ j :: after) tok = j.key := by
    have hkty : ktyOf tok.alg = some "RSA" := by rw [h.alg]; decide
    simp only [tsKey, hkty, Option.bind_eq_bind, Option.bind_some, hfilter]
  rw [hts, rsaKey, foldl_append, foldl_cons,
    hskip before none fun j' hj' => hother j' (mem_append_left _ hj'), if_pos ⟨hkty, by simp [hj]⟩,
    hskip after _ fun j' hj' => hother j' (mem_append_right _ hj')]
  simp

lemma OfRealm.objects_iff (h : OfRealm keys now tok) (hst : Clean lib st) :
    ∀ v g, g ≠ .audience →
    (Objects lib st keys now tok v g ↔ Objects lib st keys now tok .go g) := by
  obtain ⟨i, hi, hne, hslash, hslashes⟩ := hst.issuer
  obtain ⟨kid, hgoKid, hpyKid, hkey⟩ := h.keys_eq
  obtain ⟨n, hn, hexp⟩ := h.exp
  obtain ⟨iss, hiss, htrim, htrims⟩ := h.iss
  have hfloor : ∀ n : ℕ, ⌊now⌋ < (n : ℚ) ↔ now < n := fun n => by
    rw [← Int.cast_natCast, Int.cast_lt, Int.floor_lt]
  intro v g hg
  cases g with
  | audience => exact absurd rfl hg
  | unconfigured =>
    cases v <;> simp [Objects, goIssuer, pyIssuer, tsIssuer, hi, hne, hslash, hslashes]
  | algorithm => cases v <;> simp [Objects, h.alg]
  | signature => cases v <;> simp [Objects, hgoKid, hpyKid, hkey]
  | expiry =>
    have hle := not_lt.symm.trans ((not_congr (hfloor n)).trans not_lt)
    cases v <;> simp [Objects, hexp, hn, hle, pyDate]
  | notBefore =>
    rcases h.nbf with hnbf | ⟨m, hm, hnbf⟩
    · cases v <;> simp [Objects, hnbf]
    · cases v <;> simp [Objects, hnbf, hm, hfloor, pyDate]
  | issuedAt =>
    rcases h.iat with hiat | ⟨m, hiat, hle⟩
    · cases v <;> simp [Objects, hiat]
    · cases v <;> simp [Objects, hiat, pyDate, hle]
  | identity =>
    cases v with
    | python =>
      refine iff_of_false ?_ id
      rintro ⟨name, hname, v, hv, hstr⟩
      rcases h.names name hname with hnone | ⟨s, hs⟩
      · simp [hnone] at hv
      · exact hstr s (Option.some.inj (hv.symm.trans hs))
    | go | ts => rfl
  | issuer =>
    obtain ⟨hgo, hpy⟩ := hst.issuers iss
    cases v <;> simp [Objects, hiss, htrim, htrims, pyString, hgo, hpy]

/-- **For the tokens and settings of a realm** the verifiers agree, unless only the audience is
against the token: then Python accepts it. -/
theorem agree_on_realm_token_iff (hst : Clean lib st) (h : OfRealm keys now tok) :
    Agree lib st keys now tok ↔ tsAudience st = "" ∨
      audienceContains (tok.claim "aud") (tsAudience st) = true ∨
      ∃ g, g ≠ .audience ∧ Objects lib st keys now tok .go g := by
  have hshared := h.objects_iff hst
  by_cases hother : ∃ g, g ≠ .audience ∧ Objects lib st keys now tok .go g
  · obtain ⟨g, hg, hobj⟩ := hother
    have hnone : ∀ v, ¬ verdict lib st keys now tok v = .accepted := fun v hv =>
      (accepted_iff lib st keys now tok v).mp hv g ((hshared v g hg).mpr hobj)
    exact iff_of_true (fun v w => iff_of_false (hnone v) (hnone w)) (.inr (.inr ⟨g, hg, hobj⟩))
  · have haccepted : ∀ v, verdict lib st keys now tok v = .accepted ↔
        ¬ Objects lib st keys now tok v .audience := fun v => by
      rw [accepted_iff]
      refine ⟨fun hv => hv _, fun hv g => ?_⟩
      by_cases hg : g = .audience
      · exact hg ▸ hv
      · exact fun hobj => hother ⟨g, hg, (hshared v g hg).mp hobj⟩
    have hgo : Objects lib st keys now tok .go .audience ↔
      Objects lib st keys now tok .ts .audience := by
      simp only [Objects, hst.audience]
    have haudience : ¬ Objects lib st keys now tok .ts .audience ↔ tsAudience st = "" ∨
        audienceContains (tok.claim "aud") (tsAudience st) = true := audience_iff.symm
    simp only [Agree, haccepted, or_iff_left hother, ← haudience]
    constructor
    · exact fun hagree => (hagree .python .ts).mp id
    · intro hts v w
      have hall : ∀ v, ¬ Objects lib st keys now tok v .audience := fun v => by
        cases v with
        | go => rwa [hgo]
        | python => exact id
        | ts => exact hts
      exact iff_of_true (hall v) (hall w)

end Realm

/-- A token of the realm for the audience that is set. -/
theorem agree_on_realm_token : Agree anySignature audienceSet [realmKey] 1500 ⟨"RS256",
    some (.str "k1"),
    [("iss", .str realm), ("aud", .str "h2fleet-api"), ("exp", .num (2000 : ℕ)),
    ("sub", .str "r1")]⟩ := by
  refine (agree_on_realm_token_iff ⟨⟨realm, rfl, ?_⟩, ?_, ?_, ?_⟩ ⟨rfl, ⟨"k1", [], realmKey, [],
    rfl, ?_⟩, ⟨2000, by simp, rfl⟩, .inl rfl, .inl rfl, ?_, realm, rfl, ?_⟩).mpr (.inr (.inl ?_))
  · decide +kernel
  · decide
  · decide +kernel
  · decide +kernel
  · exact ⟨by decide, rfl, by simp, rfl, rfl, by decide +kernel⟩
  · intro name hname
    rcases mem_pair.mp hname with rfl | rfl
    · exact .inr ⟨"r1", rfl⟩
    · exact .inl rfl
  · decide +kernel
  · decide +kernel

end H2Fleet.Auth.Verify
