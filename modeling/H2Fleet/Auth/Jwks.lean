import H2Fleet.Core.Run

/-!
# The signing keys of the Go middleware

`publicKey` and `refreshJWKS` of `packages/go-auth`: the keys of the realm are cached for five
minutes, a `kid` that is not in the cache asks for them early, but not within ten seconds of the
last success, and a key is served beyond its five minutes when the realm cannot be reached.
-/

namespace H2Fleet.Auth

/-! ## Documents -/

/-- An entry of a JWKS document, with the members that the code reads. -/
structure JwksKey where
  kty : String
  kid : String
  n : String
  e : String

/-- `rsa.PublicKey`.  The exponent is an `int` of 64 bits. -/
structure PublicKey where
  n : ℕ
  e : BitVec 64

/-- `SetBytes`: the bytes as a number, the highest first. -/
def ofBytes (bytes : List UInt8) : ℕ := bytes.foldl (fun n b => n * 256 + b.toNat) 0

/-- `e = e<<8 | int(b)`, for each byte. -/
def exponent (bytes : List UInt8) : BitVec 64 :=
  bytes.foldl (fun e b => e <<< 8 ||| BitVec.ofNat 64 b.toNat) 0#64

variable {kid : String} (decode : String → Option (List UInt8))

/-- The error is only logged. -/
def parseRSAPublicKey (nB64 eB64 : String) : Option PublicKey :=
  match decode nB64, decode eB64 with
  | some nBytes, some eBytes =>
    if exponent eBytes = 0#64 then none else some ⟨ofBytes nBytes, exponent eBytes⟩
  | _, _ => none

def JwksKey.key (k : JwksKey) : Option PublicKey :=
  if k.kty = "RSA" then parseRSAPublicKey decode k.n k.e else none

/-- The loop over the entries: a later one replaces an earlier one of its `kid`. -/
def keysOf : List JwksKey → (String → Option PublicKey) → String → Option PublicKey
  | [], keys => keys
  | k :: doc, keys =>
    match k.key decode with
    | none => keysOf doc keys
    | some key => keysOf doc (Function.update keys k.kid (some key))

/-- `len(keys) > 0`. -/
def Usable (doc : List JwksKey) : Prop := ∃ k ∈ doc, k.key decode ≠ none
  deriving Decidable

/-- An entry has the key for the `kid`, and no later one of that `kid` is usable. -/
def Listed (doc : List JwksKey) (kid : String) (key : PublicKey) : Prop :=
  ∃ before k after, doc = before ++ k :: after ∧ k.kid = kid ∧ k.key decode = some key ∧
    ∀ k' ∈ after, k'.kid = kid → k'.key decode = none

lemma keysOf_eq_some {doc : List JwksKey} {keys : String → Option PublicKey} {key : PublicKey}
    (h : keysOf decode doc keys kid = some key) :
    Listed decode doc kid key ∨
      (keys kid = some key ∧ ∀ k ∈ doc, k.kid = kid → k.key decode = none) := by
  induction doc generalizing keys with
  | nil => exact .inr ⟨h, by simp⟩
  | cons k doc ih =>
    cases hk : k.key decode with
    | none =>
      simp only [keysOf, hk] at h
      rcases ih h with ⟨before, k', after, rfl, hrest⟩ | ⟨hkeys, hnone⟩
      · exact .inl ⟨k :: before, k', after, rfl, hrest⟩
      · refine .inr ⟨hkeys, fun k' hk' hkid => ?_⟩
        rcases List.mem_cons.mp hk' with rfl | hk'
        · exact hk
        · exact hnone k' hk' hkid
    | some new =>
      simp only [keysOf, hk] at h
      rcases ih h with ⟨before, k', after, rfl, hrest⟩ | ⟨hkeys, hnone⟩
      · exact .inl ⟨k :: before, k', after, rfl, hrest⟩
      · by_cases hkid : k.kid = kid
        · rw [← hkid, Function.update_self] at hkeys
          exact .inl ⟨[], k, doc, rfl, hkid, hk.trans hkeys, hnone⟩
        · rw [Function.update_of_ne (Ne.symm hkid)] at hkeys
          refine .inr ⟨hkeys, fun k' hk' hkid' => ?_⟩
          rcases List.mem_cons.mp hk' with rfl | hk'
          · exact absurd hkid' hkid
          · exact hnone k' hk' hkid'

lemma listed_of_keysOf {doc : List JwksKey} {key : PublicKey}
    (h : keysOf decode doc (fun _ => none) kid = some key) : Listed decode doc kid key :=
  (keysOf_eq_some decode h).resolve_right fun hnone => by simp at hnone

/-! ## The middleware -/

/-- `GET` of the JWKS document: an error, or a status with a body that may decode. -/
inductive Fetch where
  | error (text : String)
  | response (status : ℕ) (doc : Except String (List JwksKey))

/-- The cached keys, and when they were fetched; `none` is the zero time. -/
structure Middleware where
  keys : String → Option PublicKey
  fetchedAt : Option ℤ

open Middleware

/-- Five minutes, in nanoseconds. -/
def maxAge : ℤ := 5 * 60 * 1000000000

/-- Ten seconds, in nanoseconds. -/
def minRefresh : ℤ := 10 * 1000000000

/-- The clock at the staleness check, under the lock and at the store, and the fetch. -/
structure PublicKeyCall where
  kid : String
  checked : ℤ
  locked : ℤ
  stored : ℤ
  fetch : Fetch

/-- What a call did: the fetch it attempted, if any, and what it returned. -/
structure Served where
  call : PublicKeyCall
  fetch : Option Fetch
  key : Except String PublicKey

namespace Middleware

def new : Middleware := ⟨fun _ => none, none⟩

/-- `time.Since(m.fetchedAt) > 5*time.Minute`; the zero time is ages ago. -/
def stale (m : Middleware) (now : ℤ) : Prop := ∀ t ∈ m.fetchedAt, maxAge < now - t
  deriving Decidable

/-- `time.Since(m.fetchedAt) < 10*time.Second`. -/
def throttled (m : Middleware) (now : ℤ) : Prop := ∃ t ∈ m.fetchedAt, now - t < minRefresh
  deriving Decidable

/-- The part of `refreshJWKS` behind the check of the interval. -/
def store (m : Middleware) (now : ℤ) : Fetch → Middleware × Except String Unit
  | .error text => (m, .error ("fetch jwks: " ++ text))
  | .response status doc =>
    if status ≠ 200 then (m, .error ("fetch jwks: status " ++ toString status))
    else
      match doc with
      | .error text => (m, .error ("decode jwks: " ++ text))
      | .ok doc =>
        if Usable decode doc then (⟨keysOf decode doc fun _ => none, some now⟩, .ok ())
        else (m, .error "jwks document contained no usable RSA keys")

/-- `refreshJWKS`, with the fetch that it attempted. -/
def refreshJWKS (m : Middleware) (c : PublicKeyCall) :
    Middleware × Option Fetch × Except String Unit :=
  if m.throttled c.locked then (m, none, .ok ())
  else ((m.store decode c.stored c.fetch).1, some c.fetch, (m.store decode c.stored c.fetch).2)

def lookup (m : Middleware) (kid : String) : Except String PublicKey :=
  match m.keys kid with
  | some key => .ok key
  | none => .error ("unknown kid " ++ kid.quote)

def publicKey (m : Middleware) (c : PublicKeyCall) : Middleware × Served :=
  match m.keys c.kid, decide (m.stale c.checked) with
  | some key, false => (m, ⟨c, none, .ok key⟩)
  | known, _ =>
    match m.refreshJWKS decode c with
    | (m', fetch, .ok ()) => (m', ⟨c, fetch, m'.lookup c.kid⟩)
    | (m', fetch, .error text) =>
      match known with
      -- the stale key rather than a failure
      | some key => (m', ⟨c, fetch, .ok key⟩)
      | none => (m', ⟨c, fetch, .error text⟩)

end Middleware

/-! ## Runs -/

/-- The middleware with the log of its calls, newest first, and the clock. -/
structure KeyServer where
  mw : Middleware
  log : List Served
  clock : ℤ

namespace KeyServer

def start (now : ℤ) : KeyServer := ⟨.new, [], now⟩

/-- One call; the clock does not go back. -/
def step (s : KeyServer) (c : PublicKeyCall) : Option KeyServer :=
  if s.clock ≤ c.checked ∧ c.checked ≤ c.locked ∧ c.locked ≤ c.stored then
    some ⟨(s.mw.publicKey decode c).1, (s.mw.publicKey decode c).2 :: s.log, c.stored⟩
  else none

end KeyServer

/-! ## The last document -/

section LastDocument

def Fetch.document : Fetch → Option (List JwksKey)
  | .response status (.ok doc) => if status = 200 ∧ Usable decode doc then some doc else none
  | _ => none

def Served.document (r : Served) : Option (List JwksKey × ℤ) :=
  (r.fetch.bind (Fetch.document decode)).map (·, r.call.stored)

def lastDocument (log : List Served) : Option (List JwksKey × ℤ) :=
  log.findSome? (Served.document decode)

structure Middleware.Current (m : Middleware) (log : List Served) : Prop where
  keys : m.keys = keysOf decode (((lastDocument decode log).map Prod.fst).getD []) fun _ => none
  fetchedAt : m.fetchedAt = (lastDocument decode log).map Prod.snd

variable {decode}

/-- **A store is a success exactly with a document.** -/
lemma Middleware.store_cases (decode : String → Option (List UInt8)) (m : Middleware)
    (now : ℤ) (f : Fetch) :
    (∃ doc, f.document decode = some doc ∧
        m.store decode now f = (⟨keysOf decode doc fun _ => none, some now⟩, .ok ())) ∨
      (f.document decode = none ∧ ∃ text, m.store decode now f = (m, .error text)) := by
  cases f with
  | error text => exact .inr ⟨rfl, _, rfl⟩
  | response status doc =>
    by_cases hstatus : status = 200
    · cases doc with
      | error text => exact .inr ⟨rfl, "decode jwks: " ++ text, by simp [store, hstatus]⟩
      | ok doc =>
        by_cases husable : Usable decode doc
        · exact .inl ⟨doc, by simp [Fetch.document, hstatus, husable],
            by simp [store, hstatus, husable]⟩
        · refine .inr ⟨by simp [Fetch.document, husable],
            "jwks document contained no usable RSA keys", ?_⟩
          simp [store, hstatus, husable]
    · refine .inr ⟨?_, "fetch jwks: status " ++ toString status, by simp [store, hstatus]⟩
      cases doc <;> simp [Fetch.document, hstatus]

variable {m : Middleware} {c : PublicKeyCall}

/-- **Stale keys are never held back**: five minutes are longer than ten seconds. -/
lemma Middleware.attempts (hclock : c.checked ≤ c.locked) (hstale : m.stale c.checked) :
    ¬ m.throttled c.locked := by
  rintro ⟨t, ht, hsoon⟩
  have hold := hstale t ht
  simp only [maxAge] at hold
  simp only [minRefresh] at hsoon
  omega

variable {r : Served}

lemma lastDocument_cons_of_none {older : List Served} (h : r.document decode = none) :
    lastDocument decode (r :: older) = lastDocument decode older := by
  simp [lastDocument, h]

namespace Middleware

/-- The ways `refreshJWKS` can go. -/
inductive Refreshed (decode : String → Option (List UInt8)) (m : Middleware)
    (c : PublicKeyCall) : Middleware × Option Fetch × Except String Unit → Prop
  | skipped (h : m.throttled c.locked) : Refreshed decode m c (m, none, .ok ())
  | fetched (doc : List JwksKey) (h : c.fetch.document decode = some doc) :
      Refreshed decode m c (⟨keysOf decode doc fun _ => none, some c.stored⟩, some c.fetch, .ok ())
  | failed (text : String) (hopen : ¬ m.throttled c.locked) (h : c.fetch.document decode = none) :
      Refreshed decode m c (m, some c.fetch, .error text)

lemma refreshed (decode : String → Option (List UInt8)) (m : Middleware)
    (c : PublicKeyCall) : m.Refreshed decode c (m.refreshJWKS decode c) := by
  by_cases h : m.throttled c.locked
  · rw [refreshJWKS, if_pos h]
    exact .skipped h
  · rw [refreshJWKS, if_neg h]
    rcases m.store_cases decode c.stored c.fetch with ⟨doc, hdoc, hstore⟩ | ⟨hdoc, text, hstore⟩
    · rw [hstore]
      exact .fetched doc hdoc
    · rw [hstore]
      exact .failed text h hdoc

/-- The ways `publicKey` can go. -/
inductive Answers (decode : String → Option (List UInt8)) (m : Middleware)
    (c : PublicKeyCall) : Middleware × Served → Prop
  | cached (key : PublicKey) (hkey : m.keys c.kid = some key) (hfresh : ¬ m.stale c.checked) :
      Answers decode m c (m, ⟨c, none, .ok key⟩)
  | skipped (h : m.throttled c.locked) (hwhy : m.keys c.kid = none ∨ m.stale c.checked) :
      Answers decode m c (m, ⟨c, none, m.lookup c.kid⟩)
  | fetched (doc : List JwksKey) (m' : Middleware) (h : c.fetch.document decode = some doc)
      (hm' : m' = ⟨keysOf decode doc fun _ => none, some c.stored⟩) :
      Answers decode m c (m', ⟨c, some c.fetch, m'.lookup c.kid⟩)
  | kept (key : PublicKey) (hkey : m.keys c.kid = some key) (h : c.fetch.document decode = none) :
      Answers decode m c (m, ⟨c, some c.fetch, .ok key⟩)
  | failed (text : String) (h : c.fetch.document decode = none) :
      Answers decode m c (m, ⟨c, some c.fetch, .error text⟩)

lemma answers_of_refresh (decode : String → Option (List UInt8))
    (hwhy : m.keys c.kid = none ∨ m.stale c.checked) :
    m.Answers decode c (match m.refreshJWKS decode c with
      | (m', fetch, .ok ()) => (m', ⟨c, fetch, m'.lookup c.kid⟩)
      | (m', fetch, .error text) =>
        match m.keys c.kid with
        | some key => (m', ⟨c, fetch, .ok key⟩)
        | none => (m', ⟨c, fetch, .error text⟩)) := by
  have hcases := m.refreshed decode c
  generalize m.refreshJWKS decode c = out at hcases ⊢
  cases hcases with
  | skipped h => exact .skipped h hwhy
  | fetched doc h => exact .fetched doc _ h rfl
  | failed text hopen h =>
    cases hkey : m.keys c.kid with
    | some key => exact .kept key hkey h
    | none => exact .failed text h

lemma publicKey_answers (decode : String → Option (List UInt8)) (m : Middleware)
    (c : PublicKeyCall) : m.Answers decode c (m.publicKey decode c) := by
  cases hkey : m.keys c.kid with
  | none =>
    have hrefresh := answers_of_refresh decode (.inl hkey)
    rw [hkey] at hrefresh
    simpa only [publicKey, hkey] using hrefresh
  | some key =>
    by_cases hstale : m.stale c.checked
    · have hrefresh := answers_of_refresh decode (.inr hstale)
      rw [hkey] at hrefresh
      simpa only [publicKey, hkey, hstale, decide_true] using hrefresh
    · simp only [publicKey, hkey, hstale, decide_false]
      exact .cached key hkey hstale

lemma lookup_eq_ok {key : PublicKey} (h : m.lookup kid = .ok key) : m.keys kid = some key := by
  cases hkey : m.keys kid with
  | none => simp [lookup, hkey] at h
  | some key' => simpa [lookup, hkey] using h

end Middleware

variable {log : List Served}

lemma Middleware.Current.listed (hm : m.Current decode log) {key : PublicKey}
    (hkey : m.keys kid = some key) :
    ∃ doc t, lastDocument decode log = some (doc, t) ∧ m.fetchedAt = some t ∧
      Listed decode doc kid key := by
  cases hlast : lastDocument decode log with
  | none => simp [hm.keys, hlast, keysOf] at hkey
  | some d =>
    rw [hm.keys, hlast] at hkey
    exact ⟨d.1, d.2, rfl, by rw [hm.fetchedAt, hlast]; rfl, listed_of_keysOf decode hkey⟩

/-- What a call has served: a key of the last document, young enough or asked for in vain. -/
def Sound (decode : String → Option (List UInt8)) (r : Served) (older : List Served) : Prop :=
  ∀ key, r.key = .ok key → ∃ doc t, lastDocument decode (r :: older) = some (doc, t) ∧
    Listed decode doc r.call.kid key ∧
    (maxAge < r.call.checked - t → ∃ f, r.fetch = some f ∧ f.document decode = none)

lemma Middleware.Current.cons (hm : m.Current decode log) (hr : r.document decode = none) :
    m.Current decode (r :: log) := by
  refine ⟨?_, ?_⟩
  · rw [lastDocument_cons_of_none hr]
    exact hm.keys
  · rw [lastDocument_cons_of_none hr]
    exact hm.fetchedAt

/-- **One call.**  The cache stays in step with the log, and what is served is sound. -/
lemma Middleware.Current.publicKey (hm : m.Current decode log) (hlocked : c.checked ≤ c.locked)
    (hstored : c.locked ≤ c.stored) :
    (m.publicKey decode c).1.Current decode ((m.publicKey decode c).2 :: log) ∧
      Sound decode (m.publicKey decode c).2 log := by
  have hcases := m.publicKey_answers decode c
  generalize m.publicKey decode c = out at hcases
  cases hcases with
  | cached key hkey hfresh =>
    refine ⟨hm.cons rfl, fun key' hkey' => ?_⟩
    cases hkey'
    obtain ⟨doc, t, hlast, hat, hlisted⟩ := hm.listed hkey
    refine ⟨doc, t, by rw [lastDocument_cons_of_none rfl, hlast], hlisted, fun hold => ?_⟩
    refine absurd (fun t' ht' => ?_) hfresh
    rw [hat] at ht'
    rwa [← Option.some.inj ht']
  | skipped h hwhy =>
    refine ⟨hm.cons rfl, fun key hkey => ?_⟩
    have hcached := lookup_eq_ok hkey
    rcases hwhy with hnone | hstale
    · rw [hnone] at hcached
      cases hcached
    · exact absurd h (attempts hlocked hstale)
  | fetched doc m' h hm' =>
    have hlast : lastDocument decode (⟨c, some c.fetch, m'.lookup c.kid⟩ :: log) =
        some (doc, c.stored) := by simp [lastDocument, Served.document, h]
    refine ⟨⟨by rw [hlast, hm']; rfl, by rw [hlast, hm']; rfl⟩, fun key hkey => ?_⟩
    have hcached := lookup_eq_ok hkey
    rw [hm'] at hcached
    refine ⟨doc, c.stored, hlast, listed_of_keysOf decode hcached, fun hold => ?_⟩
    simp only [maxAge] at hold
    omega
  | kept key hkey h =>
    have hdoc : Served.document decode ⟨c, some c.fetch, .ok key⟩ = none := by
      simp [Served.document, h]
    refine ⟨hm.cons hdoc, fun key' hkey' => ?_⟩
    cases hkey'
    obtain ⟨doc, t, hlast, -, hlisted⟩ := hm.listed hkey
    exact ⟨doc, t, by rw [lastDocument_cons_of_none hdoc, hlast], hlisted,
      fun _ => ⟨c.fetch, rfl, h⟩⟩
  | failed text h =>
    refine ⟨hm.cons (by simp [Served.document, h]), fun key hkey => ?_⟩
    cases hkey

/-! ## Every run -/

/-- The cache is in step with the log, and every call in it was sound. -/
structure KeyServer.Inv (decode : String → Option (List UInt8)) (s : KeyServer) : Prop where
  current : s.mw.Current decode s.log
  sound : ∀ r older, r :: older <:+ s.log → Sound decode r older

lemma KeyServer.Inv.step {s s' : KeyServer} (hs : s.Inv decode) (h : s.step decode c = some s') :
    s'.Inv decode := by
  rw [KeyServer.step] at h
  split_ifs at h with hclock
  cases h
  obtain ⟨hcurrent, hsound⟩ := hs.current.publicKey hclock.2.1 hclock.2.2
  refine ⟨hcurrent, fun r older hsuf => ?_⟩
  rcases List.suffix_cons_iff.mp hsuf with heq | hold
  · obtain ⟨rfl, rfl⟩ := List.cons.inj heq
    exact hsound
  · exact hs.sound r older hold

/-- **Signing keys are only as old as documented.**  A key that `publicKey` returns is the one
listed for its `kid` in the last document, older than five minutes only if the call has attempted a
fetch and it has failed. -/
theorem served_keys_are_listed (decode : String → Option (List UInt8)) {now : ℤ}
    {calls : List PublicKeyCall} {s : KeyServer}
    (hrun : run (KeyServer.step decode) (.start now) calls = some s) {r : Served}
    {older : List Served} (hr : r :: older <:+ s.log) {key : PublicKey} (hkey : r.key = .ok key) :
    ∃ doc t, lastDocument decode (r :: older) = some (doc, t) ∧ Listed decode doc r.call.kid key ∧
      (maxAge < r.call.checked - t → ∃ f, r.fetch = some f ∧ f.document decode = none) := by
  have hstart : (KeyServer.start now).Inv decode :=
    ⟨⟨rfl, rfl⟩, fun r older hsuf => by simp [KeyServer.start] at hsuf⟩
  have hinv := run_invariant_always (fun _ _ _ hs hstep => hs.step hstep) hstart hrun
  exact hinv.sound r older hr key hkey

/-- One key is listed, and six minutes later the realm cannot be reached. -/
def outage : List PublicKeyCall :=
  [⟨"k1", 0, 0, 1, .response 200 (.ok [⟨"EC", "k0", "", ""⟩, ⟨"RSA", "k1", "n", "e"⟩])⟩,
   ⟨"k1", 360000000000, 360000000000, 360000000001, .error "connection refused"⟩]

/-- Text as its character codes, in place of base64. -/
def charCodes (text : String) : Option (List UInt8) :=
  some (text.toList.map fun c => UInt8.ofNat c.toNat)

/-- The old key is served through the outage, after an attempt. -/
theorem outage_serves_listed_key :
    ∃ s r older, run (KeyServer.step charCodes) (.start 0) outage = some s ∧ s.log = r :: older ∧
      r.key = .ok ⟨110, 101#64⟩ ∧
      ∃ doc t, lastDocument charCodes (r :: older) = some (doc, t) ∧
        Listed charCodes doc r.call.kid ⟨110, 101#64⟩ ∧
        (maxAge < r.call.checked - t → ∃ f, r.fetch = some f ∧ f.document charCodes = none) := by
  refine ⟨_, _, _, rfl, rfl, rfl, ?_⟩
  exact @served_keys_are_listed charCodes 0 outage _ rfl _ _ List.suffix_rfl _ rfl

end LastDocument

end H2Fleet.Auth
