import H2Fleet.Core.Run
import H2Fleet.Core.Json

/-!
# The toggle SDKs

`IsEnabled` of `packages/toggle-client`, in Go, in Python (synchronous and asynchronous) and in
TypeScript.  The four share one plan: answer from the entry of the module while it is fresh,
otherwise ask the toggle service and keep what it said.  They are four sets of parameters of one
definition, `Client.isEnabled`; what differs is how a request ends, and which ends are kept.

**Where they part.**
* A request that fails (no connection, no answer in time, a body that is no JSON object) is an
  exception in Python, and nothing is kept.  Go and TypeScript keep the `false`.
* Python takes the truth value of `enabled`, so that `"false"` and `1` are true; Go wants a boolean
  and accepts every spelling of the name; TypeScript wants the value `true`.
* TypeScript accepts every status from 200 to 299, Go and Python only 200, Python without redirects.
* Go rejects an answer about another module.
* Python waits two seconds for each piece of the answer, Go three for the whole of it, TypeScript
  three for its headers.

**Libraries.**  What the JSON decoder of each language makes of a body, and which modules the HTTP
libraries of Go and Python refuse to put in a URL, is given by the environment.  Calls of one client
follow one another here; `ToggleClient.Invalidation` has the calls that overlap.
-/

namespace H2Fleet.ToggleClient

open List Option Function

/-! ## What Go decodes -/

/-- `toggleResponse` of the Go client. -/
structure ToggleResponse where
  module : String := ""
  enabled : Bool := false
  domain : String := ""

/-- Names without regard to case.  Only ASCII letters fold to those of the three names. -/
def foldName (name : String) : List Char := name.toList.map Char.toLower

/-- `encoding/json` on one member: `null` changes nothing; another type is an error at the end. -/
def decodeMember (acc : ToggleResponse × Bool) (m : String × Json) : ToggleResponse × Bool :=
  if foldName m.1 = foldName "module" then
    match m.2 with
    | .str s => ({ acc.1 with module := s }, acc.2)
    | .null => acc
    | _ => (acc.1, true)
  else if foldName m.1 = foldName "enabled" then
    match m.2 with
    | .bool b => ({ acc.1 with enabled := b }, acc.2)
    | .null => acc
    | _ => (acc.1, true)
  else if foldName m.1 = foldName "domain" then
    match m.2 with
    | .str s => ({ acc.1 with domain := s }, acc.2)
    | .null => acc
    | _ => (acc.1, true)
  else acc

/-- `Decode(&tr)`. -/
def decodeResponse : Json → Option ToggleResponse
  | .null => some {}
  | .obj members =>
    let (tr, failed) := members.foldl decodeMember ({}, false)
    if failed then none else some tr
  | _ => none

/-! ## The service, as the clients see it -/

/-- A body, as the decoder of each language reads it. -/
structure Body where
  go : Option Json
  python : Option Json
  ts : Option Json

/-- An answer of the service.  Times are milliseconds from the request on. -/
structure Response where
  headers : ℕ
  complete : ℕ
  /-- The longest wait for a piece of it. -/
  pause : ℕ
  status : ℕ
  body : Body
  /-- What the redirect leads to, if the answer is one. -/
  redirect : Option (ℕ × Body)

def Response.followed (r : Response) : ℕ × Body := r.redirect.getD (r.status, r.body)

/-- What comes of a request. -/
inductive Server where
  | answers (r : Response)
  /-- An error of the connection, or no answer at all, after some time. -/
  | fails (after : ℕ)

/-- How a request ended: the value, or an exception. -/
structure Fetched where
  result : Option Bool
  took : ℕ
  requested : Bool

/-- Which modules can stand in a URL. -/
structure Libraries where
  goUrl : String → Bool
  httpxUrl : String → Bool

variable (lib : Libraries)

/-- `Client.fetch`, with its time limit of three seconds. -/
def goFetch (module : String) (server : Server) : Fetched :=
  if lib.goUrl module = false then ⟨some false, 0, false⟩
  else match server with
    | .fails after => ⟨some false, min after 3000, true⟩
    | .answers r =>
      if 3000 ≤ r.headers then ⟨some false, 3000, true⟩
      else if r.followed.1 ≠ 200 then ⟨some false, r.headers, true⟩
      else if 3000 ≤ r.complete then ⟨some false, 3000, true⟩
      else match r.followed.2.go.bind decodeResponse with
        | none => ⟨some false, r.complete, true⟩
        | some tr =>
          if tr.module ≠ "" ∧ tr.module ≠ module then ⟨some false, r.complete, true⟩
          else ⟨some tr.enabled, r.complete, true⟩

/-- `ToggleClient._fetch` of Python. -/
def pythonFetch (module : String) (server : Server) : Fetched :=
  if lib.httpxUrl module = false then ⟨none, 0, false⟩
  else match server with
    | .fails after => ⟨none, min after 2000, true⟩
    | .answers r =>
      if 2000 ≤ r.pause then ⟨none, r.complete, true⟩
      else if r.status ≠ 200 then ⟨some false, r.complete, true⟩
      else match r.body.python with
        | some (.obj members) =>
          ⟨some ((lastMember members "enabled").getD (.bool false)).truthy, r.complete, true⟩
        | _ => ⟨none, r.complete, true⟩

/-- The request of `AsyncToggleClient.is_enabled`. -/
def asyncFetch (module : String) (server : Server) : Fetched :=
  if lib.httpxUrl module = false then ⟨none, 0, false⟩
  else match server with
    | .fails after => ⟨none, min after 2000, true⟩
    | .answers r =>
      if 2000 ≤ r.pause then ⟨none, r.complete, true⟩
      else if r.status = 200 then
        match r.body.python with
        | some (.obj members) =>
          ⟨some ((lastMember members "enabled").getD (.bool false)).truthy, r.complete, true⟩
        | _ => ⟨none, r.complete, true⟩
      else ⟨some false, r.complete, true⟩

/-- `body.enabled === true`, for a body of any type. -/
def enabledIsTrue : Option Json → Bool
  | some (.obj members) =>
    match lastMember members "enabled" with
    | some (.bool b) => b
    | _ => false
  | _ => false

/-- `fetchOne` of TypeScript.  The headers clear the timer. -/
def fetchOne (server : Server) : Fetched :=
  match server with
  | .fails after => ⟨some false, min after 3000, true⟩
  | .answers r =>
    if 3000 ≤ r.headers then ⟨some false, 3000, true⟩
    else if 200 ≤ r.followed.1 ∧ r.followed.1 ≤ 299 then
      ⟨some (enabledIsTrue r.followed.2.ts), r.complete, true⟩
    else ⟨some false, r.headers, true⟩

/-! ## The clients -/

/-- An entry: `expiresAt` in Go and TypeScript, `fetched_at` in Python. -/
structure CacheEntry where
  enabled : Bool
  time : ℤ

/-- A call of `IsEnabled`, with what comes of its request if it makes one. -/
structure Call where
  module : String
  now : ℤ
  server : Server

structure Answer where
  enabled : Bool
  requested : Bool
  took : ℕ

/-- What the clients differ in. -/
structure Client where
  fetch : String → Server → Fetched
  fresh : ℤ → CacheEntry → Bool
  /-- The time in a new entry, from the time at which the request is over. -/
  stamp : ℤ → ℤ

def Client.isEnabled (C : Client) (cache : String → Option CacheEntry) (c : Call) :
    (String → Option CacheEntry) × Answer :=
  match (cache c.module).filter (C.fresh c.now) with
  | some hit => (cache, ⟨hit.enabled, false, 0⟩)
  | none =>
    let f := C.fetch c.module c.server
    match f.result with
    | some enabled =>
      (update cache c.module (some ⟨enabled, C.stamp (c.now + f.took)⟩),
        ⟨enabled, f.requested, f.took⟩)
    | none => (cache, ⟨false, f.requested, f.took⟩)

inductive Sdk where
  | go
  | python
  | async
  | ts

/-- The four clients, with one cache lifetime. -/
def client (ttl : ℤ) : Sdk → Client
  | .go => ⟨goFetch lib, fun now e => now < e.time, fun t => t + ttl⟩
  | .python => ⟨pythonFetch lib, fun now e => now - e.time < ttl, fun t => t⟩
  | .async => ⟨asyncFetch lib, fun now e => now - e.time < ttl, fun t => t⟩
  | .ts => ⟨fun _ => fetchOne, fun now e => e.time > now, fun t => t + ttl⟩

/-- A call and what each client answered. -/
structure Outcome where
  call : Call
  answer : Sdk → Answer

/-- The four clients, and what was answered so far, the newest first. -/
structure Clients where
  cache : Sdk → String → Option CacheEntry
  clock : ℤ
  log : List Outcome

open Clients

def Clients.answers (ttl : ℤ) (s : Clients) (c : Call) (sdk : Sdk) : Answer :=
  ((client lib ttl sdk).isEnabled (s.cache sdk) c).2

/-- The same call of the four; the next starts when all have returned. -/
def Clients.step (ttl : ℤ) (s : Clients) (c : Call) : Option Clients :=
  if s.clock ≤ c.now then
    let answer := s.answers lib ttl c
    some
      { cache := fun sdk => ((client lib ttl sdk).isEnabled (s.cache sdk) c).1
        clock := c.now + (max (max (answer .go).took (answer .python).took)
          (max (answer .async).took (answer .ts).took) : ℕ)
        log := ⟨c, answer⟩ :: s.log }
  else none

def Clients.new : Clients := ⟨fun _ _ => none, 0, []⟩

/-! ## What a client holds -/

def expiry (ttl : ℤ) : Sdk → CacheEntry → ℤ
  | .go, e | .ts, e => e.time
  | .python, e | .async, e => e.time + ttl

def Clients.held (ttl : ℤ) (s : Clients) (sdk : Sdk) (module : String) : Option (Bool × ℤ) :=
  (s.cache sdk module).map fun e => (e.enabled, expiry ttl sdk e)

lemma fresh_iff (ttl now : ℤ) (sdk : Sdk) (e : CacheEntry) :
    (client lib ttl sdk).fresh now e = true ↔ now < expiry ttl sdk e := by
  cases sdk <;> simp only [client, expiry, decide_eq_true_eq] <;> omega

lemma expiry_stamp (ttl t : ℤ) (sdk : Sdk) (b : Bool) :
    expiry ttl sdk ⟨b, (client lib ttl sdk).stamp t⟩ = t + ttl := by
  cases sdk <;> rfl

/-- The module has an entry that is used at the time. -/
def Clients.Hit (ttl : ℤ) (s : Clients) (sdk : Sdk) (c : Call) (b : Bool) : Prop :=
  ∃ t, s.held ttl sdk c.module = some (b, t) ∧ c.now < t

def Clients.Miss (ttl : ℤ) (s : Clients) (sdk : Sdk) (c : Call) : Prop :=
  ∀ b t, s.held ttl sdk c.module = some (b, t) → t ≤ c.now

section Steps

variable {lib : Libraries} {ttl : ℤ} {s s' : Clients} {sdk : Sdk} {c : Call}

lemma hit_or_miss (ttl : ℤ) (s : Clients) (sdk : Sdk) (c : Call) :
    (∃ b, s.Hit ttl sdk c b) ∨ s.Miss ttl sdk c := by
  by_cases h : ∃ b, s.Hit ttl sdk c b
  · exact .inl h
  · exact .inr fun b t ht => not_lt.mp fun hlt => h ⟨b, t, ht, hlt⟩

lemma isEnabled_of_hit (lib : Libraries) {b : Bool} (h : s.Hit ttl sdk c b) :
    (client lib ttl sdk).isEnabled (s.cache sdk) c = (s.cache sdk, ⟨b, false, 0⟩) := by
  obtain ⟨t, hheld, hlt⟩ := h
  obtain ⟨e, he, heq⟩ := map_eq_some_iff.mp hheld
  obtain ⟨rfl, rfl⟩ := Prod.mk.inj heq
  have hsome := filter_eq_some_iff.mpr ⟨he, (fresh_iff lib ttl c.now sdk e).mpr hlt⟩
  simp only [Client.isEnabled, hsome]

lemma isEnabled_of_miss (lib : Libraries) (h : s.Miss ttl sdk c) :
    (client lib ttl sdk).isEnabled (s.cache sdk) c =
      let f := (client lib ttl sdk).fetch c.module c.server
      match f.result with
      | some enabled =>
        (update (s.cache sdk) c.module
          (some ⟨enabled, (client lib ttl sdk).stamp (c.now + f.took)⟩),
          ⟨enabled, f.requested, f.took⟩)
      | none => (s.cache sdk, ⟨false, f.requested, f.took⟩) := by
  have hnone : (s.cache sdk c.module).filter ((client lib ttl sdk).fresh c.now) = none := by
    refine filter_eq_none_iff.mpr fun e he hfresh => ?_
    have hlt := (fresh_iff lib ttl c.now sdk e).mp hfresh
    have := h e.enabled (expiry ttl sdk e) (by simp [held, he])
    omega
  simp only [Client.isEnabled, hnone]

lemma step_eq_some (h : s.step lib ttl c = some s') :
    s.clock ≤ c.now ∧ c.now ≤ s'.clock ∧ s'.log = ⟨c, s.answers lib ttl c⟩ :: s.log ∧
      ∀ sdk, s'.cache sdk = ((client lib ttl sdk).isEnabled (s.cache sdk) c).1 := by
  unfold step at h
  by_cases hc : s.clock ≤ c.now
  · rw [if_pos hc] at h
    cases h
    exact ⟨hc, le_add_of_nonneg_right (by positivity), rfl, fun _ => rfl⟩
  · rw [if_neg hc] at h
    cases h

lemma held_of_cache (h : s'.cache sdk = s.cache sdk) : s'.held ttl sdk = s.held ttl sdk := by
  funext m
  simp only [held, h]

lemma step_of_hit (h : s.step lib ttl c = some s') {b : Bool} (hhit : s.Hit ttl sdk c b) :
    s.answers lib ttl c sdk = ⟨b, false, 0⟩ ∧ s'.held ttl sdk = s.held ttl sdk := by
  obtain ⟨-, -, -, hcache⟩ := step_eq_some h
  have heq := isEnabled_of_hit lib hhit
  exact ⟨by rw [answers, heq], held_of_cache (by rw [hcache, heq])⟩

lemma step_of_kept (h : s.step lib ttl c = some s') (hmiss : s.Miss ttl sdk c) {b r : Bool} {d : ℕ}
    (hf : (client lib ttl sdk).fetch c.module c.server = ⟨some b, d, r⟩) :
    s.answers lib ttl c sdk = ⟨b, r, d⟩ ∧
      s'.held ttl sdk = update (s.held ttl sdk) c.module (some (b, c.now + d + ttl)) := by
  obtain ⟨-, -, -, hcache⟩ := step_eq_some h
  have heq := isEnabled_of_miss lib hmiss
  rw [hf] at heq
  refine ⟨by rw [answers, heq], ?_⟩
  funext m
  simp only [held, hcache, heq]
  by_cases hm : m = c.module
  · subst hm
    simp [expiry_stamp]
  · simp [update_of_ne hm, held]

lemma step_of_dropped (h : s.step lib ttl c = some s') (hmiss : s.Miss ttl sdk c) {r : Bool} {d : ℕ}
    (hf : (client lib ttl sdk).fetch c.module c.server = ⟨none, d, r⟩) :
    s.answers lib ttl c sdk = ⟨false, r, d⟩ ∧ s'.held ttl sdk = s.held ttl sdk := by
  obtain ⟨-, -, -, hcache⟩ := step_eq_some h
  have heq := isEnabled_of_miss lib hmiss
  rw [hf] at heq
  exact ⟨by rw [answers, heq], held_of_cache (by rw [hcache, heq])⟩

end Steps

/-! ## What the JSON has to look like -/

/-- The members the clients look at are spelled and typed as they should be. -/
def WellTyped (members : List (String × Json)) : Prop :=
  ∀ m ∈ members,
    (foldName m.1 = foldName "module" → m.1 = "module" ∧ ∃ s, m.2 = .str s) ∧
    (foldName m.1 = foldName "enabled" → m.1 = "enabled" ∧ ∃ b, m.2 = .bool b) ∧
    (foldName m.1 = foldName "domain" → ∃ s, m.2 = .str s)

/-- The object says nothing of another module. -/
def NamesNoOther (members : List (String × Json)) (module : String) : Prop :=
  ∀ s, lastMember members "module" = some (.str s) → s ≠ "" → s = module

/-- What the Go decoder has read, beside what the other two have found. -/
def Reads (tr : ToggleResponse) (module enabled : Option Json) : Prop :=
  (module = none ∧ tr.module = "" ∨ module = some (.str tr.module)) ∧
  (enabled = none ∧ tr.enabled = false ∨ enabled = some (.bool tr.enabled))

variable {members : List (String × Json)}

lemma reads_foldl (h : WellTyped members) :
    ∀ {tr : ToggleResponse} {module enabled : Option Json}, Reads tr module enabled →
      ∃ tr', members.foldl decodeMember (tr, false) = (tr', false) ∧
        Reads tr' (members.foldl (fun found m => if m.1 = "module" then some m.2 else found) module)
          (members.foldl (fun found m => if m.1 = "enabled" then some m.2 else found) enabled) := by
  induction members with
  | nil => exact fun hr => ⟨_, rfl, hr⟩
  | cons m members ih =>
    intro tr module enabled hr
    have ih := @ih fun m' hm' => h m' (mem_cons_of_mem _ hm')
    obtain ⟨hmodule, henabled, hdomain⟩ := h m mem_cons_self
    obtain ⟨name, value⟩ := m
    simp only [foldl_cons]
    by_cases h1 : foldName name = foldName "module"
    · obtain ⟨rfl, s, rfl⟩ := hmodule h1
      simpa [decodeMember] using @ih { tr with module := s } _ _ ⟨.inr rfl, hr.2⟩
    have hne1 : name ≠ "module" := fun heq => h1 (congrArg foldName heq)
    by_cases h2 : foldName name = foldName "enabled"
    · obtain ⟨rfl, b, rfl⟩ := henabled h2
      simpa [decodeMember, h1, h2] using @ih { tr with enabled := b } _ _ ⟨hr.1, .inr rfl⟩
    have hne2 : name ≠ "enabled" := fun heq => h2 (congrArg foldName heq)
    simp only [if_neg hne1, if_neg hne2]
    by_cases h3 : foldName name = foldName "domain"
    · obtain ⟨s, rfl⟩ := hdomain h3
      rw [h3] at h1 h2
      simpa [decodeMember, h1, h2, h3] using @ih { tr with domain := s } _ _ hr
    · simpa [decodeMember, h1, h2, h3] using ih hr

lemma decodeResponse_of_wellTyped (h : WellTyped members) :
    ∃ tr, decodeResponse (.obj members) = some tr ∧
      Reads tr (lastMember members "module") (lastMember members "enabled") := by
  obtain ⟨tr, heq, hreads⟩ := @reads_foldl _ h {} none none ⟨.inl ⟨rfl, rfl⟩, .inl ⟨rfl, rfl⟩⟩
  exact ⟨tr, by simp [decodeResponse, heq], hreads⟩

variable {tr : ToggleResponse}

lemma Reads.module_iff {module : String} {enabled : Option Json}
    (h : Reads tr (lastMember members "module") enabled) :
    ¬ (tr.module ≠ "" ∧ tr.module ≠ module) ↔ NamesNoOther members module := by
  unfold NamesNoOther
  rcases h.1 with ⟨hnone, hempty⟩ | hsome
  · simp [hnone, hempty]
  · simp only [hsome, some.injEq, Json.str.injEq, forall_eq']
    tauto

lemma Reads.truthy {module enabled : Option Json} (h : Reads tr module enabled) :
    (enabled.getD (.bool false)).truthy = tr.enabled := by
  rcases h.2 with ⟨rfl, hfalse⟩ | rfl
  · simp [Json.truthy, hfalse]
  · simp [Json.truthy]

lemma Reads.enabledIsTrue {module : Option Json}
    (h : Reads tr module (lastMember members "enabled")) :
    enabledIsTrue (some (.obj members)) = tr.enabled := by
  unfold ToggleClient.enabledIsTrue
  rcases h.2 with ⟨hnone, hfalse⟩ | hsome
  · simp [hnone, hfalse]
  · simp [hsome]

lemma Reads.eq_true_iff {module enabled : Option Json} (h : Reads tr module enabled) :
    tr.enabled = true ↔ enabled = some (.bool true) := by
  rcases h.2 with ⟨rfl, hfalse⟩ | rfl
  · simp [hfalse]
  · simp

/-! ## Agreement -/

/-- The answer comes within two seconds, is no redirect, and has status 200 or none from 200 to
299.  With status 200 the decoders read the same, and an object is well typed and names no other
module; with another one the body comes with the headers. -/
def Response.Regular (r : Response) (module : String) : Prop :=
  (r.headers ≤ r.complete ∧ (r.status ≠ 200 → r.headers = r.complete)) ∧ r.complete < 2000 ∧
    r.pause < 2000 ∧ r.redirect = none ∧
  (200 ≤ r.status ∧ r.status ≤ 299 → r.status = 200) ∧
  (r.status = 200 → r.body.python = r.body.go ∧ r.body.ts = r.body.go ∧
    ∀ members, r.body.go = some (.obj members) → WellTyped members ∧ NamesNoOther members module)

/-- The module can stand in a URL; the service answers regularly, or the request fails; and no call
finds the `false` of a failed request. -/
def Clients.Regular (ttl : ℤ) (s : Clients) (c : Call) : Prop :=
  lib.goUrl c.module = true ∧ lib.httpxUrl c.module = true ∧
  (∀ r, c.server = .answers r → r.Regular c.module) ∧
  ∀ b, s.Hit ttl .go c b → ∃ b', s.Hit ttl .python c b'

def Outcome.Same (o : Outcome) : Prop :=
  ∀ sdk sdk', (o.answer sdk).enabled = (o.answer sdk').enabled ∧
    (o.answer sdk).requested = (o.answer sdk').requested

/-- A request answered regularly, or failing: Python ends as the others, or with an exception where
they have `false`. -/
lemma fetch_regular {lib : Libraries} {module : String} {server : Server}
    (hgo : lib.goUrl module = true) (hpy : lib.httpxUrl module = true)
    (h : ∀ r, server = .answers r → r.Regular module) :
    ∃ b d, goFetch lib module server = ⟨some b, d, true⟩ ∧ fetchOne server = ⟨some b, d, true⟩ ∧
      (pythonFetch lib module server = ⟨some b, d, true⟩ ∨
        b = false ∧ ∃ d', pythonFetch lib module server = ⟨none, d', true⟩) := by
  cases server with
  | fails after =>
    exact ⟨false, min after 3000, by simp [goFetch, hgo], rfl, .inr ⟨rfl, _, by
      simp [pythonFetch, hpy]; rfl⟩⟩
  | answers r =>
    obtain ⟨⟨hle, hheaders⟩, hcomplete, hpause, hredirect, hok, hbody⟩ := h r rfl
    have h0 : ¬ 3000 ≤ r.headers := by omega
    have hfollowed : r.followed = (r.status, r.body) := by simp [Response.followed, hredirect]
    have h1 : ¬ 3000 ≤ r.complete := by omega
    have h2 : ¬ 2000 ≤ r.pause := by omega
    by_cases hstatus : r.status = 200
    · obtain ⟨hjson, hjson', hobj⟩ := hbody hstatus
      match hdoc : r.body.go with
      | some (.obj members) =>
        obtain ⟨htyped, hother⟩ := hobj members hdoc
        obtain ⟨tr, hdecode, hreads⟩ := decodeResponse_of_wellTyped htyped
        have hmodule := hreads.module_iff.mpr hother
        refine ⟨tr.enabled, r.complete, ?_, ?_, .inl ?_⟩
        · simp only [goFetch, hgo, h0, h1, hfollowed, hstatus, hdoc, bind_some, hdecode]
          simp [hmodule]
        · simp [fetchOne, h0, hfollowed, hstatus, hjson', hdoc, hreads.enabledIsTrue]
        · simp [pythonFetch, hpy, h2, hstatus, hjson, hdoc, hreads.truthy]
      | none | some .null | some (.bool _) | some (.num _) | some (.str _) | some (.arr _) =>
        refine ⟨false, r.complete, ?_, ?_, .inr ⟨rfl, r.complete, ?_⟩⟩
        · simp [goFetch, hgo, h0, h1, hfollowed, hstatus, hdoc, decodeResponse]
        · simp [fetchOne, h0, hfollowed, hstatus, hjson', hdoc, enabledIsTrue]
        · simp [pythonFetch, hpy, h2, hstatus, hjson, hdoc]
    · have hnot : ¬ (200 ≤ r.status ∧ r.status ≤ 299) := fun h => hstatus (hok h)
      refine ⟨false, r.complete, ?_, ?_, .inl ?_⟩
      · simp [goFetch, hgo, hheaders hstatus, h1, hfollowed, hstatus]
      · simp only [fetchOne, hheaders hstatus, hfollowed, if_neg h1, if_neg hnot]
      · simp [pythonFetch, hpy, h2, hstatus]

lemma asyncFetch_eq (module : String) (server : Server) :
    asyncFetch lib module server = pythonFetch lib module server := by
  cases server with
  | fails after => rfl
  | answers r => by_cases h : r.status = 200 <;> simp [asyncFetch, pythonFetch, h]

lemma same_cons {log : List Outcome} {o : Outcome} (b r : Bool) (hlog : ∀ o ∈ log, o.Same)
    (ho : ∀ sdk, (o.answer sdk).enabled = b ∧ (o.answer sdk).requested = r) :
    ∀ o' ∈ o :: log, o'.Same :=
  forall_mem_cons.mpr
    ⟨fun sdk sdk' => ⟨(ho sdk).1.trans (ho sdk').1.symm, (ho sdk).2.trans (ho sdk').2.symm⟩, hlog⟩

/-- What the clients hold agrees, unless Python has nothing it would use. -/
structure Clients.Aligned (ttl : ℤ) (s : Clients) : Prop where
  ts : s.held ttl .ts = s.held ttl .go
  async : s.held ttl .async = s.held ttl .python
  python : ∀ m, s.held ttl .python m = s.held ttl .go m ∨
    ∀ b t, s.held ttl .python m = some (b, t) → t ≤ s.clock
  same : ∀ o ∈ s.log, o.Same

section Agreement

variable {lib : Libraries} {ttl : ℤ} {s s' : Clients} {c : Call}

lemma Clients.Aligned.hits (h : s.Aligned ttl) (hclock : s.clock ≤ c.now) {b : Bool}
    (hpy : s.Hit ttl .python c b) : ∀ sdk, s.Hit ttl sdk c b := by
  obtain ⟨t, ht, hlt⟩ := hpy
  have hgo : s.held ttl .go c.module = some (b, t) := by
    rcases h.python c.module with heq | hold
    · rw [← heq, ht]
    · have := hold b t ht
      omega
  rintro (_ | _ | _ | _)
  · exact ⟨t, hgo, hlt⟩
  · exact ⟨t, ht, hlt⟩
  · exact ⟨t, h.async ▸ ht, hlt⟩
  · exact ⟨t, h.ts ▸ hgo, hlt⟩

lemma Clients.Aligned.misses (h : s.Aligned ttl) (hclock : s.clock ≤ c.now)
    (hgo : s.Miss ttl .go c) : ∀ sdk, s.Miss ttl sdk c := by
  have hpy : s.Miss ttl .python c := fun b t ht => by
    rcases h.python c.module with heq | hold
    · exact hgo b t (heq ▸ ht)
    · exact (hold b t ht).trans hclock
  rintro (_ | _ | _ | _) b t ht
  · exact hgo b t ht
  · exact hpy b t ht
  · exact hpy b t (h.async ▸ ht)
  · exact hgo b t (h.ts ▸ ht)

lemma aligned_step (hs : s.Aligned ttl) (hok : s.Regular lib ttl c)
    (h : s.step lib ttl c = some s') : s'.Aligned ttl := by
  obtain ⟨hclock, hclock', hlog, -⟩ := step_eq_some h
  obtain ⟨hgo, hpy, hserver, hrested⟩ := hok
  have hpython : ∀ m, s.held ttl .python m = s.held ttl .go m ∨
      ∀ b t, s.held ttl .python m = some (b, t) → t ≤ s'.clock := fun m =>
    (hs.python m).imp_right fun hold b t ht => (hold b t ht).trans (hclock.trans hclock')
  rcases hit_or_miss ttl s .go c with ⟨b, hb⟩ | hmiss
  · obtain ⟨b', hb'⟩ := hrested b hb
    have hall := fun sdk => step_of_hit h (hs.hits hclock hb' sdk)
    refine ⟨?_, ?_, fun m => ?_, ?_⟩
    · rw [(hall .ts).2, (hall .go).2, hs.ts]
    · rw [(hall .async).2, (hall .python).2, hs.async]
    · rw [(hall .python).2, (hall .go).2]
      exact hpython m
    · rw [hlog]
      exact same_cons b' false hs.same fun sdk => by simp [(hall sdk).1]
  · have hmisses := hs.misses hclock hmiss
    obtain ⟨b, d, hfgo, hfts, hfpy⟩ := fetch_regular hgo hpy hserver
    obtain ⟨hago, hhgo⟩ := step_of_kept h (hmisses .go) hfgo
    obtain ⟨hats, hhts⟩ := step_of_kept h (hmisses .ts) hfts
    have hts : s'.held ttl .ts = s'.held ttl .go := by rw [hhts, hhgo, hs.ts]
    rcases hfpy with hf | ⟨rfl, d', hf⟩
    · obtain ⟨hapy, hhpy⟩ := step_of_kept h (hmisses .python) hf
      obtain ⟨haas, hhas⟩ := step_of_kept h (hmisses .async) ((asyncFetch_eq lib _ _).trans hf)
      refine ⟨hts, by rw [hhas, hhpy, hs.async], fun m => ?_, ?_⟩
      · rw [hhpy, hhgo]
        by_cases hm : m = c.module
        · subst hm
          simp
        · simpa only [update_of_ne hm] using hpython m
      · rw [hlog]
        exact same_cons b true hs.same fun sdk => by cases sdk <;> simp [hago, hats, hapy, haas]
    · obtain ⟨hapy, hhpy⟩ := step_of_dropped h (hmisses .python) hf
      obtain ⟨haas, hhas⟩ := step_of_dropped h (hmisses .async) ((asyncFetch_eq lib _ _).trans hf)
      refine ⟨hts, by rw [hhas, hhpy, hs.async], fun m => ?_, ?_⟩
      · rw [hhpy, hhgo]
        by_cases hm : m = c.module
        · subst hm
          exact .inr fun b t ht => (hmisses .python b t ht).trans hclock'
        · simpa only [update_of_ne hm] using hpython m
      · rw [hlog]
        exact same_cons false true hs.same fun sdk => by cases sdk <;> simp [hago, hats, hapy, haas]

end Agreement

/-! ## Failing closed -/

/-- The status and the JSON that a client gets to see. -/
def Response.seen (r : Response) : Sdk → ℕ × Option Json
  | .go => (r.followed.1, r.followed.2.go)
  | .python | .async => (r.status, r.body.python)
  | .ts => (r.followed.1, r.followed.2.ts)

/-- Status 200 and an object whose `enabled` is true and, for Go, whose `module` is no other. -/
def Proper (sdk : Sdk) (c : Call) : Prop :=
  ∃ r members, c.server = .answers r ∧ r.seen sdk = (200, some (.obj members)) ∧
    lastMember members "enabled" = some (.bool true) ∧ (sdk = .go → NamesNoOther members c.module)

/-- No status from 200 to 299 but 200, and every object is well typed. -/
def Server.Typed (server : Server) : Prop :=
  ∀ r, server = .answers r → (200 ≤ r.followed.1 ∧ r.followed.1 ≤ 299 → r.followed.1 = 200) ∧
    ∀ sdk members, (r.seen sdk).2 = some (.obj members) → WellTyped members

def Outcome.Asks (sdk : Sdk) (module : String) (o : Outcome) : Prop :=
  o.call.module = module ∧ (o.answer sdk).requested = true

instance (sdk : Sdk) (module : String) : DecidablePred (Outcome.Asks sdk module) := fun o =>
  inferInstanceAs (Decidable (o.call.module = module ∧ (o.answer sdk).requested = true))

/-- The last request about the module got an answer that permits `true`. -/
def RestsOnProper (sdk : Sdk) (module : String) (log : List Outcome) : Prop :=
  ∃ o, log.find? (fun o => decide (o.Asks sdk module)) = some o ∧ Proper sdk o.call

def FailsClosed : List Outcome → Prop
  | [] => True
  | o :: log => (∀ sdk, (o.answer sdk).enabled = true →
      RestsOnProper sdk o.call.module (o :: log)) ∧ FailsClosed log

section FailingClosed

variable {lib : Libraries} {ttl : ℤ} {s s' : Clients} {c : Call} {sdk : Sdk}

lemma passed {p : Prop} [Decidable p] {stop next f : Fetched} (hstop : stop.result ≠ f.result)
    (h : (if p then stop else next) = f) : ¬ p ∧ next = f := by
  by_cases hp : p
  · rw [if_pos hp] at h
    exact absurd (congrArg Fetched.result h) hstop
  · rw [if_neg hp] at h
    exact ⟨hp, h⟩

variable {d : ℕ} {r : Bool}

lemma proper_of_goFetch (h : c.server.Typed)
    (hf : goFetch lib c.module c.server = ⟨some true, d, r⟩) : Proper .go c ∧ r = true := by
  obtain ⟨-, hf⟩ := passed (by simp) hf
  cases hserver : c.server with
  | fails after => simp [hserver] at hf
  | answers resp =>
    rw [hserver] at hf
    obtain ⟨-, hf⟩ := passed (by simp) hf
    obtain ⟨hstatus, hf⟩ := passed (by simp) hf
    obtain ⟨-, hf⟩ := passed (by simp) hf
    have hstatus : resp.followed.1 = 200 := not_not.mp hstatus
    cases hdecode : resp.followed.2.go.bind decodeResponse with
    | none => simp [hdecode] at hf
    | some tr =>
      rw [hdecode] at hf
      obtain ⟨hmodule, hf⟩ := passed (by simp) hf
      obtain ⟨htrue, -, rfl⟩ : tr.enabled = true ∧ resp.complete = d ∧ true = r := by simpa using hf
      obtain ⟨doc, hdoc, htr⟩ := bind_eq_some_iff.mp hdecode
      cases doc with
      | obj members =>
        obtain ⟨tr', htr', hreads⟩ := decodeResponse_of_wellTyped
          ((h resp hserver).2 .go members (by simp [Response.seen, hdoc]))
        cases htr'.symm.trans htr
        exact ⟨⟨resp, members, hserver, by simp [Response.seen, hstatus, hdoc],
          hreads.eq_true_iff.mp htrue, fun _ => hreads.module_iff.mp hmodule⟩, rfl⟩
      | null =>
        cases htr
        simp at htrue
      | _ => simp [decodeResponse] at htr

lemma proper_of_pythonFetch (h : c.server.Typed)
    (hf : pythonFetch lib c.module c.server = ⟨some true, d, r⟩) :
    Proper .python c ∧ Proper .async c ∧ r = true := by
  obtain ⟨-, hf⟩ := passed (by simp) hf
  cases hserver : c.server with
  | fails after => simp [hserver] at hf
  | answers resp =>
    rw [hserver] at hf
    obtain ⟨-, hf⟩ := passed (by simp) hf
    obtain ⟨hstatus, hf⟩ := passed (by simp) hf
    have hstatus : resp.status = 200 := not_not.mp hstatus
    split at hf
    · rename_i members hdoc
      obtain ⟨tr, -, hreads⟩ := decodeResponse_of_wellTyped
        ((h resp hserver).2 .python members (by simp [Response.seen, hdoc]))
      rw [hreads.truthy] at hf
      obtain ⟨htrue, -, rfl⟩ : tr.enabled = true ∧ resp.complete = d ∧ true = r := by simpa using hf
      have hseen : resp.seen .python = (200, some (.obj members)) := by
        simp [Response.seen, hstatus, hdoc]
      exact ⟨⟨resp, members, hserver, hseen, hreads.eq_true_iff.mp htrue, by simp⟩,
        ⟨resp, members, hserver, hseen, hreads.eq_true_iff.mp htrue, by simp⟩, rfl⟩
    · simp at hf

lemma enabledIsTrue_eq_true {doc : Option Json} (h : enabledIsTrue doc = true) :
    ∃ members, doc = some (.obj members) ∧ lastMember members "enabled" = some (.bool true) := by
  unfold enabledIsTrue at h
  split at h
  · rename_i members
    split at h
    · rename_i hlast
      exact ⟨members, rfl, by rw [hlast, h]⟩
    · simp at h
  · simp at h

lemma proper_of_fetchOne (h : c.server.Typed) (hf : fetchOne c.server = ⟨some true, d, r⟩) :
    Proper .ts c ∧ r = true := by
  cases hserver : c.server with
  | fails after => simp [fetchOne, hserver] at hf
  | answers resp =>
    rw [hserver] at hf
    obtain ⟨-, hf⟩ := passed (by simp) hf
    by_cases hok : 200 ≤ resp.followed.1 ∧ resp.followed.1 ≤ 299
    · rw [if_pos hok] at hf
      obtain ⟨htrue, -, rfl⟩ :
          enabledIsTrue resp.followed.2.ts = true ∧ resp.complete = d ∧ true = r := by
        simpa using hf
      obtain ⟨members, hdoc, hlast⟩ := enabledIsTrue_eq_true htrue
      refine ⟨⟨resp, members, hserver, ?_, hlast, by simp⟩, rfl⟩
      simp [Response.seen, (h resp hserver).1 hok, hdoc]
    · rw [if_neg hok] at hf
      simp at hf

/-- A `true` that the service has given rests on a proper answer. -/
lemma proper_of_fetch (h : c.server.Typed)
    (hf : (client lib ttl sdk).fetch c.module c.server = ⟨some true, d, r⟩) :
    Proper sdk c ∧ r = true := by
  cases sdk with
  | go => exact proper_of_goFetch h hf
  | python => exact ⟨(proper_of_pythonFetch h hf).1, (proper_of_pythonFetch h hf).2.2⟩
  | async => exact (proper_of_pythonFetch h ((asyncFetch_eq lib _ _).symm.trans hf)).2
  | ts => exact proper_of_fetchOne h hf

/-- What a client would use rests on a proper answer if it is `true`. -/
structure Clients.Grounded (ttl : ℤ) (s : Clients) : Prop where
  held : ∀ sdk m t, s.held ttl sdk m = some (true, t) → s.clock < t → RestsOnProper sdk m s.log
  log : FailsClosed s.log

lemma RestsOnProper.cons {m : String} {log : List Outcome} {o : Outcome} (ho : ¬ o.Asks sdk m)
    (h : RestsOnProper sdk m log) : RestsOnProper sdk m (o :: log) := by
  obtain ⟨o', hfind, hproper⟩ := h
  exact ⟨o', by rw [find?_cons_of_neg (by simpa using ho), hfind], hproper⟩

lemma grounded_step (hs : s.Grounded ttl) (hok : c.server.Typed) (h : s.step lib ttl c = some s') :
    s'.Grounded ttl := by
  obtain ⟨hclock, hclock', hlog, -⟩ := step_eq_some h
  -- For each client: what it holds afterwards, and what it has just answered.
  have hsdk : ∀ sdk, (∀ m t, s'.held ttl sdk m = some (true, t) → s'.clock < t →
      RestsOnProper sdk m s'.log) ∧
      ((s.answers lib ttl c sdk).enabled = true → RestsOnProper sdk c.module s'.log) := by
    intro sdk
    rw [hlog]
    have hother : ∀ m t, m ≠ c.module → s.held ttl sdk m = some (true, t) → s'.clock < t →
        RestsOnProper sdk m (⟨c, s.answers lib ttl c⟩ :: s.log) := fun m t hm ht hlt =>
      (hs.held sdk m t ht (by omega)).cons fun hasks => hm hasks.1.symm
    rcases hit_or_miss ttl s sdk c with ⟨b, hhit⟩ | hmiss
    · obtain ⟨hanswer, hheld⟩ := step_of_hit h hhit
      have hnot : ∀ m, ¬ Outcome.Asks sdk m ⟨c, s.answers lib ttl c⟩ := fun m hasks => by
        simpa [hanswer] using hasks.2
      refine ⟨fun m t ht hlt => (hs.held sdk m t (hheld ▸ ht) (by omega)).cons (hnot m),
        fun htrue => ?_⟩
      obtain ⟨t, ht, hlt⟩ := hhit
      obtain rfl : b = true := by simpa [hanswer] using htrue
      exact (hs.held sdk c.module t ht (by omega)).cons (hnot c.module)
    · rcases hf : (client lib ttl sdk).fetch c.module c.server with ⟨_ | b, d, r⟩
      · obtain ⟨hanswer, hheld⟩ := step_of_dropped h hmiss hf
        refine ⟨fun m t ht hlt => ?_, fun htrue => by simp [hanswer] at htrue⟩
        rw [hheld] at ht
        by_cases hm : m = c.module
        · subst hm
          have := hmiss true t ht
          omega
        · exact hother m t hm ht hlt
      · obtain ⟨hanswer, hheld⟩ := step_of_kept h hmiss hf
        have hnew : b = true → RestsOnProper sdk c.module (⟨c, s.answers lib ttl c⟩ :: s.log) := by
          rintro rfl
          obtain ⟨hproper, rfl⟩ := proper_of_fetch hok hf
          exact ⟨_, find?_cons_of_pos (by simp [Outcome.Asks, hanswer]), hproper⟩
        refine ⟨fun m t ht hlt => ?_, fun htrue => hnew (by simpa [hanswer] using htrue)⟩
        rw [hheld] at ht
        by_cases hm : m = c.module
        · subst hm
          simp only [update_self, some.injEq, Prod.mk.injEq] at ht
          exact hnew ht.1
        · rw [update_of_ne hm] at ht
          exact hother m t hm ht hlt
  refine ⟨fun sdk => (hsdk sdk).1, ?_⟩
  have hanswers := fun sdk => (hsdk sdk).2
  rw [hlog] at hanswers ⊢
  exact ⟨hanswers, hs.log⟩

end FailingClosed

/-! ## A service that behaves, for a while -/

def anyUrl : Libraries := ⟨fun _ => true, fun _ => true⟩

/-- An answer after 20 ms that all decoders read alike. -/
def reply (status : ℕ) (members : List (String × Json)) : Server :=
  .answers ⟨20, 20, 20, status, ⟨some (.obj members), some (.obj members), some (.obj members)⟩,
    none⟩

def telematicsOn : List (String × Json) :=
  [("module", .str "telematics"), ("enabled", .bool true), ("domain", .str "fleet")]

lemma wellTyped_telematicsOn : WellTyped telematicsOn ∧ NamesNoOther telematicsOn "telematics" := by
  constructor
  · simp only [WellTyped, telematicsOn, forall_mem_cons]
    refine ⟨⟨fun _ => ⟨trivial, _, rfl⟩, fun h => ?_, fun _ => ⟨_, rfl⟩⟩,
      ⟨fun h => ?_, fun _ => ⟨trivial, _, rfl⟩, fun h => ?_⟩,
      ⟨fun h => ?_, fun h => ?_, fun _ => ⟨_, rfl⟩⟩, by simp⟩ <;>
    cases h
  · intro s hs _
    simpa [lastMember, telematicsOn, eq_comm] using hs

lemma regular_telematicsOn (r : Response) (h : reply 200 telematicsOn = .answers r) :
    r.Regular "telematics" := by
  cases h
  refine ⟨⟨le_rfl, fun _ => rfl⟩, by decide, by decide, rfl, fun _ => rfl, fun _ => ⟨rfl, rfl,
    fun members hobj => ?_⟩⟩
  obtain rfl : telematicsOn = members := by simpa using hobj
  exact wellTyped_telematicsOn

lemma typed_telematicsOn : (reply 200 telematicsOn).Typed := by
  intro r h
  cases h
  refine ⟨fun _ => rfl, fun sdk members hobj => ?_⟩
  obtain rfl : telematicsOn = members := by
    cases sdk <;> simpa [Response.seen, Response.followed] using hobj
  exact wellTyped_telematicsOn.1

/-- A module that is on, asked for twice, and the connection lost later. -/
def lostLater : List Call :=
  [⟨"telematics", 0, reply 200 telematicsOn⟩, ⟨"telematics", 100, .fails 0⟩,
   ⟨"telematics", 6000, .fails 0⟩]

/-! ## The theorem -/

/-- **The four clients agree**, in the answers and in when they make a request, in every run whose
calls are regular; and **each fails closed** in every run with typed answers of the service. -/
theorem sdks_agree_and_fail_closed {lib : Libraries} {ttl : ℤ} {calls : List Call} {s : Clients}
    (hrun : run (step lib ttl) .new calls = some s) :
    (Meets (step lib ttl) (Regular lib ttl) .new calls → ∀ o ∈ s.log, o.Same) ∧
    (Meets (step lib ttl) (fun _ c => c.server.Typed) .new calls → FailsClosed s.log) := by
  constructor
  · intro hok
    have hnew : new.Aligned ttl := ⟨rfl, rfl, fun _ => .inl rfl, by simp [new]⟩
    exact (run_invariant (fun _ _ _ => aligned_step) hnew hok hrun).same
  · intro htyped
    have hnew : new.Grounded ttl := ⟨by simp [held, new], trivial⟩
    exact (run_invariant (fun _ _ _ => grounded_step) hnew htyped hrun).log

theorem lost_later_agrees : ∃ s, run (step anyUrl 5000) .new lostLater = some s ∧
    (s.log.map fun o => ((o.answer .python).enabled, (o.answer .python).requested)) =
      [(false, true), (true, false), (true, true)] ∧ (∀ o ∈ s.log, o.Same) ∧ FailsClosed s.log := by
  refine ⟨_, rfl, rfl, ?_⟩
  have h := @sdks_agree_and_fail_closed anyUrl 5000 lostLater _ rfl
  refine ⟨h.1 ?_, h.2 ?_⟩
  · refine ⟨⟨rfl, rfl, regular_telematicsOn, ?_⟩, fun s₁ h₁ => ?_⟩
    · rintro b ⟨t, ht, -⟩
      simp [held, new] at ht
    cases h₁
    refine ⟨⟨rfl, rfl, by simp, fun b hb => ⟨true, 5020, rfl, by decide⟩⟩, fun s₂ h₂ => ?_⟩
    cases h₂
    refine ⟨⟨rfl, rfl, by simp, ?_⟩, fun _ _ => trivial⟩
    rintro b ⟨t, ht, hlt⟩
    cases ht
    exact absurd hlt (by decide)
  · have hfails : ∀ d, (Server.fails d).Typed := fun d r h => by simp at h
    exact ⟨typed_telematicsOn, fun _ _ => ⟨hfails 0, fun _ _ => ⟨hfails 0, fun _ _ => trivial⟩⟩⟩

/-- Two calls while the service is unreachable: Python makes two requests.  On `"enabled": "false"`
Python says `true`. -/
theorem sdks_part : (∃ s, run (step anyUrl 5000) .new
      [⟨"telematics", 0, .fails 0⟩, ⟨"telematics", 100, .fails 0⟩] = some s ∧
      ¬ ∀ o ∈ s.log, o.Same) ∧
    (∃ s, run (step anyUrl 5000) .new
      [⟨"telematics", 0, reply 200 [("enabled", .str "false")]⟩] = some s ∧
      ¬ (∀ o ∈ s.log, o.Same) ∧ ¬ FailsClosed s.log) := by
  refine ⟨⟨_, rfl, fun h => ?_⟩, _, rfl, fun h => ?_, fun h => ?_⟩
  · have := (h _ mem_cons_self .go .python).2
    cases this
  · have := (h _ mem_cons_self .go .python).1
    cases this
  · obtain ⟨o, hfind, r, members, hserver, hseen, henabled, -⟩ := h.1 .python rfl
    cases hfind
    cases hserver
    obtain rfl : [("enabled", Json.str "false")] = members := by simpa [Response.seen] using hseen
    simp [lastMember] at henabled

end H2Fleet.ToggleClient
