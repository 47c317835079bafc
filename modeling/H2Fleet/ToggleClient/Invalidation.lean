import H2Fleet.ToggleClient.IsEnabled
import H2Fleet.Core.Slots

/-!
# Invalidation in the toggle SDKs

`Invalidate` of the Go client and `invalidate` of the TypeScript client, among calls that overlap.
Both drop what is cached.  Neither knows of the requests that are under way: their answers are kept
when they come, and in TypeScript later calls share the request itself.  `invalidate(module)` of
TypeScript keeps the cached map of `getAll` and only takes the module out of it, which for a reader
of the map is to switch the module off.

**Requests are numbered** in the order in which they are sent, and every entry, every request in
flight and every answer carries the number of the request it comes from.  None of this is in the
source; it is what "from a response to a request that was sent after" is said with.
-/

namespace H2Fleet.ToggleClient

open Option Function

lemma update_cases {κ α : Type*} [DecidableEq κ] {f : κ → Option α} {k k' : κ} {v : Option α}
    {x : α} (h : update f k v k' = some x) : k' = k ∧ v = some x ∨ k' ≠ k ∧ f k' = some x := by
  by_cases hk : k' = k
  · subst hk
    exact .inl ⟨rfl, by rwa [update_self] at h⟩
  · exact .inr ⟨hk, by rwa [update_of_ne hk] at h⟩

/-! ## The Go client -/

/-- `DefaultTTL`, in milliseconds. -/
def defaultTTL : ℤ := 5000

/-- How far a call of `IsEnabled` is. -/
inductive Phase where
  /-- There was no fresh entry. -/
  | checked
  | sent (request : ℕ)
  | received (request : ℕ) (enabled : Bool)
  | returned (source : ℕ) (enabled : Bool)

/-- The request whose answer the call is going to put into the cache. -/
def Phase.inFlight : Phase → Option ℕ
  | .sent r | .received r _ => some r
  | .checked | .returned _ _ => none

def Phase.source : Phase → Option ℕ
  | .returned r _ => some r
  | _ => none

structure GoCall where
  module : String
  phase : Phase

structure GoEntry where
  enabled : Bool
  expiresAt : ℤ
  source : ℕ

structure GoClient where
  cache : String → Option GoEntry
  calls : List GoCall
  sent : ℕ
  clock : ℤ

inductive GoEvent where
  | start (module : String) (now : ℤ)
  | send (i : ℕ)
  | receive (i : ℕ) (server : Server)
  | store (i : ℕ) (now : ℤ)
  | invalidate (module : String)

def GoClient.new : GoClient := ⟨fun _ => none, [], 0, 0⟩

def GoClient.step (lib : Libraries) (s : GoClient) : GoEvent → Option GoClient
  | .start module now =>
    if s.clock ≤ now then
      match (s.cache module).filter fun e => now < e.expiresAt with
      | some e =>
        some { s with clock := now, calls := s.calls ++ [⟨module, .returned e.source e.enabled⟩] }
      | none => some { s with clock := now, calls := s.calls ++ [⟨module, .checked⟩] }
    else none
  | .send i =>
    match s.calls[i]? with
    | some ⟨module, .checked⟩ =>
      some { s with sent := s.sent + 1, calls := s.calls.set i ⟨module, .sent s.sent⟩ }
    | _ => none
  | .receive i server =>
    match s.calls[i]? with
    | some ⟨module, .sent r⟩ =>
      let enabled := (goFetch lib module server).result.getD false
      some { s with calls := s.calls.set i ⟨module, .received r enabled⟩ }
    | _ => none
  | .store i now =>
    match s.calls[i]? with
    | some ⟨module, .received r enabled⟩ =>
      if s.clock ≤ now then
        some { s with
          clock := now
          cache := update s.cache module (some ⟨enabled, now + defaultTTL, r⟩)
          calls := s.calls.set i ⟨module, .returned r enabled⟩ }
      else none
    | _ => none
  | .invalidate module => some { s with cache := update s.cache module none }

/-- After `Invalidate(module)` later calls about it answer from a later request. -/
def GoClient.TakesEffect (lib : Libraries) (s : GoClient) (module : String) : Prop :=
  ∀ s' es t, s.step lib (.invalidate module) = some s' → run (GoClient.step lib) s' es = some t →
    ∀ i c r, s.calls.length ≤ i → t.calls[i]? = some c → c.module = module →
      c.phase.source = some r → s.sent ≤ r

/-- No request about the module is in flight. -/
def GoClient.Clear (s : GoClient) (module : String) : Prop :=
  ∀ c ∈ s.calls, c.module = module → c.phase.inFlight = none

section Go

open GoClient

variable {lib : Libraries} {s s' t : GoClient} {module : String} {e : GoEvent}

namespace GoClient

/-- **What one step can do to a client**: calls it adds or moves on, and whence an entry comes. -/
inductive Moves (s : GoClient) : GoClient → Prop
  | start (module : String) (phase : Phase) (now : ℤ) (hphase : phase = .checked ∨
        ∃ e, s.cache module = some e ∧ phase = .returned e.source e.enabled) :
      s.Moves { s with clock := now, calls := s.calls ++ [⟨module, phase⟩] }
  | send (i : ℕ) (module : String) (hi : s.calls[i]? = some ⟨module, .checked⟩) :
      s.Moves { s with sent := s.sent + 1, calls := s.calls.set i ⟨module, .sent s.sent⟩ }
  | receive (i : ℕ) (module : String) (r : ℕ) (enabled : Bool)
      (hi : s.calls[i]? = some ⟨module, .sent r⟩) :
      s.Moves { s with calls := s.calls.set i ⟨module, .received r enabled⟩ }
  | store (i : ℕ) (module : String) (r : ℕ) (enabled : Bool) (now : ℤ)
      (hi : s.calls[i]? = some ⟨module, .received r enabled⟩) :
      s.Moves { s with
        clock := now
        cache := update s.cache module (some ⟨enabled, now + defaultTTL, r⟩)
        calls := s.calls.set i ⟨module, .returned r enabled⟩ }
  | invalidate (module : String) : s.Moves { s with cache := update s.cache module none }

lemma step_moves (h : s.step lib e = some s') : s.Moves s' := by
  cases e with
  | start module now =>
    simp only [step] at h
    split at h
    · split at h <;> cases h
      · rename_i e he
        exact .start module _ now (.inr ⟨e, (filter_eq_some_iff.mp he).1, rfl⟩)
      · exact .start module _ now (.inl rfl)
    · simp at h
  | send i =>
    simp only [step] at h
    split at h
    · rename_i module hi
      cases h
      exact .send i module hi
    · simp at h
  | receive i server =>
    simp only [step] at h
    split at h
    · rename_i module r hi
      cases h
      exact .receive i module r _ hi
    · simp at h
  | store i now =>
    simp only [step] at h
    split at h
    · rename_i module r enabled hi
      split at h
      · cases h
        exact .store i module r enabled now hi
      · simp at h
    · simp at h
  | invalidate module =>
    cases h
    exact .invalidate module

structure Numbered (s : GoClient) : Prop where
  cache : ∀ m e, s.cache m = some e → e.source < s.sent
  calls : ∀ c ∈ s.calls, ∀ r, c.phase.inFlight = some r → r < s.sent

lemma numbered_step (hs : s.Numbered) (h : s.Moves s') : s'.Numbered := by
  have hlt := s.sent.lt_succ_self
  cases h with
  | start module phase now hphase =>
    refine ⟨hs.cache, forall_mem_concat hs.calls fun r hr => ?_⟩
    rcases hphase with rfl | ⟨e, -, rfl⟩ <;> simp [Phase.inFlight] at hr
  | send i module hi =>
    refine ⟨fun m e he => (hs.cache m e he).trans hlt,
      forall_mem_set (fun c hc r hr => (hs.calls c hc r hr).trans hlt) fun r hr => ?_⟩
    obtain rfl : s.sent = r := by simpa [Phase.inFlight] using hr
    exact hlt
  | receive i module r enabled hi =>
    exact ⟨hs.cache, forall_mem_set hs.calls fun _ hr => hs.calls _ (List.mem_of_getElem? hi) _ hr⟩
  | store i module r enabled now hi =>
    refine ⟨forall_update hs.cache fun e he => ?_,
      forall_mem_set hs.calls (by simp [Phase.inFlight])⟩
    cases he
    exact hs.calls _ (List.mem_of_getElem? hi) r rfl
  | invalidate module => exact ⟨forall_update hs.cache (by simp), hs.calls⟩

/-- What the client holds about the module, and what calls from the `k`-th on answer, is of requests
from the `n`-th on. -/
structure Since (n k : ℕ) (module : String) (s : GoClient) : Prop where
  sent : n ≤ s.sent
  cache : ∀ e, s.cache module = some e → n ≤ e.source
  inFlight : ∀ (i : ℕ) (c : GoCall) (r : ℕ), s.calls[i]? = some c → c.module = module →
    c.phase.inFlight = some r → n ≤ r
  returned : ∀ (i : ℕ) (c : GoCall) (r : ℕ), k ≤ i → s.calls[i]? = some c → c.module = module →
    c.phase.source = some r → n ≤ r

lemma Since.set_call {n k : ℕ} (hs : s.Since n k module) (j : ℕ) (c : GoCall)
    (hflight : ∀ r, c.module = module → c.phase.inFlight = some r → n ≤ r)
    (hreturned : ∀ r, c.module = module → c.phase.source = some r → n ≤ r) :
    (∀ (i : ℕ) (c' : GoCall) (r : ℕ), (s.calls.set j c)[i]? = some c' → c'.module = module →
      c'.phase.inFlight = some r → n ≤ r) ∧
    ∀ (i : ℕ) (c' : GoCall) (r : ℕ), k ≤ i → (s.calls.set j c)[i]? = some c' → c'.module = module →
      c'.phase.source = some r → n ≤ r := by
  refine ⟨fun i c' r hi hc hr => ?_, fun i c' r hk hi hc hr => ?_⟩
    <;> rcases getElem?_set_cases hi with ⟨-, rfl⟩ | ⟨-, hi⟩
  · exact hflight r hc hr
  · exact hs.inFlight i c' r hi hc hr
  · exact hreturned r hc hr
  · exact hs.returned i c' r hk hi hc hr

lemma since_step {n k : ℕ} (hs : s.Since n k module) (h : s.Moves s') : s'.Since n k module := by
  cases h with
  | start module' phase now hphase =>
    refine ⟨hs.sent, hs.cache, fun i c r hi hc hr => ?_, fun i c r hk hi hc hr => ?_⟩
      <;> rcases getElem?_append_cases hi with ⟨-, rfl⟩ | hi
    · rcases hphase with rfl | ⟨e, -, rfl⟩ <;> simp [Phase.inFlight] at hr
    · exact hs.inFlight i c r hi hc hr
    · rcases hphase with rfl | ⟨e, he, rfl⟩
      · simp [Phase.source] at hr
      · obtain rfl : e.source = r := by simpa [Phase.source] using hr
        exact hs.cache e (hc ▸ he)
    · exact hs.returned i c r hk hi hc hr
  | send j module' hj =>
    obtain ⟨hflight, hreturned⟩ := hs.set_call j ⟨module', .sent s.sent⟩
      (fun r _ hr => some.inj hr ▸ hs.sent) fun r _ hr => by simp [Phase.source] at hr
    exact ⟨hs.sent.trans (Nat.le_succ _), hs.cache, hflight, hreturned⟩
  | receive j module' r' enabled hj =>
    obtain ⟨hflight, hreturned⟩ := hs.set_call j ⟨module', .received r' enabled⟩
      (fun r hc hr => hs.inFlight j _ r hj hc hr) fun r _ hr => by simp [Phase.source] at hr
    exact ⟨hs.sent, hs.cache, hflight, hreturned⟩
  | store j module' r' enabled now hj =>
    obtain ⟨hflight, hreturned⟩ := hs.set_call j ⟨module', .returned r' enabled⟩
      (fun r _ hr => by simp [Phase.inFlight] at hr) fun r hc hr => hs.inFlight j _ r hj hc hr
    refine ⟨hs.sent, fun e he => ?_, hflight, hreturned⟩
    rcases update_cases he with ⟨rfl, hnew⟩ | ⟨-, he⟩
    · cases hnew
      exact hs.inFlight j _ r' hj rfl rfl
    · exact hs.cache e he
  | invalidate module' =>
    refine { hs with cache := fun e he => ?_ }
    rcases update_cases he with ⟨-, hnew⟩ | ⟨-, he⟩
    · simp at hnew
    · exact hs.cache e he

lemma stale_of_received (lib : Libraries) {i r : ℕ} {enabled : Bool}
    (hi : s.calls[i]? = some ⟨module, .received r enabled⟩) :
    ∃ es t, run (step lib) s es = some t ∧
      t.calls[s.calls.length]? = some ⟨module, .returned r enabled⟩ := by
  have hstore : s.step lib (.store i s.clock) = some { s with
      cache := update s.cache module (some ⟨enabled, s.clock + defaultTTL, r⟩)
      calls := s.calls.set i ⟨module, .returned r enabled⟩ } := by simp [step, hi]
  refine ⟨[.store i s.clock, .start module s.clock], _, run_cons_eq_some.mpr ⟨_, hstore,
    run_cons_eq_some.mpr ⟨_, by simp [step, defaultTTL, Option.filter]; rfl, rfl⟩⟩, ?_⟩
  simp

lemma stale_of_inFlight (lib : Libraries) {i r : ℕ} {c : GoCall} (hi : s.calls[i]? = some c)
    (hr : c.phase.inFlight = some r) : ∃ es t enabled, run (step lib) s es = some t ∧
      t.calls[s.calls.length]? = some ⟨c.module, .returned r enabled⟩ := by
  obtain ⟨module, phase⟩ := c
  cases phase with
  | sent r' =>
    obtain rfl : r' = r := by simpa [Phase.inFlight] using hr
    let enabled := (goFetch lib module (.fails 0)).result.getD false
    have hstep : s.step lib (.receive i (.fails 0)) =
        some { s with calls := s.calls.set i ⟨module, .received r' enabled⟩ } := by
      simp [step, hi, enabled]
    have hset : (s.calls.set i ⟨module, .received r' enabled⟩)[i]? =
        some ⟨module, .received r' enabled⟩ := by
      simp [(List.getElem?_eq_some_iff.mp hi).1]
    obtain ⟨es, t, hrun, ht⟩ := @stale_of_received
      { s with calls := s.calls.set i ⟨module, .received r' enabled⟩ } module lib i r' enabled hset
    exact ⟨_ :: es, t, enabled, run_cons_eq_some.mpr ⟨_, hstep, hrun⟩, by simpa using ht⟩
  | received r' enabled =>
    obtain rfl : r' = r := by simpa [Phase.inFlight] using hr
    obtain ⟨es, t, hrun, ht⟩ := stale_of_received lib hi
    exact ⟨es, t, enabled, hrun, ht⟩
  | checked => simp [Phase.inFlight] at hr
  | returned => simp [Phase.inFlight] at hr

theorem takesEffect_iff (hs : s.Numbered) : s.TakesEffect lib module ↔ s.Clear module := by
  constructor
  · -- A request in flight is answered, and the call that starts next finds its answer.
    intro heffect c hc hmodule
    by_contra hflight
    obtain ⟨r, hr⟩ := ne_none_iff_exists'.mp hflight
    obtain ⟨i, hi⟩ := List.mem_iff_getElem?.mp hc
    obtain ⟨es, t, enabled, hrun, ht⟩ := @stale_of_inFlight
      { s with cache := update s.cache module none } lib i r c hi hr
    have hle := heffect _ es t rfl hrun _ _ r le_rfl ht hmodule rfl
    exact absurd (hs.calls c hc r hr) (not_lt.mpr hle)
  · intro hclear s' es t hs' hrun i c r hi hc hmodule hr
    cases hs'
    have hsince : Since s.sent s.calls.length module
        { s with cache := update s.cache module none } := by
      refine ⟨le_rfl, fun e he => by simp at he, fun i c r hi hc hr => ?_, fun i c r hk hi => ?_⟩
      · simp [hclear c (List.mem_of_getElem? hi) hc] at hr
      · exact absurd (List.getElem?_eq_some_iff.mp hi).1 (not_lt.mpr hk)
    exact (run_invariant_always (fun _ _ _ h hstep => since_step h (step_moves hstep))
      hsince hrun).returned i c r hi hc hmodule hr

end GoClient

end Go

/-! ## The TypeScript client -/

/-- What a call asks for.  Each target has an entry and a promise of its own. -/
inductive Target where
  | module (m : String)
  | all
  deriving DecidableEq

inductive Value where
  | enabled (b : Bool)
  | toggles (t : String → Option Bool)

def noToggles : String → Option Bool := fun _ => none

/-- The loop over `Object.entries(raw)`; those of an array are named by index. -/
def togglesOf : Option Json → String → Option Bool
  | some (.obj members) =>
    match lastMember members "toggles" with
    | some (.obj raw) => raw.foldl (fun t m => update t m.1 (some m.2.isTrue)) noToggles
    | some (.arr raw) =>
      raw.zipIdx.foldl (fun t m => update t (toString m.2) (some m.1.isTrue)) noToggles
    | _ => noToggles
  | _ => noToggles

def fetchAll : Server → String → Option Bool
  | .fails _ => noToggles
  | .answers r =>
    if 3000 ≤ r.headers then noToggles
    else if 200 ≤ r.followed.1 ∧ r.followed.1 ≤ 299 then togglesOf r.followed.2.ts
    else noToggles

def Target.fetch : Target → Server → Value
  | .module _, server => .enabled ((fetchOne server).result.getD false)
  | .all, server => .toggles (fetchAll server)

structure TsEntry where
  value : Value
  expiresAt : ℤ
  source : ℕ

/-- `delete this.allCache.toggles[module]`. -/
def TsEntry.without (module : String) (e : TsEntry) : TsEntry :=
  match e.value with
  | .toggles t => { e with value := .toggles (update t module none) }
  | .enabled _ => e

/-- A promise; its value is there once `fetchOne` or `fetchAll` has returned. -/
structure Flight where
  request : ℕ
  value : Option Value

inductive TsPhase where
  | waiting (request : ℕ)
  | answered (source : ℕ) (value : Value)

structure TsCall where
  target : Target
  phase : TsPhase

/-- The request that the answer of a call comes from, or will. -/
def TsCall.number (c : TsCall) : ℕ :=
  match c.phase with
  | .waiting r => r
  | .answered r _ => r

def TsCall.resolve (target : Target) (r : ℕ) (value : Value) (c : TsCall) : TsCall :=
  match c.phase with
  | .waiting r' => if c.target = target ∧ r' = r then ⟨c.target, .answered r value⟩ else c
  | .answered _ _ => c

structure TsClient where
  cache : Target → Option TsEntry
  inFlight : Target → Option Flight
  calls : List TsCall
  sent : ℕ
  clock : ℤ

open TsClient

inductive TsEvent where
  | call (target : Target) (now : ℤ)
  | settle (target : Target) (server : Server) (now : ℤ)
  | finish (target : Target)
  | invalidate (module : Option String)

def TsClient.new : TsClient := ⟨fun _ => none, fun _ => none, [], 0, 0⟩

/-- `invalidate(module)`, or of everything. -/
def TsClient.invalidate (s : TsClient) : Option String → TsClient
  | none => { s with cache := fun _ => none }
  | some module =>
    let deleted := update s.cache (.module module) none
    { s with cache := update deleted .all ((s.cache .all).map (·.without module)) }

def TsClient.step (ttl : ℤ) (s : TsClient) : TsEvent → Option TsClient
  | .call target now =>
    if s.clock ≤ now then
      match (s.cache target).filter fun e => now < e.expiresAt with
      | some e =>
        some { s with clock := now, calls := s.calls ++ [⟨target, .answered e.source e.value⟩] }
      | none =>
        match s.inFlight target with
        | some f => some { s with clock := now, calls := s.calls ++ [⟨target, .waiting f.request⟩] }
        | none =>
          some { s with
            clock := now
            sent := s.sent + 1
            inFlight := update s.inFlight target (some ⟨s.sent, none⟩)
            calls := s.calls ++ [⟨target, .waiting s.sent⟩] }
    else none
  | .settle target server now =>
    match s.inFlight target with
    | some ⟨r, none⟩ =>
      if s.clock ≤ now then
        let value := target.fetch server
        some { s with
          clock := now
          cache := update s.cache target (some ⟨value, now + ttl, r⟩)
          inFlight := update s.inFlight target (some ⟨r, some value⟩) }
      else none
    | _ => none
  | .finish target =>
    match s.inFlight target with
    | some ⟨r, some value⟩ =>
      some { s with
        inFlight := update s.inFlight target none
        calls := s.calls.map (TsCall.resolve target r value) }
    | _ => none
  | .invalidate module => some (s.invalidate module)

/-- The calls an invalidation is meant for: `getAll` shows every module. -/
def Concerns (module : Option String) : Target → Prop
  | .module m => module = none ∨ module = some m
  | .all => True

/-- After the invalidation later calls that it concerns answer from a later request. -/
def TsClient.TakesEffect (ttl : ℤ) (s : TsClient) (module : Option String) : Prop :=
  ∀ s' es t, s.step ttl (.invalidate module) = some s' → run (step ttl) s' es = some t →
    ∀ (i : ℕ) (c : TsCall) (r : ℕ) (value : Value), s.calls.length ≤ i → t.calls[i]? = some c →
      Concerns module c.target → c.phase = .answered r value → s.sent ≤ r

/-- No request that it concerns is in flight, nor, if it is of a module, a map cached. -/
def TsClient.Clear (s : TsClient) (module : Option String) : Prop :=
  (∀ target, Concerns module target → s.inFlight target = none) ∧
  (module ≠ none → ∀ e, s.cache .all = some e → e.expiresAt ≤ s.clock)

section TypeScript

variable {ttl : ℤ} {s s' t : TsClient} {target : Target} {e : TsEvent} {module : Option String}

@[simp] lemma TsEntry.source_without (module : String) (e : TsEntry) :
    (e.without module).source = e.source := by
  unfold TsEntry.without
  split <;> rfl

@[simp] lemma TsEntry.expiresAt_without (module : String) (e : TsEntry) :
    (e.without module).expiresAt = e.expiresAt := by
  unfold TsEntry.without
  split <;> rfl

@[simp] lemma TsCall.target_resolve (target : Target) (r : ℕ) (value : Value) (c : TsCall) :
    (c.resolve target r value).target = c.target := by
  unfold TsCall.resolve
  split
  · split <;> rfl
  · rfl

@[simp] lemma TsCall.number_resolve (target : Target) (r : ℕ) (value : Value) (c : TsCall) :
    (c.resolve target r value).number = c.number := by
  obtain ⟨target', phase⟩ := c
  cases phase with
  | waiting r' =>
    by_cases h : target' = target ∧ r' = r
    · simp [TsCall.resolve, TsCall.number, h]
    · simp [TsCall.resolve, TsCall.number, h]
  | answered => rfl

/-! An invalidation leaves all but the cache as it is. -/

namespace TsClient

@[simp] lemma sent_invalidate : (s.invalidate module).sent = s.sent := by cases module <;> rfl

@[simp] lemma calls_invalidate : (s.invalidate module).calls = s.calls := by cases module <;> rfl

@[simp] lemma clock_invalidate : (s.invalidate module).clock = s.clock := by cases module <;> rfl

@[simp] lemma inFlight_invalidate : (s.invalidate module).inFlight = s.inFlight := by
  cases module <;> rfl

/-- An entry after an invalidation was there, the map changed at most, and is not of the module. -/
lemma invalidate_cache {e : TsEntry} (h : (s.invalidate module).cache target = some e) :
    module ≠ none ∧ (Concerns module target → target = .all) ∧
      ∃ e', s.cache target = some e' ∧ e.source = e'.source ∧ e.expiresAt = e'.expiresAt := by
  cases module with
  | none => simp [invalidate] at h
  | some m =>
    refine ⟨by simp, ?_⟩
    rcases update_cases h with ⟨rfl, hall⟩ | ⟨hne, h⟩
    · obtain ⟨e', he', rfl⟩ := map_eq_some_iff.mp hall
      exact ⟨fun _ => rfl, e', he', by simp, by simp⟩
    · rcases update_cases h with ⟨-, hnone⟩ | ⟨hne', h⟩
      · simp at hnone
      · refine ⟨fun hc => ?_, e, h, rfl, rfl⟩
        cases target with
        | all => rfl
        | module m' =>
          simp only [Concerns, reduceCtorEq, some.injEq, false_or] at hc
          exact absurd (congrArg Target.module hc.symm) hne'

/-- **What one step can do to a client.** -/
inductive Moves (ttl : ℤ) (s : TsClient) : TsClient → Prop
  | hit (target : Target) (e : TsEntry) (now : ℤ) (he : s.cache target = some e)
      (hfresh : now < e.expiresAt) (hclock : s.clock ≤ now) :
      s.Moves ttl
        { s with clock := now, calls := s.calls ++ [⟨target, .answered e.source e.value⟩] }
  | join (target : Target) (f : Flight) (now : ℤ) (hf : s.inFlight target = some f)
      (hclock : s.clock ≤ now) :
      s.Moves ttl { s with clock := now, calls := s.calls ++ [⟨target, .waiting f.request⟩] }
  | send (target : Target) (now : ℤ) (hclock : s.clock ≤ now) : s.Moves ttl { s with
        clock := now
        sent := s.sent + 1
        inFlight := update s.inFlight target (some ⟨s.sent, none⟩)
        calls := s.calls ++ [⟨target, .waiting s.sent⟩] }
  | settle (target : Target) (r : ℕ) (value : Value) (now : ℤ)
      (hf : s.inFlight target = some ⟨r, none⟩) (hclock : s.clock ≤ now) :
      s.Moves ttl { s with
        clock := now
        cache := update s.cache target (some ⟨value, now + ttl, r⟩)
        inFlight := update s.inFlight target (some ⟨r, some value⟩) }
  | finish (target : Target) (r : ℕ) (value : Value) : s.Moves ttl { s with
        inFlight := update s.inFlight target none
        calls := s.calls.map (TsCall.resolve target r value) }
  | invalidate (module : Option String) : s.Moves ttl (s.invalidate module)

lemma step_moves (h : s.step ttl e = some s') : s.Moves ttl s' := by
  cases e with
  | call target now =>
    simp only [step] at h
    split at h
    · rename_i hclock
      split at h
      · rename_i e he
        cases h
        obtain ⟨he, hfresh⟩ := filter_eq_some_iff.mp he
        exact .hit target e now he (of_decide_eq_true hfresh) hclock
      · split at h
        · rename_i f hf
          cases h
          exact .join target f now hf hclock
        · cases h
          exact .send target now hclock
    · simp at h
  | settle target server now =>
    simp only [step] at h
    split at h
    · rename_i r hf
      split at h
      · rename_i hclock
        cases h
        exact .settle target r _ now hf hclock
      · simp at h
    · simp at h
  | finish target =>
    simp only [step] at h
    split at h
    · cases h
      exact .finish target _ _
    · simp at h
  | invalidate module =>
    cases h
    exact .invalidate module

structure Numbered (s : TsClient) : Prop where
  cache : ∀ target e, s.cache target = some e → e.source < s.sent
  inFlight : ∀ target f, s.inFlight target = some f → f.request < s.sent

lemma numbered_step (hs : s.Numbered) (h : s.Moves ttl s') : s'.Numbered := by
  cases h with
  | hit => exact ⟨hs.cache, hs.inFlight⟩
  | join => exact ⟨hs.cache, hs.inFlight⟩
  | send target now hclock =>
    have hlt := s.sent.lt_succ_self
    refine ⟨fun target' e he => (hs.cache target' e he).trans hlt,
      forall_update (fun target' f hf => (hs.inFlight target' f hf).trans hlt) fun f hf => ?_⟩
    cases hf
    exact hlt
  | settle target r value now hf hclock =>
    refine ⟨forall_update hs.cache fun e he => ?_, forall_update hs.inFlight fun f hf' => ?_⟩
    · cases he
      exact hs.inFlight target _ hf
    · cases hf'
      exact hs.inFlight target ⟨r, none⟩ hf
  | finish target r value => exact ⟨hs.cache, forall_update hs.inFlight (by simp)⟩
  | invalidate module =>
    refine ⟨fun target e he => ?_, by simpa using hs.inFlight⟩
    obtain ⟨-, -, e', he', hsource, -⟩ := invalidate_cache he
    rw [hsource, sent_invalidate]
    exact hs.cache target e' he'

/-- What the client holds for the targets, and what calls from the `k`-th on answer, is of requests
from the `n`-th on, or expired. -/
structure Since (n k : ℕ) (time : ℤ) (C : Target → Prop) (s : TsClient) : Prop where
  sent : n ≤ s.sent
  clock : time ≤ s.clock
  cache : ∀ target e, C target → s.cache target = some e → n ≤ e.source ∨ e.expiresAt ≤ time
  inFlight : ∀ target f, C target → s.inFlight target = some f → n ≤ f.request
  calls : ∀ (i : ℕ) (c : TsCall), k ≤ i → s.calls[i]? = some c → C c.target → n ≤ c.number

lemma since_step {n k : ℕ} {time : ℤ} {C : Target → Prop} (hs : s.Since n k time C)
    (h : s.Moves ttl s') : s'.Since n k time C := by
  cases h with
  | hit target e now he hfresh hclock =>
    refine { hs with clock := hs.clock.trans hclock, calls := fun i c hk hi hc => ?_ }
    rcases getElem?_append_cases hi with ⟨-, rfl⟩ | hi
    · have htime := hs.clock
      exact (hs.cache target e hc he).resolve_right (by omega)
    · exact hs.calls i c hk hi hc
  | join target f now hf hclock =>
    refine { hs with clock := hs.clock.trans hclock, calls := fun i c hk hi hc => ?_ }
    rcases getElem?_append_cases hi with ⟨-, rfl⟩ | hi
    · exact hs.inFlight target f hc hf
    · exact hs.calls i c hk hi hc
  | send target now hclock =>
    refine ⟨hs.sent.trans (Nat.le_succ _), hs.clock.trans hclock, hs.cache,
      fun target' f hC hf => ?_, fun i c hk hi hc => ?_⟩
    · rcases update_cases hf with ⟨-, hnew⟩ | ⟨-, hf⟩
      · cases hnew
        exact hs.sent
      · exact hs.inFlight target' f hC hf
    · rcases getElem?_append_cases hi with ⟨-, rfl⟩ | hi
      · exact hs.sent
      · exact hs.calls i c hk hi hc
  | settle target r value now hf hclock =>
    refine ⟨hs.sent, hs.clock.trans hclock, fun target' e hC he => ?_, fun target' f hC hf' => ?_,
      hs.calls⟩
    · rcases update_cases he with ⟨rfl, hnew⟩ | ⟨-, he⟩
      · cases hnew
        exact .inl (hs.inFlight target' _ hC hf)
      · exact hs.cache target' e hC he
    · rcases update_cases hf' with ⟨rfl, hnew⟩ | ⟨-, hf'⟩
      · cases hnew
        exact hs.inFlight target' ⟨r, none⟩ hC hf
      · exact hs.inFlight target' f hC hf'
  | finish target r value =>
    refine ⟨hs.sent, hs.clock, hs.cache, fun target' f hC hf => ?_, fun i c hk hi hc => ?_⟩
    · rcases update_cases hf with ⟨-, hnew⟩ | ⟨-, hf⟩
      · simp at hnew
      · exact hs.inFlight target' f hC hf
    · simp only [List.getElem?_map, map_eq_some_iff] at hi
      obtain ⟨c', hi, rfl⟩ := hi
      rw [TsCall.target_resolve] at hc
      rw [TsCall.number_resolve]
      exact hs.calls i c' hk hi hc
  | invalidate module =>
    refine ⟨by simpa using hs.sent, by simpa using hs.clock, fun target e hC he => ?_,
      by simpa using hs.inFlight, by simpa using hs.calls⟩
    obtain ⟨-, -, e', he', hsource, hexpires⟩ := invalidate_cache he
    rw [hsource, hexpires]
    exact hs.cache target e' hC he'

lemma resolves (ttl : ℤ) {f : Flight} {i : ℕ} (hf : s.inFlight target = some f)
    (hi : s.calls[i]? = some ⟨target, .waiting f.request⟩) :
    ∃ es t value, run (step ttl) s es = some t ∧
      t.calls[i]? = some ⟨target, .answered f.request value⟩ := by
  have hfinish : ∀ (u : TsClient) value, u.calls = s.calls →
      u.inFlight target = some ⟨f.request, some value⟩ → ∃ t, u.step ttl (.finish target) = some t ∧
        t.calls[i]? = some ⟨target, .answered f.request value⟩ := fun u value hcalls hu =>
    ⟨{ u with
        inFlight := update u.inFlight target none
        calls := u.calls.map (TsCall.resolve target f.request value) },
      by simp only [step, hu], by simp [hcalls, hi, TsCall.resolve]⟩
  obtain ⟨r, value⟩ := f
  cases value with
  | some value =>
    obtain ⟨t, ht, hanswer⟩ := hfinish s value rfl hf
    exact ⟨[.finish target], t, value, run_cons_eq_some.mpr ⟨t, ht, rfl⟩, hanswer⟩
  | none =>
    have hsettle : s.step ttl (.settle target (.fails 0) s.clock) = some { s with
        cache := update s.cache target (some ⟨target.fetch (.fails 0), s.clock + ttl, r⟩)
        inFlight := update s.inFlight target (some ⟨r, some (target.fetch (.fails 0))⟩) } := by
      simp [step, hf]
    obtain ⟨t, ht, hanswer⟩ := hfinish { s with
        cache := update s.cache target (some ⟨target.fetch (.fails 0), s.clock + ttl, r⟩)
        inFlight := update s.inFlight target
          (some ⟨r, some (target.fetch (.fails 0))⟩) } _ rfl (update_self ..)
    exact ⟨[.settle target (.fails 0) s.clock, .finish target], t, _,
      run_cons_eq_some.mpr ⟨_, hsettle, run_cons_eq_some.mpr ⟨t, ht, rfl⟩⟩, hanswer⟩

/-- A call that starts while map or module is cached answers from it. -/
lemma stale_of_fresh (ttl : ℤ) (hs : s.Numbered) {e : TsEntry}
    (he : s.cache target = some e) (hfresh : s.clock < e.expiresAt) :
    ∃ es t r value, run (step ttl) s es = some t ∧
      t.calls[s.calls.length]? = some ⟨target, .answered r value⟩ ∧ r < s.sent :=
  ⟨[.call target s.clock], _, e.source, e.value,
    run_cons_eq_some.mpr ⟨_, by simp [step, he, hfresh, Option.filter]; rfl, rfl⟩, by
    simp, hs.cache target e he⟩

/-- A call that starts while a request is in flight answers from it, or from the cache. -/
lemma stale_of_inFlight (ttl : ℤ) (hs : s.Numbered) {f : Flight}
    (hf : s.inFlight target = some f) : ∃ es t r value, run (step ttl) s es = some t ∧
      t.calls[s.calls.length]? = some ⟨target, .answered r value⟩ ∧ r < s.sent := by
  by_cases hfresh : ∃ e, s.cache target = some e ∧ s.clock < e.expiresAt
  · obtain ⟨e, he, hlt⟩ := hfresh
    exact stale_of_fresh ttl hs he hlt
  · have hnone : ((s.cache target).filter fun e => decide (s.clock < e.expiresAt)) = none :=
      filter_eq_none_iff.mpr fun e he => by simpa using fun hlt => hfresh ⟨e, he, hlt⟩
    have hcall : s.step ttl (.call target s.clock) =
        some { s with calls := s.calls ++ [⟨target, .waiting f.request⟩] } := by
      simp [step, hnone, hf]
    obtain ⟨es, t, value, hrun, ht⟩ := @resolves
      { s with calls := s.calls ++ [⟨target, .waiting f.request⟩] } target ttl f s.calls.length hf
      (by simp)
    exact ⟨_ :: es, t, f.request, value, run_cons_eq_some.mpr ⟨_, hcall, hrun⟩, ht,
      hs.inFlight target f hf⟩

theorem takesEffect_iff (hs : s.Numbered) : s.TakesEffect ttl module ↔ s.Clear module := by
  have hs' : (s.invalidate module).Numbered :=
    numbered_step hs (@Moves.invalidate ttl s module)
  constructor
  · intro heffect
    -- No run from here ends in an answer that comes from a request that is already out.
    have hno : ∀ target, Concerns module target → ¬ ∃ es t r value,
        run (step ttl) (s.invalidate module) es = some t ∧
        t.calls[(s.invalidate module).calls.length]? = some ⟨target, .answered r value⟩ ∧
        r < (s.invalidate module).sent := by
      rintro target htarget ⟨es, t, r, value, hrun, ht, hlt⟩
      rw [calls_invalidate] at ht
      rw [sent_invalidate] at hlt
      exact absurd (heffect _ es t rfl hrun _ _ r value le_rfl ht htarget rfl) (not_le.mpr hlt)
    refine ⟨fun target htarget => ?_, fun hmodule e he => ?_⟩
    · by_contra hflight
      obtain ⟨f, hf⟩ := ne_none_iff_exists'.mp hflight
      exact hno target htarget (stale_of_inFlight ttl hs' (by rw [inFlight_invalidate, hf]))
    · by_contra hfresh
      obtain ⟨m, rfl⟩ := ne_none_iff_exists'.mp hmodule
      have he' : (s.invalidate (some m)).cache .all = some (e.without m) := by
        simp [invalidate, he]
      exact hno .all trivial (stale_of_fresh ttl hs' he' (by simpa using hfresh))
  · intro hclear s₁ es t hs₁ hrun i c r value hi hc hconcerns hphase
    cases hs₁
    have hsince : Since s.sent s.calls.length s.clock (Concerns module)
        (s.invalidate module) := by
      refine ⟨by
        simp, by simp, fun target e hC he => ?_, fun target f hC hf => ?_, fun i c hk hi => ?_⟩
      · obtain ⟨hmodule, hall, e', he', -, hexpires⟩ := invalidate_cache he
        rw [hall hC] at he'
        exact .inr (hexpires ▸ hclear.2 hmodule e' he')
      · rw [inFlight_invalidate, hclear.1 target hC] at hf
        simp at hf
      · rw [calls_invalidate] at hi
        exact absurd (List.getElem?_eq_some_iff.mp hi).1 (not_lt.mpr hk)
    have hlater := (run_invariant_always
      (fun _ _ _ h hstep => since_step h (step_moves hstep)) hsince hrun).calls
        i c hi hc hconcerns
    rwa [TsCall.number, hphase] at hlater

end TsClient

end TypeScript

/-! ## The theorem -/

def goSettled : List GoEvent :=
  [.start "telematics" 0, .send 0, .receive 0 (reply 200 telematicsOn), .store 0 20]

def tsSettled : List TsEvent :=
  [.call (.module "telematics") 0, .settle (.module "telematics") (reply 200 telematicsOn) 20,
   .finish (.module "telematics")]

def mapSettled : List TsEvent :=
  [.call .all 0, .settle .all (reply 200 [("toggles", .obj [("telematics", .bool true)])]) 20,
   .finish .all]

/-- **Invalidation takes effect** for the calls that start later exactly if no request that it
concerns is in flight; and for `invalidate(module)` of the TypeScript client, if no map is cached
either. -/
theorem invalidation_takes_effect_iff {lib : Libraries} {ttl : ℤ} {goEvs : List GoEvent}
    {s : GoClient}
    {tsEvs : List TsEvent} {t : TsClient} (hgo : run (GoClient.step lib) .new goEvs = some s)
    (hts : run (step ttl) .new tsEvs = some t) :
    (∀ module : String, s.TakesEffect lib module ↔ s.Clear module) ∧
    (∀ module : Option String, t.TakesEffect ttl module ↔ t.Clear module) := by
  constructor
  · intro module
    have hnew : GoClient.new.Numbered := ⟨by simp [GoClient.new], by simp [GoClient.new]⟩
    exact GoClient.takesEffect_iff (run_invariant_always
      (fun _ _ _ h hstep => GoClient.numbered_step h (GoClient.step_moves hstep)) hnew hgo)
  · intro module
    have hnew : new.Numbered := ⟨by simp [new], by simp [new]⟩
    exact takesEffect_iff (run_invariant_always
      (fun _ _ _ h hstep => numbered_step h (step_moves hstep)) hnew hts)

theorem settled_invalidation_takes_effect :
    (∃ s, run (GoClient.step anyUrl) .new goSettled = some s ∧ s.cache "telematics" ≠ none ∧
      s.TakesEffect anyUrl "telematics") ∧
    (∃ s, run (step 5000) .new tsSettled = some s ∧
      s.TakesEffect 5000 (some "telematics") ∧ s.TakesEffect 5000 none) := by
  obtain ⟨hgo, hts⟩ :=
    @invalidation_takes_effect_iff anyUrl 5000 goSettled _ tsSettled _ rfl rfl
  refine ⟨⟨_, rfl, by simp, ?_⟩, _, rfl, ?_, ?_⟩
  · refine (hgo "telematics").mpr fun c hc _ => ?_
    obtain rfl := List.mem_singleton.mp hc
    rfl
  · refine (hts (some "telematics")).mpr ⟨fun target _ => ?_, fun _ e he => ?_⟩
    · by_cases h : target = .module "telematics" <;> simp [h, new]
    · simp [new] at he
  · refine (hts none).mpr ⟨fun target _ => ?_, by simp⟩
    by_cases h : target = .module "telematics" <;> simp [h, new]

/-- A request is in flight when its module is invalidated, in Go and in TypeScript.  And `getAll`
still answers its map. -/
theorem invalidation_without_effect :
    (∃ s, run (GoClient.step anyUrl) .new [.start "telematics" 0, .send 0] = some s ∧
      ¬ s.TakesEffect anyUrl "telematics") ∧
    (∃ s, run (step 5000) .new [.call (.module "telematics") 0] = some s ∧
      ¬ s.TakesEffect 5000 (some "telematics") ∧ ¬ s.TakesEffect 5000 none) ∧
    (∃ s, run (step 5000) .new mapSettled = some s ∧ ¬ s.TakesEffect 5000 (some "telematics")) := by
  refine ⟨⟨_, rfl, fun h => ?_⟩, ⟨_, rfl, fun h => ?_, fun h => ?_⟩, _, rfl, fun h => ?_⟩
  · have := h _ [.receive 0 (reply 200 telematicsOn), .store 0 20, .start "telematics" 30] _ rfl rfl
      1 _ 0 (by decide) rfl rfl rfl
    cases this
  · have := h _ [.call (.module "telematics") 10,
      .settle (.module "telematics") (reply 200 telematicsOn) 20, .finish (.module "telematics")]
      _ rfl rfl 1 _ 0 _ (by decide) rfl (.inr rfl) rfl
    cases this
  · have := h _ [.call (.module "telematics") 10,
      .settle (.module "telematics") (reply 200 telematicsOn) 20, .finish (.module "telematics")]
      _ rfl rfl 1 _ 0 _ (by decide) rfl (.inl rfl) rfl
    cases this
  · have := h _ [.call .all 100] _ rfl rfl 1 _ 0 _ (by decide) rfl trivial rfl
    cases this

end H2Fleet.ToggleClient
