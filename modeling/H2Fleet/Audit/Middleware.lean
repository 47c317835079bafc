import Mathlib.Tactic

/-!
# The audit middleware

`Client.Middleware` of `pkg/auditclient` around a handler, which is a function of the request and of
the bytes that it can read from the body, so that two runs of it are compared by running it twice.
With `captureBody` the handler gets a buffer with the beginning of the stream in place of the
stream.

* `Transparent` — the handler's answer is the one it gives without the middleware, one entry is
  emitted for each answer below 400, and the entry carries the body.
* **`middleware_transparent_iff`** — that is so exactly if the whole body fits into the buffer, or
  is not captured.
-/

namespace H2Fleet.Audit.Middleware

abbrev Bytes := List UInt8

/-- A request, with what earlier middlewares have put into its context. -/
structure Request where
  body : Bytes
  subject : String
  roles : List String
  urlParam : String → String
  remoteAddr : String
  userAgent : String

/-- What a handler writes; `status` is missing if it writes nothing. -/
structure Response where
  status : Option ℕ
  content : Bytes

abbrev Handler := Request → Response

structure Entry where
  actorSub : String
  actorRoles : List String
  action : String
  entity : String
  entityID : String
  after : Option Bytes
  ip : String
  ua : String

/-- The fields of `Client` on which a request depends. -/
structure Client where
  base : String

def Client.Enabled (c : Client) : Prop := c.base ≠ ""
  deriving Decidable

/-- The status that the server sends. -/
def Response.sent (r : Response) : ℕ := r.status.getD 200

/-- `ww.Status()` is 0 if the handler has written nothing. -/
lemma Response.sent_lt (r : Response) : r.sent < 400 ↔ ¬ 400 ≤ r.status.getD 0 := by
  obtain ⟨_ | code, content⟩ := r <;> simp [Response.sent]

/-- `64<<10`, the limit of the reader that fills the buffer. -/
def captureLimit : ℕ := 64 * 2 ^ 10

/-- What the handler gets: with `captureBody`, a reader of the buffer. -/
def handed (captureBody : Bool) (r : Request) : Request :=
  if captureBody then { r with body := r.body.take captureLimit } else r

section

variable (valid : Bytes → Bool) (c : Client) (action entity idParam : String) (captureBody : Bool)

/-- The entry for a request of whose body `bodyCopy` was captured. -/
def auditEntry (r : Request) (bodyCopy : Bytes) : Entry where
  actorSub := r.subject
  actorRoles := r.roles
  action := action
  entity := entity
  entityID := if idParam = "" then "" else r.urlParam idParam
  after := if captureBody ∧ bodyCopy ≠ [] ∧ valid bodyCopy then some bodyCopy else none
  ip := r.remoteAddr
  ua := r.userAgent

/-- `Client.Middleware`: the answer and the entries emitted.  `valid` is `json.Valid`. -/
def middleware (next : Handler) (r : Request) : Response × List Entry :=
  if ¬ c.Enabled then (next r, [])
  else
    let r' := handed captureBody r
    let resp := next r'
    if 400 ≤ resp.status.getD 0 then (resp, [])
    else (resp,
      [auditEntry valid action entity idParam captureBody r' (if captureBody then r'.body else [])])

/-- What the middleware promises about a request, whatever the handler is. -/
structure Transparent (r : Request) : Prop where
  answer : ∀ next, (middleware valid c action entity idParam captureBody next r).1 =
    (middleware valid ⟨""⟩ action entity idParam captureBody next r).1
  emitted : ∀ next, (middleware valid c action entity idParam captureBody next r).2.length =
    if (next r).sent < 400 then 1 else 0
  after : ∀ next, captureBody = true → valid r.body = true →
    ∀ e ∈ (middleware valid c action entity idParam captureBody next r).2, e.after = some r.body

variable {valid c captureBody} {r : Request}

lemma middleware_disabled (next : Handler) :
    middleware valid ⟨""⟩ action entity idParam captureBody next r = (next r, []) := by
  simp [middleware, Client.Enabled]

lemma middleware_answer (hc : c.Enabled) (next : Handler) :
    (middleware valid c action entity idParam captureBody next r).1 =
    next (handed captureBody r) := by
  rw [middleware, if_neg (not_not.mpr hc)]
  dsimp only
  split_ifs <;> rfl

lemma handed_eq (h : captureBody = false ∨ r.body.length ≤ captureLimit) :
    handed captureBody r = r := by
  rw [handed]
  split_ifs with hcapture
  · rw [List.take_of_length_le (h.resolve_left (by simp [hcapture]))]
  · rfl

/-- **When auditing is transparent.** -/
theorem middleware_transparent_iff (hc : c.Enabled) (hvalid : valid [] = false) :
    Transparent valid c action entity idParam captureBody r ↔
      captureBody = false ∨ r.body.length ≤ captureLimit := by
  constructor
  · intro h
    by_contra hlong
    rw [not_or, Bool.not_eq_false, not_le] at hlong
    obtain ⟨rfl, hlong⟩ := hlong
    -- a handler that sends the body back
    have hecho := congrArg Response.content (h.answer fun r => ⟨none, r.body⟩)
    rw [middleware_answer action entity idParam hc, middleware_disabled] at hecho
    have hlength : min captureLimit r.body.length = r.body.length := by
      rw [← List.length_take]
      exact congrArg List.length hecho
    omega
  · intro h
    have hmiddleware : ∀ next, middleware valid c action entity idParam captureBody next r =
        (next r, if (next r).sent < 400 then
          [auditEntry valid action entity idParam captureBody r
            (if captureBody then r.body else [])]
          else []) := by
      intro next
      rw [middleware, if_neg (not_not.mpr hc), handed_eq h]
      simp only [Response.sent_lt]
      split_ifs <;> rfl
    refine ⟨fun next => ?_, fun next => ?_, fun next hcapture hjson e he => ?_⟩
    · rw [hmiddleware, middleware_disabled]
    · rw [hmiddleware]
      split_ifs <;> rfl
    · have hne : r.body ≠ [] := by
        intro hnil
        rw [hnil, hvalid] at hjson
        cases hjson
      rw [hmiddleware] at he
      split_ifs at he
      · simp only [List.mem_singleton] at he
        simp [he, auditEntry, hcapture, hne, hjson]
      · cases he

end

/-- A body of two bytes is given on, and it is in the entry. -/
theorem middleware_transparent_object : Transparent (fun b => !b.isEmpty) ⟨"http://audit-log:8080"⟩
    "toggle.update" "feature_toggle" "module" true
    ⟨[123, 125], "admin", [], fun _ => "loyalty", "10.0.0.7:51000", "curl"⟩ :=
  (middleware_transparent_iff _ _ _ (by decide) rfl).mpr (.inr (by decide))

/-- A body of one byte more than the buffer: the handler reads, and takes, a shorter one. -/
theorem long_body_is_cut :
    let r : Request := ⟨List.replicate (captureLimit + 1) 32, "admin", [], fun _ => "", "", ""⟩
    let next : Handler := fun r => ⟨some (if captureLimit < r.body.length then 413 else 200), []⟩
    (middleware (fun _ => false) ⟨""⟩ "payment.create" "fare_payment" "" true next r).1.sent = 413 ∧
      (middleware (fun _ => false) ⟨"http://audit-log:8080"⟩ "payment.create" "fare_payment" "" true
        next r).1.sent = 200 := by
  intro r next
  constructor
  · rw [middleware_disabled]
    simp [next, r, Response.sent]
  · rw [middleware_answer _ _ _ (by decide)]
    simp [handed, next, r, Response.sent]

end H2Fleet.Audit.Middleware
