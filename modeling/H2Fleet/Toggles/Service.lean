import H2Fleet.Core.Interaction

/-!
# The toggle service and its cache

`Get` and `Put` of `handlers/toggles.go`, over the table `feature_toggles` and the Redis keys
`toggles:<module>`.  A `Put` updates the row and then sets the key; a `Get` reads the key, and on a
miss reads the row and sets the key.  Nothing ties the two steps together.

**What goes wrong.**  A reader that has read the row before an UPDATE sets the key after the writer
has: the old value is back, although the `Put` has returned.  Two writers can set the key in the
other order than they have updated the row.  And a writer whose SET fails leaves the old entry.

**Redis.**  Reads and writes can fail, and a write that is reported as failed may have been
executed.  An entry can go at any time.  A service without Redis is one where every read and write
fails.  The event `toggle.changed` is left out: nothing here reads it, and its failure is only
logged.
-/

namespace H2Fleet.Toggles

/-! ## What the service works on -/

def modules : List (String × String) :=
  [("telematics", "fleet"), ("predictive-maintenance", "fleet"), ("digital-twin", "fleet"),
   ("fuel-monitoring", "fleet"), ("route-energy-optimizer", "fleet"),
   ("refueling-stations", "infra"), ("leak-detection", "infra"), ("dispatch-workforce", "infra"),
   ("compliance-reporting", "infra"), ("depot-management", "infra"),
   ("passenger-pwa", "citizen"), ("mobile-app", "citizen"), ("demand-responsive", "citizen"),
   ("carbon-credits", "citizen"), ("open-data-portal", "citizen"),
   ("fare-payments", "commerce"), ("loyalty-marketplace", "commerce"),
   ("energy-trading", "commerce"), ("gov-dashboard", "commerce"), ("advertising", "commerce")]

/-- A row of `feature_toggles`. -/
structure Toggle where
  enabled : Bool
  domain : String
  deriving DecidableEq

def boolString (b : Bool) : String := if b then "true" else "false"

lemma boolString_eq_true (b : Bool) : decide (boolString b = "true") = b := by
  cases b <;> decide

/-- The rows and the Redis entries, by module. -/
structure World where
  rows : String → Option Toggle
  cache : String → Option String

open World

inductive Query where
  | redisGet (module : String)
  | select (module : String)
  /-- The SET of a `Get`. -/
  | fill (module : String) (enabled : Bool)
  | update (module : String) (enabled : Bool)
  /-- The SET of a `Put`. -/
  | refresh (module : String) (enabled : Bool)

inductive CacheAnswer where
  | hit (text : String)
  | miss
  | failed

inductive DbError where
  | noRows
  | failed

/-- An UPDATE answers the number of rows, a SET whether it is known to have succeeded. -/
@[reducible] def Answer : Query → Type
  | .redisGet _ => CacheAnswer
  | .select _ => Except DbError Toggle
  | .fill _ _ => Bool
  | .update _ _ => Except DbError ℕ
  | .refresh _ _ => Bool

/-- A step succeeds, fails before it was executed, or after. -/
inductive Fault where
  | none
  | refused
  | lost
  deriving DecidableEq

namespace World

def set (w : World) (module : String) (enabled : Bool) : World :=
  { w with cache := Function.update w.cache module (some (boolString enabled)) }

/-- `UPDATE feature_toggles SET enabled = $2 WHERE module = $1`. -/
def update (w : World) (module : String) (enabled : Bool) : World × ℕ :=
  match w.rows module with
  | some row => ({ w with rows := Function.update w.rows module (some { row with enabled }) }, 1)
  | none => (w, 0)

def answer (w : World) : (q : Query) → Fault → Option (World × Answer q)
  | .redisGet module, .none =>
    some (w, match w.cache module with | some text => .hit text | none => .miss)
  | .redisGet _, _ => some (w, .failed)
  | .select module, .none =>
    some (w, match w.rows module with | some row => .ok row | none => .error .noRows)
  | .select _, _ => some (w, .error .failed)
  | .fill module enabled, .none => some (w.set module enabled, true)
  | .fill module enabled, .lost => some (w.set module enabled, false)
  | .fill _ _, .refused => some (w, false)
  | .update module enabled, .none =>
    some ((w.update module enabled).1, .ok (w.update module enabled).2)
  | .update module enabled, .lost => some ((w.update module enabled).1, .error .failed)
  | .update _ _, .refused => some (w, .error .failed)
  | .refresh module enabled, .none => some (w.set module enabled, true)
  | .refresh module enabled, .lost => some (w.set module enabled, false)
  | .refresh _ _, .refused => some (w, false)

def expire (w : World) (module : String) : Option World :=
  some { w with cache := Function.update w.cache module none }

end World

/-! ## Handlers -/

inductive Reply where
  | toggle (module : String) (enabled : Bool) (domain : String)
  | changed (module : String) (enabled : Bool) (domain : String)
  | unknownModule
  | badBody
  | internal
  deriving DecidableEq

abbrev Handler := Prog Answer Reply

def ask (q : Query) : Prog Answer (Answer q) := Prog.query q

def readRow (module : String) : Handler := do
  match ← ask (.select module) with
  | .error .noRows => pure .unknownModule
  | .error .failed => pure .internal
  | .ok row =>
    let _ ← ask (.fill module row.enabled)
    pure (.toggle module row.enabled row.domain)

def get (module : String) : Handler :=
  match modules.lookup module with
  | none => pure .unknownModule
  | some domain => do
    match ← ask (.redisGet module) with
    | .hit text => pure (.toggle module (text = "true") domain)
    | .miss | .failed => readRow module

/-- `Put`; the body may not have an `enabled`. -/
def put (module : String) (body : Option Bool) : Handler :=
  match modules.lookup module, body with
  | none, _ => pure .unknownModule
  | some _, none => pure .badBody
  | some domain, some enabled => do
    match ← ask (.update module enabled) with
    | .error _ => pure .internal
    | .ok 0 => pure .unknownModule
    | .ok (_ + 1) =>
      let _ ← ask (.refresh module enabled)
      pure (.changed module enabled domain)

inductive Entry where
  | get (module : String)
  | put (module : String) (body : Option Bool)

/-- The toggle service; by itself the environment only lets entries go. -/
def service : Service World Answer Reply Entry Fault String where
  program
    | .get module => get module
    | .put module body => put module body
  answer := answer
  ambient := expire

abbrev Calls := Pool World Answer Reply

abbrev Event := PoolEvent Entry Fault String

def step : Calls → Event → Option Calls := service.step

def start (rows : String → Option Toggle) : Calls := ⟨⟨rows, fun _ => none⟩, fun _ => none⟩

/-! ## The condition -/

/-- The entry of a module, if there is one, has the value of its row. -/
def World.Agrees (w : World) (module : String) : Prop :=
  ∀ text ∈ w.cache module, ∃ row ∈ w.rows module, text = boolString row.enabled
  deriving Decidable

/-- A SET that is executed writes the value of the row.  A SET that a `Put` fails to execute finds
no entry or that value, and so does an UPDATE, for its own value, if its answer is lost. -/
def World.Current (w : World) : Query → Fault → Prop
  | .fill module enabled, f => f ≠ .refused → ∃ row ∈ w.rows module, row.enabled = enabled
  | .refresh module enabled, f =>
    (f ≠ .refused → ∃ row ∈ w.rows module, row.enabled = enabled) ∧ (f = .refused → w.Agrees module)
  | .update module enabled, f => f = .lost → (w.update module enabled).1.Agrees module
  | _, _ => True

instance (w : World) (q) (f) : Decidable (w.Current q f) := by
  unfold Current; split <;> infer_instance

/-! ## What the handlers do -/

def updated (module : String) : Exchange Answer → Option Bool
  | ⟨.update m enabled, .ok (_ + 1)⟩ => if m = module then some enabled else none
  | _ => none

def refreshed (module : String) : Exchange Answer → Bool
  | ⟨.refresh m _, _⟩ => m = module
  | _ => false

/-- The value for the module that was read. -/
def served (module : String) : Exchange Answer → Option Bool
  | ⟨.redisGet m, .hit text⟩ => if m = module then some (text = "true") else none
  | ⟨.select m, .ok row⟩ => if m = module then some row.enabled else none
  | _ => none

variable (h : List (Exchange Answer))

def Updated (module : String) : Prop :=
  ∃ ex ∈ h, updated module ex ≠ none

def Refreshed (module : String) : Prop :=
  ∃ ex ∈ h, refreshed module ex = true

def Serves (module : String) (enabled : Bool) : Prop :=
  ∃ ex ∈ h, served module ex = some enabled

/-- The call is a `Put` of this value that has come to its UPDATE. -/
def Puts (module : String) (enabled : Bool) : Prop :=
  ∃ ex ∈ h, ex.1 = .update module enabled

/-- A `Put` begins with its UPDATE, and sets the key after it only. -/
def Ordered : Query → Prop
  | .update _ _ => h = []
  | .refresh module _ => Updated h module
  | _ => True

/-- What a call has done when it returns. -/
structure Done (r : Reply) : Prop where
  refreshed : ∀ module, Updated h module → Refreshed h module
  toggle : ∀ module enabled domain, r = .toggle module enabled domain → Serves h module enabled
  changed : ∀ module enabled domain, r = .changed module enabled domain →
    Updated h module ∧ Puts h module enabled

variable {h}

lemma safe_ask {post : List (Exchange Answer) → Reply → Prop} (q : Query) (f : Answer q → Handler) :
    Prog.Safe Ordered post h (ask q >>= f) ↔
      Ordered h q ∧ ∀ x, Prog.Safe Ordered post (⟨q, x⟩ :: h) (f x) := Iff.rfl

lemma done_of_not_updated {r : Reply} (hh : ∀ module, ¬ Updated h module)
    (htoggle : ∀ module enabled domain, r = .toggle module enabled domain → Serves h module enabled)
    (hr : ∀ module enabled domain, r ≠ .changed module enabled domain) : Done h r :=
  ⟨fun module hu => absurd hu (hh module), htoggle, fun m e d heq => absurd heq (hr m e d)⟩

variable {ex : Exchange Answer}

lemma not_updated_cons (hex : ∀ module, updated module ex = none)
    (hh : ∀ module, ¬ Updated h module) (module : String) : ¬ Updated (ex :: h) module := by
  rintro ⟨ex', hmem, hne⟩
  rcases List.mem_cons.mp hmem with rfl | hmem
  · exact hne (hex module)
  · exact hh module ⟨ex', hmem, hne⟩

lemma safe_readRow (hh : ∀ module, ¬ Updated h module) (module : String) :
    Prog.Safe Ordered Done h (readRow module) := by
  refine (safe_ask _ _).mpr ⟨trivial, fun x => ?_⟩
  have hselect : ∀ m, ¬ Updated (⟨.select module, x⟩ :: h) m := not_updated_cons (fun _ => rfl) hh
  match x with
  | .error .noRows => exact done_of_not_updated hselect nofun nofun
  | .error .failed => exact done_of_not_updated hselect nofun nofun
  | .ok row =>
    refine (safe_ask _ _).mpr ⟨trivial, fun b => ?_⟩
    refine done_of_not_updated (not_updated_cons (fun _ => rfl) hselect) ?_ nofun
    intro m e d heq
    obtain ⟨rfl, rfl, -⟩ := Reply.toggle.inj heq
    exact ⟨⟨.select module, .ok row⟩, by simp, by simp [served]⟩

lemma safe_get (module : String) : Prog.Safe Ordered Done [] (get module) := by
  have hnil : ∀ module, ¬ Updated [] module := by simp [Updated]
  unfold get
  split
  · exact done_of_not_updated hnil nofun nofun
  · refine (safe_ask _ _).mpr ⟨trivial, fun x => ?_⟩
    have hread : ∀ m, ¬ Updated [⟨.redisGet module, x⟩] m := not_updated_cons (fun _ => rfl) hnil
    match x with
    | .hit text =>
      refine done_of_not_updated hread ?_ nofun
      intro m e d heq
      obtain ⟨rfl, rfl, -⟩ := Reply.toggle.inj heq
      exact ⟨⟨.redisGet module, .hit text⟩, by simp, by simp [served]⟩
    | .miss => exact safe_readRow hread module
    | .failed => exact safe_readRow hread module

lemma safe_put (module : String) (body : Option Bool) :
    Prog.Safe Ordered Done [] (put module body) := by
  have hnil : ∀ module, ¬ Updated [] module := by simp [Updated]
  unfold put
  split
  · exact done_of_not_updated hnil nofun nofun
  · exact done_of_not_updated hnil nofun nofun
  · next domain enabled _ =>
      refine (safe_ask _ _).mpr ⟨rfl, fun x => ?_⟩
      match x with
      | .error e =>
        exact done_of_not_updated (not_updated_cons (fun _ => rfl) hnil) nofun nofun
      | .ok 0 => exact done_of_not_updated (not_updated_cons (fun _ => rfl) hnil) nofun nofun
      | .ok (n + 1) =>
        refine (safe_ask _ _).mpr ⟨⟨_, List.mem_cons_self, by simp [updated]⟩, fun b => ?_⟩
        refine ⟨fun m hu => ?_, nofun, fun m e d heq => ?_⟩
        · -- the only UPDATE is that of the module
          refine ⟨⟨.refresh module enabled, b⟩, List.mem_cons_self, ?_⟩
          obtain ⟨ex, hmem, hne⟩ := hu
          rcases List.mem_cons.mp hmem with rfl | hmem
          · exact absurd rfl hne
          · rw [List.mem_singleton.mp hmem] at hne
            simpa [updated, refreshed] using hne
        · obtain ⟨rfl, rfl, -⟩ := Reply.changed.inj heq
          exact ⟨⟨⟨.update module enabled, .ok (n + 1)⟩, by simp, by simp [updated]⟩,
            ⟨.update module enabled, .ok (n + 1)⟩, by simp, rfl⟩

lemma safe_program (e : Entry) : Prog.Safe Ordered Done [] (service.program e) := by
  cases e with
  | get module => exact safe_get module
  | put module body => exact safe_put module body

variable {p : Calls} {enabled b : Bool} {m : String}

lemma obeys_of_run {rows : String → Option Toggle} {evs : List Event}
    (hrun : run step (start rows) evs = some p) : p.Obeys Ordered Done :=
  Pool.Obeys.of_run safe_program (fun _ _ h => by cases h) hrun

/-! ## One query -/

namespace World

open Option Function

variable {w w' : World} {q : Query} {f : Fault} {a : Answer q} {m : String} {enabled : Bool}

lemma agrees_set (h : ∃ row ∈ w.rows m, row.enabled = enabled) : (w.set m enabled).Agrees m := by
  obtain ⟨row, hrow, rfl⟩ := h
  intro text htext
  simp only [set, update_self, mem_def, some.injEq] at htext
  exact ⟨row, hrow, htext.symm⟩

variable {module : String}

lemma update_cache (w : World) (module : String) (enabled : Bool) :
    (w.update module enabled).1.cache = w.cache := by
  unfold update
  split <;> rfl

lemma update_rows_of_ne (hne : m ≠ module) : (w.update module enabled).1.rows m = w.rows m := by
  unfold update
  split
  · simp only [update_of_ne hne]
  · rfl

lemma update_rows_self {row : Toggle} (h : row ∈ (w.update m enabled).1.rows m) :
    row.enabled = enabled := by
  cases hrow : w.rows m with
  | none => simp [update, hrow] at h
  | some old =>
    simp only [update, hrow, update_self, mem_def, some.injEq] at h
    rw [← h]

lemma agrees_update_of_ne (hne : m ≠ module) : (w.update module enabled).1.Agrees m ↔
    w.Agrees m := by
  simp only [Agrees, update_cache, update_rows_of_ne hne]

lemma answer_redisGet {a : CacheAnswer} (h : w.answer (.redisGet module) f = some (w', a)) :
    w' = w ∧ ∀ text, a = .hit text → text ∈ w.cache module := by
  cases f with
  | none =>
    cases h
    refine ⟨rfl, fun text htext => ?_⟩
    cases hentry : w.cache module with
    | none => simp [hentry] at htext
    | some entry => simpa [hentry] using htext
  | _ =>
    cases h
    exact ⟨rfl, nofun⟩

lemma answer_select {a : Except DbError Toggle} (h : w.answer (.select module) f = some (w', a)) :
    w' = w ∧ ∀ row, a = .ok row → row ∈ w.rows module := by
  cases f with
  | none =>
    cases h
    refine ⟨rfl, fun row hrow => ?_⟩
    cases hold : w.rows module with
    | none => simp [hold] at hrow
    | some old => simpa [hold] using hrow
  | _ =>
    cases h
    exact ⟨rfl, nofun⟩

lemma answer_fill {a : Bool} (h : w.answer (.fill module enabled) f = some (w', a)) :
    (f = .refused ∧ w' = w) ∨ (f ≠ .refused ∧ w' = w.set module enabled) := by
  cases f with
  | refused => exact .inl ⟨rfl, (Prod.mk.inj (some.inj h)).1.symm⟩
  | _ => exact .inr ⟨nofun, (Prod.mk.inj (some.inj h)).1.symm⟩

lemma answer_refresh {a : Bool} (h : w.answer (.refresh module enabled) f = some (w', a)) :
    (f = .refused ∧ w' = w) ∨ (f ≠ .refused ∧ w' = w.set module enabled) :=
  answer_fill (a := a) (by cases f <;> exact h)

lemma answer_update {a : Except DbError ℕ} (h : w.answer (.update module enabled) f = some (w', a))
    : (w' = w ∧ ∃ e, a = .error e) ∨ (w' = (w.update module enabled).1 ∧
      (f = .lost ∧ (∃ e, a = .error e) ∨ a = .ok (w.update module enabled).2)) := by
  cases f with
  | none =>
    cases h
    exact .inr ⟨rfl, .inr rfl⟩
  | lost =>
    cases h
    exact .inr ⟨rfl, .inl ⟨rfl, _, rfl⟩⟩
  | refused =>
    cases h
    exact .inl ⟨rfl, _, rfl⟩

lemma agrees_refresh {a : Bool} (hok : w.Current (.refresh m enabled) f)
    (h : w.answer (.refresh m enabled) f = some (w', a)) : w'.Agrees m := by
  rcases answer_refresh h with ⟨hf, rfl⟩ | ⟨hf, rfl⟩
  · exact hok.2 hf
  · exact agrees_set (hok.1 hf)

lemma Agrees.of_set (hw : w.Agrees m) (hne : m ≠ module) (h : w' = w ∨ w' = w.set module enabled) :
    w'.Agrees m := by
  rcases h with rfl | rfl
  · exact hw
  · simpa only [Agrees, set, update_of_ne hne] using hw

/-- **A query that is current** keeps an entry in agreement, or has just updated its row. -/
lemma Agrees.answer (hw : w.Agrees m) (hok : w.Current q f) (h : w.answer q f = some (w', a)) :
    w'.Agrees m ∨ updated m ⟨q, a⟩ ≠ none := by
  cases q with
  | redisGet module =>
    obtain ⟨rfl, -⟩ := answer_redisGet h
    exact .inl hw
  | select module =>
    obtain ⟨rfl, -⟩ := answer_select h
    exact .inl hw
  | fill module enabled =>
    rcases answer_fill h with ⟨-, rfl⟩ | ⟨hf, rfl⟩
    · exact .inl hw
    · by_cases hne : m = module
      · subst hne
        exact .inl (agrees_set (hok hf))
      · exact .inl (hw.of_set hne (.inr rfl))
  | update module enabled =>
    rcases answer_update h with ⟨rfl, -⟩ | ⟨rfl, ⟨hf, -⟩ | rfl⟩
    · exact .inl hw
    · by_cases hne : m = module
      · subst hne
        exact .inl (hok hf)
      · exact .inl ((agrees_update_of_ne hne).mpr hw)
    · by_cases hne : m = module
      · subst hne
        cases hrow : w.rows m with
        | none => exact .inl (by simpa [update, hrow] using hw)
        | some old => exact .inr (by simp [update, hrow, updated])
      · exact .inl ((agrees_update_of_ne hne).mpr hw)
  | refresh module enabled =>
    by_cases hne : m = module
    · subst hne
      exact .inl (agrees_refresh hok h)
    · exact .inl (hw.of_set hne ((answer_refresh h).imp And.right And.right))

lemma answer_row {row : Toggle} (h : w.answer q f = some (w', a)) (hrow : row ∈ w'.rows m) :
    q = .update m row.enabled ∨ row ∈ w.rows m ∧ updated m ⟨q, a⟩ = none := by
  cases q with
  | redisGet module =>
    obtain ⟨rfl, -⟩ := answer_redisGet h
    exact .inr ⟨hrow, rfl⟩
  | select module =>
    obtain ⟨rfl, -⟩ := answer_select h
    exact .inr ⟨hrow, rfl⟩
  | fill module enabled =>
    rcases answer_fill h with ⟨-, rfl⟩ | ⟨-, rfl⟩ <;> exact .inr ⟨hrow, rfl⟩
  | refresh module enabled =>
    rcases answer_refresh h with ⟨-, rfl⟩ | ⟨-, rfl⟩ <;> exact .inr ⟨hrow, rfl⟩
  | update module enabled =>
    rcases answer_update h with ⟨rfl, e, rfl⟩ | ⟨rfl, hanswer⟩
    · exact .inr ⟨hrow, rfl⟩
    · by_cases hne : m = module
      · subst hne
        exact .inl (by rw [update_rows_self hrow])
      · rw [update_rows_of_ne hne] at hrow
        refine .inr ⟨hrow, ?_⟩
        rcases hanswer with ⟨-, e, rfl⟩ | rfl
        · rfl
        · unfold update
          split
          · simp [updated, Ne.symm hne]
          · rfl

lemma answer_entry {text : String} (hok : w.Current q f) (h : w.answer q f = some (w', a))
    (htext : text ∈ w'.cache m) : w'.Agrees m ∨ text ∈ w.cache m ∧ refreshed m ⟨q, a⟩ = false := by
  cases q with
  | redisGet module =>
    obtain ⟨rfl, -⟩ := answer_redisGet h
    exact .inr ⟨htext, rfl⟩
  | select module =>
    obtain ⟨rfl, -⟩ := answer_select h
    exact .inr ⟨htext, rfl⟩
  | fill module enabled =>
    rcases answer_fill h with ⟨-, rfl⟩ | ⟨hf, rfl⟩
    · exact .inr ⟨htext, rfl⟩
    · by_cases hne : m = module
      · subst hne
        exact .inl (agrees_set (hok hf))
      · simp only [set, update_of_ne hne] at htext
        exact .inr ⟨htext, rfl⟩
  | update module enabled =>
    refine .inr ⟨?_, rfl⟩
    rcases answer_update h with ⟨rfl, -⟩ | ⟨rfl, -⟩
    · exact htext
    · rwa [update_cache] at htext
  | refresh module enabled =>
    by_cases hne : m = module
    · subst hne
      exact .inl (agrees_refresh hok h)
    · refine .inr ⟨?_, by simp [refreshed, Ne.symm hne]⟩
      rcases answer_refresh h with ⟨-, rfl⟩ | ⟨-, rfl⟩
      · exact htext
      · simpa only [set, update_of_ne hne] using htext

lemma answer_served (h : w.answer q f = some (w', a)) (hb : served m ⟨q, a⟩ = some b) :
    (∃ row ∈ w.rows m, row.enabled = b) ∨ ∃ text ∈ w.cache m, decide (text = "true") = b := by
  cases q with
  | redisGet module =>
    obtain ⟨-, hhit⟩ := answer_redisGet h
    match a with
    | .hit text =>
      simp only [served] at hb
      split_ifs at hb with hm
      subst hm
      exact .inr ⟨text, hhit text rfl, some.inj hb⟩
    | .miss => cases hb
    | .failed => cases hb
  | select module =>
    obtain ⟨-, hok⟩ := answer_select h
    match a with
    | .ok row =>
      simp only [served] at hb
      split_ifs at hb with hm
      subst hm
      exact .inl ⟨row, hok row rfl, some.inj hb⟩
    | .error e => cases hb
  | fill module enabled => cases hb
  | update module enabled => cases hb
  | refresh module enabled => cases hb

end World

/-! ## The entries and the rows -/

/-- A `Put` of the module is between its UPDATE and its SET. -/
def Pending (h : List (Exchange Answer)) (module : String) : Prop :=
  Updated h module ∧ ¬ Refreshed h module

/-- An entry agrees with its row, or a `Put` is about to set it. -/
def Coherent (p : Calls) : Prop :=
  ∀ module, p.shared.Agrees module ∨ ∃ c call, p.calls c = some call ∧ Pending call.hist module

lemma updated_cons : Updated (ex :: h) m ↔ updated m ex ≠ none ∨ Updated h m := by
  simp [Updated]

lemma refreshed_cons : Refreshed (ex :: h) m ↔ refreshed m ex = true ∨ Refreshed h m := by
  simp [Refreshed]

lemma serves_cons : Serves (ex :: h) m b ↔ served m ex = some b ∨ Serves h m b := by
  simp [Serves]

lemma exists_update (h : updated m ex ≠ none) : ∃ enabled, ex.1 = .update m enabled := by
  unfold updated at h
  split at h
  · split_ifs at h with hm
    · exact ⟨_, by rw [hm]⟩
    · exact absurd rfl h
  · exact absurd rfl h

lemma exists_refresh (h : refreshed m ex = true) : ∃ enabled, ex.1 = .refresh m enabled := by
  unfold refreshed at h
  split at h
  · exact ⟨_, by rw [of_decide_eq_true h]⟩
  · cases h

lemma updated_of_refreshed (hl : Lawful Ordered h) (hr : Refreshed h m) : Updated h m := by
  obtain ⟨ex, hmem, hex⟩ := hr
  obtain ⟨enabled, hq⟩ := exists_refresh hex
  obtain ⟨old, hsuf, hpre⟩ := hl.of_mem hmem
  rw [hq] at hpre
  obtain ⟨ex', hmem', hne⟩ := hpre
  exact ⟨ex', hsuf.subset hmem', hne⟩

variable {ev : Event}

lemma Coherent.next {p' : Calls} (hp : Coherent p) (hobeys : p.Obeys Ordered Done)
    (hok : p.Answering Current ev) (h : step p ev = some p') : Coherent p' := by
  intro m
  cases Service.step_move h with
  | start c e hfree =>
    refine (hp m).imp_right ?_
    rintro ⟨d, call, hd, hpending⟩
    have hne : d ≠ c := by
      rintro rfl
      rw [hfree] at hd
      cases hd
    exact ⟨d, call, by simp [Function.update_of_ne hne, hd], hpending⟩
  | ambient module w hw =>
    refine (hp m).imp_left fun hagrees text htext => ?_
    cases hw
    by_cases hne : m = module
    · subst hne
      simp at htext
    · simp only [Function.update_of_ne hne] at htext
      exact hagrees text htext
  | next c x hist q k w a hcall hanswer =>
    have hcurrent := (Pool.answering_next hcall).mp hok
    rcases hp m with hagrees | ⟨d, call, hd, hupdated, hnot⟩
    · refine (hagrees.answer hcurrent hanswer).imp_right fun hnew => ?_
      -- an UPDATE is the first query of its call
      obtain ⟨enabled, hq⟩ := exists_update hnew
      obtain rfl : q = .update m enabled := hq
      obtain rfl : hist = [] := (hobeys c _ hcall).2.1
      refine ⟨c, _, Function.update_self .., updated_cons.mpr (.inl hnew), fun hr => ?_⟩
      rcases refreshed_cons.mp hr with hr | ⟨ex, hmem, -⟩
      · obtain ⟨enabled', hq'⟩ := exists_refresh hr
        cases hq'
      · cases hmem
    · by_cases hr : refreshed m ⟨q, a⟩ = true
      · obtain ⟨enabled, hq⟩ := exists_refresh hr
        obtain rfl : q = .refresh m enabled := hq
        exact .inl (agrees_refresh hcurrent hanswer)
      · right
        by_cases hne : d = c
        · subst hne
          cases hcall.symm.trans hd
          refine ⟨d, _, Function.update_self .., updated_cons.mpr (.inr hupdated), fun hr' => ?_⟩
          exact (refreshed_cons.mp hr').elim hr hnot
        · exact ⟨d, call, by simp [Function.update_of_ne hne, hd], hupdated, hnot⟩

lemma Coherent.agrees (hp : Coherent p) (hobeys : p.Obeys Ordered Done) (hquiet : p.Quiet)
    (m : String) : p.shared.Agrees m := by
  refine (hp m).resolve_right ?_
  rintro ⟨c, call, hc, hupdated, hnot⟩
  obtain ⟨r, hdone⟩ := hobeys.returned hc (hquiet c call hc)
  exact hnot (hdone.refreshed m hupdated)

/-! ## After a Put -/

/-- The value is that of a `Put` that had not returned in `p₁`. -/
def NotBefore (p₁ p : Calls) (module : String) (enabled : Bool) : Prop :=
  ∃ c call, p.calls c = some call ∧ Puts call.hist module enabled ∧
    ∀ call₁, p₁.calls c = some call₁ → ¬ call₁.Returned

variable {p₁ p p' : Calls}

lemma NotBefore.next (hb : NotBefore p₁ p m b) (h : step p ev = some p') : NotBefore p₁ p' m b := by
  obtain ⟨c, call, hc, ⟨ex, hmem, hq⟩, hnot⟩ := hb
  obtain ⟨call', hc', hsuf, -⟩ := Service.step_call h hc
  exact ⟨c, call', hc', ⟨ex, hsuf.subset hmem, hq⟩, hnot⟩

/-- Since `p₁`, once the `Put` of call `c` has updated the row, the row has the value of a `Put`
that was not over in `p₁`, and once it has set the key, the entry has. -/
structure Since (p₁ : Calls) (c : ℕ) (m : String) (p : Calls) : Prop where
  kept : ∀ d call₁, p₁.calls d = some call₁ → call₁.Returned → p.calls d = some call₁
  row : ∀ call, p.calls c = some call → Updated call.hist m →
    ∀ row ∈ p.shared.rows m, NotBefore p₁ p m row.enabled
  entry : ∀ call, p.calls c = some call → Refreshed call.hist m →
    ∀ text ∈ p.shared.cache m, ∃ b, text = boolString b ∧ NotBefore p₁ p m b

lemma Since.next {c : ℕ} (hp : Since p₁ c m p) (hobeys' : p'.Obeys Ordered Done)
    (hok : p.Answering Current ev) (h : step p ev = some p') : Since p₁ c m p' := by
  have hkept : ∀ d call₁, p₁.calls d = some call₁ → call₁.Returned → p'.calls d = some call₁ := by
    intro d call₁ hd hret
    obtain ⟨call', hd', -, hsame⟩ := Service.step_call h (hp.kept d call₁ hd hret)
    rwa [hsame hret] at hd'
  -- an entry that was there before
  have hold : ∀ call, p.calls c = some call → Refreshed call.hist m →
      ∀ text ∈ p.shared.cache m, ∃ b, text = boolString b ∧ NotBefore p₁ p' m b := by
    intro call hcall hr text htext
    obtain ⟨b, hb, hnew⟩ := hp.entry call hcall hr text htext
    exact ⟨b, hb, hnew.next h⟩
  cases Service.step_move h with
  | start d e hfree =>
    refine ⟨hkept, fun call hcall hu row hrow => ?_, fun call hcall hr text htext => ?_⟩
    · rcases update_call_cases hcall with ⟨-, rfl⟩ | ⟨-, hcall⟩
      · simp [Updated] at hu
      · exact (hp.row call hcall hu row hrow).next h
    · rcases update_call_cases hcall with ⟨-, rfl⟩ | ⟨-, hcall⟩
      · simp [Refreshed] at hr
      · exact hold call hcall hr text htext
  | ambient module w hw =>
    cases hw
    refine ⟨hkept, fun call hcall hu row hrow => (hp.row call hcall hu row hrow).next h,
      fun call hcall hr text htext => ?_⟩
    by_cases hne : m = module
    · subst hne
      simp at htext
    · simp only [Function.update_of_ne hne] at htext
      exact hold call hcall hr text htext
  | next d x hist q k w a hcall hanswer =>
    have hcurrent := (Pool.answering_next hcall).mp hok
    have hrow : ∀ call, Function.update p.calls d (some ⟨⟨q, a⟩ :: hist, k a⟩) c = some call →
        Updated call.hist m → ∀ row ∈ w.rows m,
          NotBefore p₁ ⟨w, Function.update p.calls d (some ⟨⟨q, a⟩ :: hist, k a⟩)⟩ m
          row.enabled := by
      intro call hc hu row hrow
      rcases answer_row hanswer hrow with hq | ⟨hrow, hnone⟩
      · -- the call that has just updated the row had not returned in the first state
        refine ⟨d, _, Function.update_self .., ⟨_, List.mem_cons_self, hq⟩, ?_⟩
        rintro call₁ hd ⟨r, hr⟩
        have hsame := Option.some.inj (hcall.symm.trans (hp.kept d call₁ hd ⟨r, hr⟩))
        rw [← hsame] at hr
        cases hr
      · rcases update_call_cases hc with ⟨rfl, rfl⟩ | ⟨-, hc⟩
        · have hu' := (updated_cons.mp hu).resolve_left (· hnone)
          exact (hp.row _ hcall hu' row hrow).next h
        · exact (hp.row call hc hu row hrow).next h
    refine ⟨hkept, hrow, fun call hc hr text htext => ?_⟩
    rcases answer_entry hcurrent hanswer htext with hagrees | ⟨hbefore, hnot⟩
    · obtain ⟨row, hmem, rfl⟩ := hagrees text htext
      exact ⟨_, rfl, hrow call hc (updated_of_refreshed (hobeys' c call hc).1 hr) row hmem⟩
    · rcases update_call_cases hc with ⟨rfl, rfl⟩ | ⟨-, hc⟩
      · exact hold _ hcall ((refreshed_cons.mp hr).resolve_left (by simp [hnot])) text hbefore
      · exact hold call hc hr text hbefore

/-- Once the `Put` of call `c` has set the key, `g` has read of a `Put` not over in `p₁`. -/
structure Reads (p₁ : Calls) (c g : ℕ) (m : String) (p : Calls) : Prop where
  since : Since p₁ c m p
  set : ∃ call, p.calls c = some call ∧ Updated call.hist m ∧ Refreshed call.hist m
  reads : ∀ call, p.calls g = some call → ∀ b, Serves call.hist m b → NotBefore p₁ p m b

lemma Reads.next {c g : ℕ} (hp : Reads p₁ c g m p) (hobeys' : p'.Obeys Ordered Done)
    (hok : p.Answering Current ev) (h : step p ev = some p') : Reads p₁ c g m p' := by
  obtain ⟨put, hput, hupdated, hrefreshed⟩ := hp.set
  refine ⟨hp.since.next hobeys' hok h, ?_, ?_⟩
  · obtain ⟨put', hput', hsuf, -⟩ := Service.step_call h hput
    exact ⟨put', hput', hupdated.imp fun ex hex => ⟨hsuf.subset hex.1, hex.2⟩,
      hrefreshed.imp fun ex hex => ⟨hsuf.subset hex.1, hex.2⟩⟩
  · cases Service.step_move h with
    | start d e hfree =>
      intro call hcall b hb
      rcases update_call_cases hcall with ⟨-, rfl⟩ | ⟨-, hold⟩
      · simp [Serves] at hb
      · exact (hp.reads call hold b hb).next h
    | ambient module w hw => exact fun call hcall b hb => (hp.reads call hcall b hb).next h
    | next d x hist q k w a hcall hanswer =>
      intro call hg b hb
      rcases update_call_cases hg with ⟨rfl, rfl⟩ | ⟨-, hg⟩
      · rcases serves_cons.mp hb with hserved | hb
        · rcases answer_served hanswer hserved with ⟨row, hrow, rfl⟩ | ⟨text, htext, rfl⟩
          · exact (hp.since.row put hput hupdated row hrow).next h
          · obtain ⟨b, rfl, hnew⟩ := hp.since.entry put hput hrefreshed text htext
            rw [boolString_eq_true]
            exact hnew.next h
        · exact (hp.reads _ hcall b hb).next h
      · exact (hp.reads call hg b hb).next h

/-! ## Every run -/

lemma invariant_of_run {rows : String → Option Toggle} (Inv : Calls → Prop)
    (hnext : ∀ p ev p', Inv p → p.Obeys Ordered Done → p'.Obeys Ordered Done →
      p.Answering Current ev → step p ev = some p' → Inv p')
    {before evs : List Event} {p' : Calls} (hbefore : run step (start rows) before = some p)
    (hp : Inv p) (hok : Meets step (Pool.Answering Current) p evs)
      (hrun : run step p evs = some p') :
    Inv p' := by
  refine (@run_invariant _ _ step (Pool.Answering Current)
    (fun p => Inv p ∧ p.Obeys Ordered Done) ?_ _ _ _ ⟨hp, obeys_of_run hbefore⟩ hok hrun).1
  intro p ev p' hp hok hstep
  have hobeys' := hp.2.step safe_program hstep
  exact ⟨hnext p ev p' hp.1 hp.2 hobeys' hok hstep, hobeys'⟩

/-- **Coherence of the toggle cache**, if all queries are current: with no call in flight every
entry has the value of its row; and a `Get` that starts after a `Put` (`p₂`) answers the value of a
`Put` that was not over when that one began (`p₁`). -/
theorem toggle_cache_coherent (rows : String → Option Toggle) {before during after : List Event}
    {p₁ p₂ p : Calls} (h₁ : run step (start rows) before = some p₁)
    (h₂ : run step p₁ during = some p₂) (h₃ : run step p₂ after = some p)
    (hok : Meets step (Pool.Answering Current) (start rows) (before ++ (during ++ after))) :
    (p.Quiet → ∀ module, p.shared.Agrees module) ∧
      ∀ c g module enabled domain put, p₁.calls c = none → p₂.calls c = some put →
        put.prog = .done (.changed module enabled domain) → p₂.calls g = none →
          ∀ get answer domain', p.calls g = some get →
            get.prog = .done (.toggle module answer domain') → NotBefore p₁ p module answer := by
  obtain ⟨hok₁, hok'⟩ := (meets_append h₁).mp hok
  obtain ⟨hok₂, hok₃⟩ := (meets_append h₂).mp hok'
  have hrun₂ : run step (start rows) (before ++ during) = some p₂ := by
    rw [run_append, h₁]
    exact h₂
  have hrun : run step (start rows) (before ++ (during ++ after)) = some p := by
    rw [← List.append_assoc, run_append, hrun₂]
    exact h₃
  refine ⟨fun hquiet => ?_, ?_⟩
  · have hstart : Coherent (start rows) := fun m => .inl (by simp [Agrees, start])
    have hnil : run step (start rows) [] = some (start rows) := rfl
    have hcoherent : Coherent p := invariant_of_run Coherent
      (fun _ _ _ hp hobeys _ hok hstep => hp.next hobeys hok hstep) hnil hstart hok hrun
    exact hcoherent.agrees (obeys_of_run hrun) hquiet
  · intro c g m enabled domain put hc hput hchanged hg get answer domain' hget htoggle
    have hsince₁ : Since p₁ c m p₁ := by
      refine ⟨fun d call₁ hd _ => hd, fun call hcall => ?_, fun call hcall => ?_⟩
      · rw [hc] at hcall
        cases hcall
      · rw [hc] at hcall
        cases hcall
    have hsince : Since p₁ c m p₂ := invariant_of_run (Since p₁ c m)
      (fun _ _ _ hp _ hobeys' hok hstep => hp.next hobeys' hok hstep) h₁ hsince₁ hok₂ h₂
    -- the `Put` has returned, so it has updated the row and set the key
    have hdone := (obeys_of_run hrun₂ c put hput).2
    rw [hchanged] at hdone
    obtain ⟨hupdated, -⟩ := hdone.changed m enabled domain rfl
    have hreads₂ : Reads p₁ c g m p₂ := by
      refine ⟨hsince, ⟨put, hput, hupdated, hdone.refreshed m hupdated⟩, fun call hcall => ?_⟩
      rw [hg] at hcall
      cases hcall
    have hreads : Reads p₁ c g m p := invariant_of_run (Reads p₁ c g m)
      (fun _ _ _ hp _ hobeys' hok hstep => hp.next hobeys' hok hstep) hrun₂ hreads₂ hok₃ h₃
    have hget' := (obeys_of_run hrun g get hget).2
    rw [htoggle] at hget'
    exact hreads.reads get hget answer (hget'.toggle m answer domain' rfl)

def answerOf (p : Calls) (c : ℕ) : Option Reply :=
  (p.calls c).bind fun call => match call.prog with | .done r => some r | .ask _ _ => none

def seeded (module : String) : Option Toggle :=
  (modules.lookup module).map fun domain => ⟨true, domain⟩

/-- A `Get` fills the cache, a `Put` disables the module. -/
def fillThenPut : List Event :=
  [.start 0 (.get "advertising"), .next 0 .none, .next 0 .none, .next 0 .none,
   .start 1 (.put "advertising" (some false)), .next 1 .none, .next 1 .none]

def thenGet : List Event := [.start 2 (.get "advertising"), .next 2 .none]

theorem get_after_put_current :
    ∃ p₂ p, run step (start seeded) fillThenPut = some p₂ ∧ run step p₂ thenGet = some p ∧
      answerOf p 2 = some (.toggle "advertising" false "commerce") ∧
      NotBefore (start seeded) p "advertising" false := by
  refine ⟨_, _, rfl, rfl, rfl, ?_⟩
  exact (@toggle_cache_coherent seeded [] fillThenPut thenGet _ _ _ rfl rfl rfl
    (by decide +kernel)).2
    1 2 "advertising" false "commerce" _ rfl rfl rfl rfl _ false "commerce" rfl rfl

/-- A reader reads the row, a `Put` comes and goes, the reader sets the key. -/
def staleFill : List Event :=
  [.start 0 (.get "advertising"), .next 0 .none, .next 0 .none,
   .start 1 (.put "advertising" (some false)), .next 1 .none, .next 1 .none, .next 0 .none]

def failedRefresh : List Event :=
  [.start 0 (.get "advertising"), .next 0 .none, .next 0 .none, .next 0 .none,
   .start 1 (.put "advertising" (some false)), .next 1 .none, .next 1 .refused]

/-- The row, the entry and the three answers, once the `Get` has returned. -/
def aftermath (evs : List Event) : Option (Option Toggle × Option String × List (Option Reply)) :=
  (run step (start seeded) (evs ++ thenGet)).map fun p =>
    (p.shared.rows "advertising", p.shared.cache "advertising", [0, 1, 2].map (answerOf p))

/-- **A disabled module is served as enabled**, by a `Get` after the `Put` has returned. -/
theorem put_is_undone : aftermath staleFill = some (some ⟨false, "commerce"⟩, some "true",
      [some (.toggle "advertising" true "commerce"), some (.changed "advertising" false "commerce"),
        some (.toggle "advertising" true "commerce")]) ∧
    aftermath failedRefresh = aftermath staleFill := by
  decide +kernel

end H2Fleet.Toggles
