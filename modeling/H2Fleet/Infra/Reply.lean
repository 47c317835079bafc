import Mathlib.Tactic

/-!
# Replies

What the handlers of `infra-api` answer, as far as it does not depend on the row they return: the
status code with the `error` and the `message` of the body, both empty where the handler succeeds.
-/

namespace H2Fleet.Infra

structure Reply where
  code : ℕ
  error : String
  message : String
  deriving DecidableEq

namespace Reply

def ok : Reply := ⟨200, "", ""⟩

def created : Reply := ⟨201, "", ""⟩

def accepted : Reply := ⟨202, "", ""⟩

variable (error : String)

def badRequest : Reply := ⟨400, error, ""⟩

def unauthorized : Reply := ⟨401, error, ""⟩

def notFound : Reply := ⟨404, error, ""⟩

def conflict : Reply := ⟨409, error, ""⟩

def unprocessable : Reply := ⟨422, error, ""⟩

def internal : Reply := ⟨500, "internal_error", ""⟩

/-- The handler did what it was asked to do. -/
def Success (r : Reply) : Prop := r.code < 300
  deriving Decidable

@[simp] lemma success_ok : ok.Success := by decide

@[simp] lemma success_created : created.Success := by decide

@[simp] lemma not_success_badRequest : ¬ (badRequest error).Success := by
  simp [Success, badRequest]

@[simp] lemma not_success_conflict : ¬ (conflict error).Success := by
  simp [Success, conflict]

@[simp] lemma not_success_unprocessable : ¬ (unprocessable error).Success := by
  simp [Success, unprocessable]

@[simp] lemma not_success_internal : ¬ internal.Success := by decide

end Reply

end H2Fleet.Infra
