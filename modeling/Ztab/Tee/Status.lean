import Ztab.Json.Text

set_option autoImplicit false

namespace Ztab

inductive StatusCode where
  | invalidArgument
  | notFound
  | alreadyExists
  | permissionDenied
  | resourceExhausted
  | failedPrecondition
  | internal
  deriving DecidableEq, Repr

structure Status where
  code : StatusCode
  message : String
  deriving DecidableEq, Repr

-- A call ends with a value, with a status, or with an exception nothing in it caught.
inductive Failure where
  | status (status : Status)
  | raised (exception : JsonException)
  deriving DecidableEq, Repr

abbrev Outcome (α : Type) := Except Failure α

def refuse {α : Type} (code : StatusCode) (message : String) : Outcome α :=
  .error (.status ⟨code, message⟩)

def Outcome.Raises {α : Type} (outcome : Outcome α) : Prop :=
  ∃ exception, outcome = .error (.raised exception)

namespace Outcome

@[simp] theorem raises_ok {α : Type} (value : α) : ¬ Outcome.Raises (.ok value) := by simp [Raises]

@[simp] theorem raises_status {α : Type} (status : Status) :
    ¬ Outcome.Raises (.error (.status status) : Outcome α) := by simp [Raises]

@[simp] theorem raises_raised {α : Type} (exception : JsonException) :
    Outcome.Raises (.error (.raised exception) : Outcome α) := ⟨exception, rfl⟩

end Outcome

def kMaxJsonParseDepth : Nat := 32

def parseJsonSafely (json : Nlohmann) (text : Bytes) : Outcome Json :=
  match json.parse text (fun depth => decide (depth ≤ kMaxJsonParseDepth)) with
  | .ok value => .ok value
  | .error (.parseError what) =>
    refuse .invalidArgument
      ("JSON parse error (possibly exceeded max depth " ++ toString kMaxJsonParseDepth ++ "): " ++ what)
  | .error other => .error (.raised other)

end Ztab
