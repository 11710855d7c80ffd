import Mathlib.Algebra.Field.Rat
import Mathlib.Data.List.Dedup
import Ztab.Json.Reader
import Ztab.Shared.Effect
import Ztab.Tee.Validation

set_option autoImplicit false

/-!
# What a parsed value leaves out

The depth-limiting callback makes the library skip elements, the rule for repeated keys makes it
drop members, a number that no 64-bit integer and no double is becomes another, and one beyond the
range of a double is an exception.
-/

def Binary64.number (value : Binary64) : ℚ :=
  (if value.negative then -1 else 1) * value.mantissa * 2 ^ value.exponent

namespace Ztab

def NumberLiteral.number (literal : NumberLiteral) : ℚ :=
  (if literal.negative then -1 else 1) * literal.digits * 10 ^ literal.power

def Json.number? : Json → Option ℚ
  | .integer value => some value
  | .float value => some value.number
  | _ => none

/-- The number that the literal spells is a 64-bit integer or a double, and not only near one. -/
def NumberLiteral.Exact (literal : NumberLiteral) : Prop :=
  ∃ value, literal.toJson? = some value ∧ value.number? = some literal.number

-- Two integers beyond 64 bits and one double.
example : NumberLiteral.toJson? ⟨false, 18446744073709551617, 0, true⟩ =
    NumberLiteral.toJson? ⟨false, 18446744073709551618, 0, true⟩ := by rfl

namespace JsonText

mutual

def depth : JsonText → Nat
  | .array elements => elementsDepth elements
  | .object members => membersDepth members
  | _ => 0

def elementsDepth : List JsonText → Nat
  | [] => 0
  | head :: rest => max (head.depth + 1) (elementsDepth rest)

def membersDepth : List (String × JsonText) → Nat
  | [] => 0
  | (_, value) :: rest => max (value.depth + 1) (membersDepth rest)

end

def Exact (text : JsonText) : Prop := ∀ literal ∈ text.numbers, literal.Exact

def entries (members : List (String × JsonText)) : List (String × Json) :=
  members.foldl (fun built member =>
    DuplicateKeys.lastWins.assign member.1 (member.2.readAs .lastWins) built) []

section Entries

variable {members : List (String × JsonText)}

end Entries

end JsonText

theorem JsonText.Exact.converts {tree : JsonText} (faithful : tree.Exact) :
    ¬ tree.numbers.any NumberLiteral.overflows = true := by
  simp only [List.any_eq_true, not_exists, not_and]
  intro literal listed
  obtain ⟨value, converted, -⟩ := faithful literal listed
  simp [NumberLiteral.overflows, converted]

end Ztab
