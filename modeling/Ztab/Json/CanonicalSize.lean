import Mathlib.Algebra.GroupWithZero.Nat
import Ztab.Json.Reader
import Ztab.Json.Readings

set_option autoImplicit false

/-!
# The size of a canonical text

What a value takes when it is dumped, counted on the value. The dump of a text that keeps no
number as a double is never longer than the text.
-/

namespace Ztab

def escapedSize (char : Char) : Nat :=
  match char with
  | '"' | '\\' | '\x08' | '\x0C' | '\n' | '\r' | '\t' => 2
  | other => if other.toNat < 0x20 then 6 else other.utf8Size

def quotedSize (text : String) : Nat := (text.toList.map escapedSize).sum + 2

theorem utf8ByteSize_ofList (chars : List Char) :
    (String.ofList chars).utf8ByteSize = (chars.map Char.utf8Size).sum := by
  induction chars with
  | nil => rfl
  | cons char rest ih =>
    rw [← List.singleton_append, String.ofList_append, String.utf8ByteSize_append, ih, List.map_append,
      List.sum_append]
    simp

theorem escapedSize_le (char : Char) : escapedSize char ≤ 6 := by
  have := char.utf8Size_le_four
  unfold escapedSize
  split <;> try omega
  split <;> omega

theorem hexDigit_utf8Size {value : Nat} (small : value < 16) : (Reader.hexDigit value).utf8Size = 1 := by
  revert value
  decide

theorem escaped_size (char : Char) :
    ((Reader.escaped char).map Char.utf8Size).sum = escapedSize char := by
  unfold Reader.escaped escapedSize
  split <;> try rfl
  next =>
    by_cases control : char.toNat < 0x20
    · have high : char.toNat / 16 < 16 := by omega
      have low : char.toNat % 16 < 16 := by omega
      have fixed : '\\'.utf8Size = 1 ∧ 'u'.utf8Size = 1 ∧ '0'.utf8Size = 1 := by decide
      simp [control, hexDigit_utf8Size high, hexDigit_utf8Size low, fixed]
    · simp [control]

theorem quoted_size (text : String) : (Reader.quoted text).utf8ByteSize = quotedSize text := by
  have sizes (chars : List Char) : ((chars.flatMap Reader.escaped).map Char.utf8Size).sum =
      (chars.map escapedSize).sum := by
    induction chars with
    | nil => rfl
    | cons char rest ih => simp [ih, escaped_size]
  have mark : "\"".utf8ByteSize = 1 := by decide
  rw [Reader.quoted, String.utf8ByteSize_append, String.utf8ByteSize_append, mark, quotedSize,
    utf8ByteSize_ofList, sizes]
  omega

namespace Json

variable (formatFloat : Binary64 → String)

mutual

/-- The bytes of the dump. An empty container has its two brackets. -/
def canonicalSize : Json → Nat
  | .null => 4
  | .boolean true => 4
  | .boolean false => 5
  | .integer value => (toString value).utf8ByteSize
  | .float value => (formatFloat value).utf8ByteSize
  | .string text => quotedSize text
  | .array elements => 1 + max 1 (elementsSize elements)
  | .object members => 1 + max 1 (membersSize members)

-- Every element with the comma or the bracket after it.
def elementsSize : List Json → Nat
  | [] => 0
  | head :: rest => canonicalSize head + 1 + elementsSize rest

def membersSize : List (String × Json) → Nat
  | [] => 0
  | (key, head) :: rest => quotedSize key + 1 + canonicalSize head + 1 + membersSize rest

end

end Json

/-- Digits and sign of a literal without fraction and exponent; other literals are not counted. -/
def NumberLiteral.spelledSize (literal : NumberLiteral) : Nat :=
  if literal.integral then (toString literal.digits).utf8ByteSize + literal.negative.toNat else 0

namespace JsonText

mutual

def spelledSize : JsonText → Nat
  | .null => 4
  | .boolean true => 4
  | .boolean false => 5
  | .number literal => literal.spelledSize
  | .string text => quotedSize text
  | .array elements => 1 + max 1 (elementsSize elements)
  | .object members => 1 + max 1 (membersSize members)

def elementsSize : List JsonText → Nat
  | [] => 0
  | head :: rest => spelledSize head + 1 + elementsSize rest

def membersSize : List (String × JsonText) → Nat
  | [] => 0
  | (key, head) :: rest => quotedSize key + 1 + spelledSize head + 1 + membersSize rest

end

end JsonText

open Reader in
mutual

theorem compact_size (formatFloat : Binary64 → String) (value : Json) :
    (compact formatFloat value).utf8ByteSize = value.canonicalSize formatFloat := by
  match value with
  | .null => simp only [compact, Json.canonicalSize]; decide
  | .boolean true => simp only [compact, Json.canonicalSize]; decide
  | .boolean false => simp only [compact, Json.canonicalSize]; decide
  | .integer value => simp only [compact, Json.canonicalSize]
  | .float value => simp only [compact, Json.canonicalSize]
  | .string text => rw [compact, Json.canonicalSize, quoted_size]
  | .array elements =>
    have opening : "[".utf8ByteSize = 1 := by decide
    have closing : "]".utf8ByteSize = 1 := by decide
    have inner := compactElements_size formatFloat elements
    rw [compact, Json.canonicalSize, String.utf8ByteSize_append, String.utf8ByteSize_append, opening,
      closing, ← inner]
    omega
  | .object members =>
    have opening : "\x7b".utf8ByteSize = 1 := by decide
    have closing : "\x7d".utf8ByteSize = 1 := by decide
    have inner := compactMembers_size formatFloat members
    rw [compact, Json.canonicalSize, String.utf8ByteSize_append, String.utf8ByteSize_append, opening,
      closing, ← inner]
    omega

theorem compactElements_size (formatFloat : Binary64 → String) (elements : List Json) :
    (compactElements formatFloat elements).utf8ByteSize + 1 =
      max 1 (Json.elementsSize formatFloat elements) := by
  match elements with
  | [] => simp [compactElements, Json.elementsSize]
  | [last] =>
    have size := compact_size formatFloat last
    simp only [compactElements, Json.elementsSize, size]
    omega
  | head :: next :: rest =>
    have size := compact_size formatFloat head
    have others := compactElements_size formatFloat (next :: rest)
    have comma : ",".utf8ByteSize = 1 := by decide
    simp only [compactElements, Json.elementsSize, String.utf8ByteSize_append, size, comma] at others ⊢
    omega

theorem compactMembers_size (formatFloat : Binary64 → String) (members : List (String × Json)) :
    (compactMembers formatFloat members).utf8ByteSize + 1 =
      max 1 (Json.membersSize formatFloat members) := by
  match members with
  | [] => simp [compactMembers, Json.membersSize]
  | [(key, last)] =>
    have size := compact_size formatFloat last
    have colon : ":".utf8ByteSize = 1 := by decide
    simp only [compactMembers, Json.membersSize, String.utf8ByteSize_append, quoted_size, size, colon]
    omega
  | (key, head) :: next :: rest =>
    have size := compact_size formatFloat head
    have others := compactMembers_size formatFloat (next :: rest)
    have comma : ",".utf8ByteSize = 1 := by decide
    have colon : ":".utf8ByteSize = 1 := by decide
    obtain ⟨other, held⟩ := next
    simp only [compactMembers, Json.membersSize, String.utf8ByteSize_append, quoted_size, size, comma,
      colon] at others ⊢
    omega

end

end Ztab
