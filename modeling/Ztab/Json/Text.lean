import Ztab.Json.Value

set_option autoImplicit false

/-!
# JSON texts and the parser callback

A text is read into a tree that still has every member it spells out. What
`json::parse` makes of the tree depends on the rule for repeated keys and on the
callback, which is asked at every event with the depth of the current container.
-/

namespace Ztab

-- The digits are those of the whole literal, the decimal point moved into the power of ten.
structure NumberLiteral where
  negative : Bool
  digits : Nat
  power : Int
  integral : Bool
  deriving DecidableEq, Repr

namespace NumberLiteral

def toJson? (literal : NumberLiteral) : Option Json :=
  if literal.integral ∧ literal.negative ∧ literal.digits ≤ 2 ^ 63 then
    some (.integer (-literal.digits))
  else if literal.integral ∧ ¬ literal.negative ∧ literal.digits < 2 ^ 64 then
    some (.integer literal.digits)
  else (Binary64.ofDecimal literal.negative literal.digits literal.power).map .float

def overflows (literal : NumberLiteral) : Bool := literal.toJson?.isNone

end NumberLiteral

inductive JsonText where
  | null
  | boolean (value : Bool)
  | number (literal : NumberLiteral)
  | string (value : String)
  | array (elements : List JsonText)
  | object (members : List (String × JsonText))

inductive DuplicateKeys where
  | firstWins
  | lastWins
  deriving DecidableEq

def DuplicateKeys.assign (rule : DuplicateKeys) (key : String) (value : Json)
    (members : List (String × Json)) : List (String × Json) :=
  match rule with
  | .lastWins => OrderedMap.assign key value members
  | .firstWins =>
    if (OrderedMap.find key members).isSome then members else OrderedMap.assign key value members

namespace JsonText

mutual

-- The number literals in the order the parser meets them.
def numbers : JsonText → List NumberLiteral
  | .number literal => [literal]
  | .array elements => elementNumbers elements
  | .object members => memberNumbers members
  | _ => []

def elementNumbers : List JsonText → List NumberLiteral
  | [] => []
  | head :: rest => head.numbers ++ elementNumbers rest

def memberNumbers : List (String × JsonText) → List NumberLiteral
  | [] => []
  | (_, value) :: rest => value.numbers ++ memberNumbers rest

end

mutual

-- A container at `depth` is kept by its start event; its keys and elements are
-- events one level deeper, and those the callback refuses are skipped.
def toJson (rule : DuplicateKeys) (keep : Nat → Bool) (depth : Nat) : JsonText → Json
  | .null => .null
  | .boolean value => .boolean value
  | .number literal => literal.toJson?.getD .null
  | .string value => .string value
  | .array elements =>
    .array (if keep (depth + 1) then elementsToJson rule keep (depth + 1) elements else [])
  | .object members =>
    .object (if keep (depth + 1) then membersToJson rule keep (depth + 1) [] members else [])

def elementsToJson (rule : DuplicateKeys) (keep : Nat → Bool) (depth : Nat) :
    List JsonText → List Json
  | [] => []
  | head :: rest => head.toJson rule keep depth :: elementsToJson rule keep depth rest

def membersToJson (rule : DuplicateKeys) (keep : Nat → Bool) (depth : Nat)
    (built : List (String × Json)) : List (String × JsonText) → List (String × Json)
  | [] => built
  | (key, value) :: rest =>
    membersToJson rule keep depth (rule.assign key (value.toJson rule keep depth) built) rest

end

def readAs (rule : DuplicateKeys) (text : JsonText) : Json := text.toJson rule (fun _ => true) 0

end JsonText

-- A syntax error ends the reading; the literals met before it have been converted by then.
inductive Reading where
  | complete (text : JsonText)
  | malformed (what : String) (met : List NumberLiteral)

def Reading.numbers : Reading → List NumberLiteral
  | .complete text => text.numbers
  | .malformed _ met => met

structure Nlohmann where
  read : Bytes → Reading
  dump : Json → String

namespace Nlohmann

-- Conversion overflow is raised as the literal is met, so it precedes a later syntax error.
def parse (json : Nlohmann) (text : Bytes) (keep : Nat → Bool) : Except JsonException Json :=
  if (json.read text).numbers.any NumberLiteral.overflows then .error .outOfRange
  else
    match json.read text with
    | .malformed what _ => .error (.parseError what)
    | .complete tree => .ok (if keep 0 then tree.toJson .lastWins keep 0 else .null)

end Nlohmann

end Ztab
