import Mathlib.Data.String.Basic
import Ztab.Shared.Binary64
import Ztab.Shared.OrderedMap

set_option autoImplicit false

/-!
# JSON values

The part of `nlohmann::json` that the server reads: the value types, the member
and element accessors, and the conversions of `get<T>()`.
-/

namespace Ztab

abbrev Bytes := List UInt8

def utf8 (text : String) : Bytes := text.toUTF8.data.toList

theorem utf8_eq_flatMap (text : String) : utf8 text = text.toList.flatMap String.utf8EncodeChar := by
  unfold utf8
  rw [String.toUTF8, ← String.utf8Encode_toList, List.utf8Encode, List.toList_data_toByteArray]

theorem utf8_append (first second : String) : utf8 (first ++ second) = utf8 first ++ utf8 second := by
  simp [utf8_eq_flatMap]

inductive JsonException where
  | parseError (what : String)
  | outOfRange
  | typeError
  deriving DecidableEq, Repr

/-- Signed and unsigned integers are one constructor; members are in `std::map` order. -/
inductive Json where
  | null
  | boolean (value : Bool)
  | integer (value : Int)
  | float (value : Binary64)
  | string (value : String)
  | array (elements : List Json)
  | object (members : List (String × Json))

namespace Json

def typeName : Json → String
  | .null => "null"
  | .boolean _ => "boolean"
  | .integer _ | .float _ => "number"
  | .string _ => "string"
  | .array _ => "array"
  | .object _ => "object"

def member (key : String) : Json → Option Json
  | .object members => OrderedMap.find key members
  | _ => none

/-- What a range-based `for` over the value visits; a scalar is visited as itself. -/
def iterate : Json → List Json
  | .array elements => elements
  | .object members => members.map Prod.snd
  | .null => []
  | scalar => [scalar]

/-- What a loop over `items()` visits; array elements are keyed by their index. -/
def items : Json → List (String × Json)
  | .object members => members
  | .array elements => elements.zipIdx.map fun entry => (toString entry.2, entry.1)
  | .null => []
  | scalar => [("", scalar)]

def getString : Json → Except JsonException String
  | .string value => .ok value
  | _ => .error .typeError

def getBool : Json → Except JsonException Bool
  | .boolean value => .ok value
  | _ => .error .typeError

/-- `static_cast<int>`: integers wrap, a float outside the range is the machine's indefinite value. -/
def getInt : Json → Except JsonException Int
  | .boolean value => .ok (if value then 1 else 0)
  | .integer value => .ok (value.bmod (2 ^ 32))
  | .float value =>
    let truncated := value.truncate
    .ok (if -(2 ^ 31) ≤ truncated ∧ truncated < 2 ^ 31 then truncated else -(2 ^ 31))
  | _ => .error .typeError

mutual

def depth : Json → Nat
  | .array elements => elementsDepth elements
  | .object members => membersDepth members
  | _ => 0

def elementsDepth : List Json → Nat
  | [] => 0
  | head :: rest => max (head.depth + 1) (elementsDepth rest)

def membersDepth : List (String × Json) → Nat
  | [] => 0
  | (_, value) :: rest => max (value.depth + 1) (membersDepth rest)

end

theorem depth_element {value : Json} {elements : List Json} (listed : value ∈ elements) :
    value.depth < (Json.array elements).depth := by
  simp only [depth]
  induction elements with
  | nil => cases listed
  | cons head rest ih =>
    simp only [elementsDepth]
    rcases List.mem_cons.mp listed with rfl | later
    · omega
    · have := ih later
      omega

theorem depth_memberValue {key : String} {value : Json} {members : List (String × Json)}
    (listed : (key, value) ∈ members) : value.depth < (Json.object members).depth := by
  simp only [depth]
  induction members with
  | nil => cases listed
  | cons head rest ih =>
    obtain ⟨other, held⟩ := head
    simp only [membersDepth]
    rcases List.mem_cons.mp listed with same | later
    · cases same
      omega
    · have := ih later
      omega

theorem depth_member {key : String} {value found : Json} (present : value.member key = some found) :
    found.depth < value.depth := by
  cases value with
  | object members => exact depth_memberValue (OrderedMap.mem_of_find present)
  | _ => simp [member] at present

theorem depth_items {key : String} {value found : Json} (listed : (key, found) ∈ value.items) :
    found.depth < value.depth + 1 := by
  cases value with
  | object members => exact Nat.lt_succ_of_lt (depth_memberValue listed)
  | array elements =>
    obtain ⟨entry, visited, same⟩ := List.mem_map.mp listed
    cases same
    exact Nat.lt_succ_of_lt (depth_element (List.fst_mem_of_mem_zipIdx visited))
  | null => simp [items] at listed
  | _ => simp_all [items]

end Json

end Ztab
