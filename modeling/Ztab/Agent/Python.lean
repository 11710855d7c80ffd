import Mathlib.Data.List.DropRight
import Mathlib.Data.List.Infix
import Ztab.Shared.Binary64

set_option autoImplicit false

/-!
# Python values

What `json.load` can return, with the operations the agent applies to it: truth,
equality, membership, hashing, `get` and `int`. Each of them takes every value, as
in the interpreter, and raises where the interpreter raises.
-/

namespace Ztab

-- A Python string may hold lone surrogates, so it is not a Lean `String`.
abbrev CodePoint := Fin 0x110000

abbrev PyStr := List CodePoint

def py (text : String) : PyStr := text.toList.map fun char => Fin.ofNat 0x110000 char.toNat

inductive PyFloat where
  | finite (value : Binary64)
  | infinite (negative : Bool)
  | nan
  deriving DecidableEq, Repr

/-- A dict has each key once; its entries are in the order of insertion. -/
inductive PyValue where
  | none
  | bool (value : Bool)
  | int (value : Int)
  | float (value : PyFloat)
  | str (value : PyStr)
  | list (elements : List PyValue)
  | dict (entries : List (PyStr × PyValue))

-- gRPC status codes, as `str(e.code())` shows them after "StatusCode.".
inductive GrpcCode where
  | OK | CANCELLED | UNKNOWN | INVALID_ARGUMENT | DEADLINE_EXCEEDED | NOT_FOUND | ALREADY_EXISTS
  | PERMISSION_DENIED | UNAUTHENTICATED | RESOURCE_EXHAUSTED | FAILED_PRECONDITION | ABORTED
  | OUT_OF_RANGE | UNIMPLEMENTED | INTERNAL | UNAVAILABLE | DATA_LOSS
  deriving DecidableEq, Repr

/-- Exceptions by class. A class without a message is raised by the interpreter itself. -/
inductive PyException where
  | valueError (message : PyStr)
  | runtimeError (message : PyStr)
  | rpcError (code : GrpcCode) (details : PyStr)
  | attributeError
  | typeError
  | keyError
  | overflowError
  | osError
  -- Raised by another package.
  | foreign
  deriving DecidableEq, Repr

/-- The parts of the interpreter that a table or a printer decides. -/
structure Python where
  -- The value of a decimal digit of any script, and white space beyond ASCII.
  toDecimal : CodePoint → Option (Fin 10)
  isSpace : CodePoint → Bool
  -- `str(value)`, `str(exception)`, and `repr(text)` as the message of `int` cuts it.
  str : PyValue → PyStr
  describe : PyException → PyStr
  reprLiteral : PyStr → PyStr
  -- `json.loads`; nothing when it raises JSONDecodeError.
  loads : PyStr → Option PyValue

namespace PyValue

def truthy : PyValue → Bool
  | .none => false
  | .bool value => value
  | .int value => decide (value ≠ 0)
  | .float (.finite value) => decide (value.mantissa ≠ 0)
  | .float _ => true
  | .str value => !value.isEmpty
  | .list elements => !elements.isEmpty
  | .dict entries => !entries.isEmpty

def hashable : PyValue → Bool
  | .list _ | .dict _ => false
  | _ => true

def isNan : PyValue → Bool
  | .float .nan => true
  | _ => false

def ratio : PyValue → Option (Int × Nat)
  | .bool value => some (if value then 1 else 0, 1)
  | .int value => some (value, 1)
  | .float (.finite value) =>
    let magnitude : Nat := value.mantissa * 2 ^ value.exponent.toNat
    some (if value.negative then -(magnitude : Int) else magnitude, 2 ^ (-value.exponent).toNat)
  | _ => Option.none

def sameNumber (left right : PyValue) : Bool :=
  match left.ratio, right.ratio with
  | some (p, q), some (r, s) => decide (p * s = r * q)
  | _, _ =>
    match left, right with
    | .float left, .float right => decide (left = right)
    | _, _ => false

def find (key : PyStr) : List (PyStr × PyValue) → Option PyValue
  | [] => Option.none
  | (other, value) :: rest => if other = key then some value else find key rest

-- Identity or equality, which is what containers compare by. The json module has one
-- NaN object, which is identical to itself and equal to nothing.
mutual

def same : PyValue → PyValue → Bool
  | .none, .none => true
  | .str left, .str right => decide (left = right)
  | .list left, .list right => sameElements left right
  | .dict left, .dict right => decide (left.length = right.length) && sameEntries left right
  | left, right => sameNumber left right

def sameElements : List PyValue → List PyValue → Bool
  | [], [] => true
  | left :: rest, right :: others => same left right && sameElements rest others
  | _, _ => false

def sameEntries : List (PyStr × PyValue) → List (PyStr × PyValue) → Bool
  | [], _ => true
  | (key, value) :: rest, others =>
    (match find key others with
      | some other => same value other
      | Option.none => false) && sameEntries rest others

end

-- `left == right`
def eq (left right : PyValue) : Bool := !left.isNan && same left right

-- `element in elements`
def memberOf (element : PyValue) (elements : List PyValue) : Bool := elements.any (same element)

-- `key in value`
def contains (value : PyValue) (key : PyStr) : Except PyException Bool :=
  match value with
  | .dict entries => .ok (find key entries).isSome
  | .list elements => .ok (memberOf (.str key) elements)
  | .str text => .ok (decide (key <:+: text))
  | _ => .error .typeError

-- `value.get(key, default)`
def get (value : PyValue) (key : String) (default : PyValue := .none) : Except PyException PyValue :=
  match value with
  | .dict entries => .ok ((find (py key) entries).getD default)
  | _ => .error .attributeError

-- `value[key]` with a string key
def item (value : PyValue) (key : String) : Except PyException PyValue :=
  match value with
  | .dict entries =>
    match find (py key) entries with
    | some held => .ok held
    | Option.none => .error .keyError
  | _ => .error .typeError

theorem get_of_item {value held default : PyValue} {key : String}
    (found : value.item key = .ok held) : value.get key default = .ok held := by
  cases value with
  | dict entries =>
    cases entry : find (py key) entries <;> simp_all [item, get]
  | _ => cases found

-- `for element in value`
def iterate : PyValue → Except PyException (List PyValue)
  | .list elements => .ok elements
  | .dict entries => .ok (entries.map fun entry => .str entry.1)
  | .str text => .ok (text.map fun point => .str [point])
  | _ => .error .typeError

-- `hash(value)`, for its exception
def hash (value : PyValue) : Except PyException Unit :=
  if value.hashable then .ok () else .error .typeError

-- `frozenset(elements)`; an element equal to an earlier one adds nothing.
def frozenset : List PyValue → Except PyException (List PyValue)
  | [] => .ok []
  | element :: rest => do
    element.hash
    let others ← frozenset rest
    .ok (element :: others.filter fun other => !same other element)

end PyValue

def kMaxStrDigits : Nat := 4300

def isAsciiSpace (code : Nat) : Bool := (9 ≤ code && code ≤ 13) || code = 32

-- ASCII stays, other white space becomes a blank, other digits become ASCII digits.
def Python.asciiForm (python : Python) (point : CodePoint) : Nat :=
  if point.val < 127 then point.val
  else if python.isSpace point then 32
  else
    match python.toDecimal point with
    | some digit => 48 + digit.val
    | none => 63

-- Single underscores may stand between digits; `afterDigit` says what came last.
def readDigits : Bool → List Nat → Option (List Nat)
  | afterDigit, [] => if afterDigit then some [] else none
  | afterDigit, code :: rest =>
    if 48 ≤ code && code ≤ 57 then (readDigits true rest).map ((code - 48) :: ·)
    else if code = 95 && afterDigit then readDigits false rest
    else none

def Python.intOfText (python : Python) (text : PyStr) : Except PyException Int :=
  let codes := ((text.map python.asciiForm).dropWhile isAsciiSpace).rdropWhile isAsciiSpace
  let (sign, unsigned) : Int × List Nat :=
    match codes with
    | 45 :: rest => (-1, rest)
    | 43 :: rest => (1, rest)
    | other => (1, other)
  match readDigits false unsigned with
  | none =>
    .error (.valueError (py "invalid literal for int() with base 10: " ++ python.reprLiteral text))
  | some digits =>
    if digits.length > kMaxStrDigits then
      .error (.valueError (py ("Exceeds the limit (" ++ toString kMaxStrDigits ++
        " digits) for integer string conversion: value has " ++ toString digits.length ++
        " digits; use sys.set_int_max_str_digits() to increase the limit")))
    else .ok (sign * digits.foldl (fun (sum : Nat) digit => 10 * sum + digit) 0)

def Python.int (python : Python) : PyValue → Except PyException Int
  | .bool value => .ok (if value then 1 else 0)
  | .int value => .ok value
  | .float (.finite value) => .ok value.truncate
  | .float (.infinite _) => .error .overflowError
  | .float .nan => .error (.valueError (py "cannot convert float NaN to integer"))
  | .str text => python.intOfText text
  | _ => .error .typeError

end Ztab
