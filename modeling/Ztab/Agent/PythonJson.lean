import Mathlib.Data.Nat.Digits.Defs
import Ztab.Agent.Python

set_option autoImplicit false

/-!
# The json module

`json.dumps` and `json.loads` with their default settings. Text is written in ASCII, so a code point
beyond the first plane is written as a pair of surrogates, and a pair of surrogates that is read
back is one code point, whether or not it was one before.
-/

namespace Ztab.PyJson

theorem mod_lt_limit (value : Nat) : value % 0x110000 < 0x110000 := Nat.mod_lt value (by decide)

def code (value : Nat) : CodePoint := ⟨value % 0x110000, mod_lt_limit value⟩

@[simp] theorem code_val {value : Nat} (small : value < 0x110000) : (code value).val = value :=
  Nat.mod_eq_of_lt small

@[simp] theorem code_self (point : CodePoint) : code point.val = point :=
  Fin.ext (code_val point.isLt)

def isHigh (unit : Nat) : Bool := 0xD800 ≤ unit && unit ≤ 0xDBFF

def isLow (unit : Nat) : Bool := 0xDC00 ≤ unit && unit ≤ 0xDFFF

def hexDigit (digit : Nat) : CodePoint := code (if digit < 10 then 48 + digit else 87 + digit)

def hex4 (unit : Nat) : PyStr :=
  [unit / 4096 % 16, unit / 256 % 16, unit / 16 % 16, unit % 16].map hexDigit

def uEscape (unit : Nat) : PyStr := code 0x5C :: code 0x75 :: hex4 unit

-- ESCAPE_DCT: the code points with an escape of one letter.
def escapeLetters : List (Nat × Nat) :=
  [(0x5C, 0x5C), (0x22, 0x22), (0x08, 0x62), (0x0C, 0x66), (0x0A, 0x6E), (0x0D, 0x72), (0x09, 0x74)]

def escapePoint (point : CodePoint) : PyStr :=
  match escapeLetters.lookup point.val with
  | some letter => [code 0x5C, code letter]
  | none =>
    if 0x20 ≤ point.val && point.val ≤ 0x7E then [point]
    else if point.val < 0x10000 then uEscape point.val
    else
      uEscape (0xD800 + (point.val - 0x10000) / 0x400) ++
        uEscape (0xDC00 + (point.val - 0x10000) % 0x400)

def dumpsStr (text : PyStr) : PyStr := code 0x22 :: (text.flatMap escapePoint ++ [code 0x22])

def decimalDigits (value : Nat) : List Nat := if value = 0 then [0] else (Nat.digits 10 value).reverse

-- `int.__repr__`, which refuses more digits than the limit.
def dumpsInt (value : Int) : Except PyException PyStr :=
  let digits := decimalDigits value.natAbs
  if digits.length > kMaxStrDigits then .error (.valueError (py "Exceeds the limit"))
  else .ok ((if value < 0 then [code 45] else []) ++ digits.map fun digit => code (48 + digit))

def dumpsFloat (python : Python) : PyFloat → PyStr
  | .finite value => python.str (.float (.finite value))
  | .infinite negative => py (if negative then "-Infinity" else "Infinity")
  | .nan => py "NaN"

mutual

def dumps (python : Python) : PyValue → Except PyException PyStr
  | .none => .ok (py "null")
  | .bool value => .ok (py (if value then "true" else "false"))
  | .int value => dumpsInt value
  | .float value => .ok (dumpsFloat python value)
  | .str text => .ok (dumpsStr text)
  | .list elements => do
    let inner ← dumpsElements python elements
    return code 0x5B :: (inner ++ [code 0x5D])
  | .dict entries => do
    let inner ← dumpsEntries python entries
    return code 0x7B :: (inner ++ [code 0x7D])

def dumpsElements (python : Python) : List PyValue → Except PyException PyStr
  | [] => .ok []
  | [last] => dumps python last
  | element :: rest => do
    let first ← dumps python element
    let others ← dumpsElements python rest
    return first ++ code 0x2C :: code 0x20 :: others

def dumpsEntries (python : Python) : List (PyStr × PyValue) → Except PyException PyStr
  | [] => .ok []
  | [(key, value)] => do
    let held ← dumps python value
    return dumpsStr key ++ code 0x3A :: code 0x20 :: held
  | (key, value) :: rest => do
    let held ← dumps python value
    let others ← dumpsEntries python rest
    return dumpsStr key ++ code 0x3A :: code 0x20 :: held ++ code 0x2C :: code 0x20 :: others

end

def hexValue (point : CodePoint) : Option Nat :=
  if 48 ≤ point.val && point.val ≤ 57 then some (point.val - 48)
  else if 97 ≤ point.val && point.val ≤ 102 then some (point.val - 87)
  else if 65 ≤ point.val && point.val ≤ 70 then some (point.val - 55)
  else none

def scanHex4 : PyStr → Option (Nat × PyStr)
  | a :: b :: c :: d :: rest => do
    let a ← hexValue a
    let b ← hexValue b
    let c ← hexValue c
    let d ← hexValue d
    return (((a * 16 + b) * 16 + c) * 16 + d, rest)
  | _ => none

-- A high surrogate takes the escape behind it along when that is a low one.
def joinSurrogates (unit : Nat) (rest : PyStr) : Option (CodePoint × PyStr) :=
  match rest with
  | slash :: letter :: more =>
    if isHigh unit && slash.val = 0x5C && letter.val = 0x75 then do
      let (low, after) ← scanHex4 more
      if isLow low then
        return (code (0x10000 + (unit - 0xD800) * 0x400 + (low - 0xDC00)), after)
      else return (code unit, rest)
    else return (code unit, rest)
  | _ => return (code unit, rest)

-- BACKSLASH
def backslashLetters : List (Nat × Nat) :=
  [(0x22, 0x22), (0x5C, 0x5C), (0x2F, 0x2F), (0x62, 0x08), (0x66, 0x0C), (0x6E, 0x0A), (0x72, 0x0D),
    (0x74, 0x09)]

def scanEscape : PyStr → Option (CodePoint × PyStr)
  | [] => none
  | letter :: rest =>
    match backslashLetters.lookup letter.val with
    | some value => some (code value, rest)
    | none =>
      if letter.val = 0x75 then do
        let (unit, rest) ← scanHex4 rest
        joinSurrogates unit rest
      else none

-- From behind the opening quotation mark; control characters are refused.
def scanString : Nat → PyStr → Option (PyStr × PyStr)
  | 0, _ => none
  | _, [] => none
  | fuel + 1, point :: rest =>
    if point.val = 0x22 then some ([], rest)
    else if point.val = 0x5C then do
      let (unescaped, rest) ← scanEscape rest
      let (text, rest) ← scanString fuel rest
      return (unescaped :: text, rest)
    else if point.val < 0x20 then none
    else do
      let (text, rest) ← scanString fuel rest
      return (point :: text, rest)

def isDigit (point : CodePoint) : Bool := 48 ≤ point.val && point.val ≤ 57

def isSpace (point : CodePoint) : Bool :=
  point.val = 0x20 || point.val = 0x09 || point.val = 0x0A || point.val = 0x0D

def skip (text : PyStr) : PyStr := text.dropWhile isSpace

-- The fraction of a number, if there is one, and what comes after it.
def scanFraction : PyStr → PyStr × PyStr
  | [] => ([], [])
  | point :: rest =>
    let digits := rest.takeWhile isDigit
    if point.val = 0x2E && !digits.isEmpty then (point :: digits, rest.drop digits.length)
    else ([], point :: rest)

def scanSign : PyStr → PyStr × PyStr
  | [] => ([], [])
  | point :: rest =>
    if point.val = 0x2B || point.val = 0x2D then ([point], rest) else ([], point :: rest)

def scanExponent : PyStr → PyStr × PyStr
  | [] => ([], [])
  | point :: rest =>
    let (sign, following) := scanSign rest
    let digits := following.takeWhile isDigit
    if (point.val = 0x65 || point.val = 0x45) && !digits.isEmpty then
      (point :: sign ++ digits, following.drop digits.length)
    else ([], point :: rest)

-- A leading zero stands alone.
def scanWhole : PyStr → PyStr × PyStr
  | [] => ([], [])
  | point :: rest =>
    if point.val = 48 then ([point], rest)
    else ((point :: rest).takeWhile isDigit, (point :: rest).dropWhile isDigit)

def digitsValue (digits : PyStr) : Nat :=
  digits.foldl (fun value digit => 10 * value + (digit.val - 48)) 0

def scanMinus : PyStr → Bool × PyStr
  | [] => (false, [])
  | point :: rest => if point.val = 0x2D then (true, rest) else (false, point :: rest)

-- `int(text)` has its limit here as well. What float makes of a literal is a parameter.
def scanNumber (parseFloat : PyStr → PyFloat) (text : PyStr) : Option (PyValue × PyStr) :=
  let (negative, unsigned) := scanMinus text
  let (whole, afterWhole) := scanWhole unsigned
  let (fraction, afterFraction) := scanFraction afterWhole
  let (exponent, rest) := scanExponent afterFraction
  if whole = [] then none
  else if fraction = [] ∧ exponent = [] then
    if whole.length > kMaxStrDigits then none
    else some (.int (if negative then -(digitsValue whole : Int) else digitsValue whole), rest)
  else
    some (.float (parseFloat
      ((if negative then [code 0x2D] else []) ++ whole ++ fraction ++ exponent)), rest)

def words : List (String × PyValue) :=
  [("null", .none), ("true", .bool true), ("false", .bool false), ("NaN", .float .nan),
    ("Infinity", .float (.infinite false)), ("-Infinity", .float (.infinite true))]

def scanWord (text : PyStr) : Option (PyValue × PyStr) :=
  (words.find? fun word => (py word.1).isPrefixOf text).map fun word =>
    (word.2, text.drop (py word.1).length)

-- `dict(pairs)`: a key that comes again keeps its place and gets the later value.
def insert (key : PyStr) (value : PyValue) : List (PyStr × PyValue) → List (PyStr × PyValue)
  | [] => [(key, value)]
  | (other, held) :: rest =>
    if other = key then (key, value) :: rest else (other, held) :: insert key value rest

def dictOf (pairs : List (PyStr × PyValue)) : List (PyStr × PyValue) :=
  pairs.foldl (fun entries pair => insert pair.1 pair.2 entries) []

mutual

def scanValue (parseFloat : PyStr → PyFloat) : Nat → PyStr → Option (PyValue × PyStr)
  | 0, _ => none
  | _, [] => none
  | fuel + 1, point :: rest =>
    if point.val = 0x22 then do
      let (text, rest) ← scanString (rest.length + 1) rest
      return (.str text, rest)
    else if point.val = 0x7B then
      match skip rest with
      | [] => none
      | first :: more =>
        if first.val = 0x7D then some (.dict [], more)
        else do
          let (pairs, rest) ← scanEntries parseFloat fuel (first :: more)
          return (.dict (dictOf pairs), rest)
    else if point.val = 0x5B then
      match skip rest with
      | [] => none
      | first :: more =>
        if first.val = 0x5D then some (.list [], more)
        else do
          let (elements, rest) ← scanElements parseFloat fuel (first :: more)
          return (.list elements, rest)
    else (scanWord (point :: rest)).orElse fun _ => scanNumber parseFloat (point :: rest)

def scanElements (parseFloat : PyStr → PyFloat) : Nat → PyStr → Option (List PyValue × PyStr)
  | 0, _ => none
  | fuel + 1, text => do
    let (element, rest) ← scanValue parseFloat fuel text
    match skip rest with
    | [] => none
    | point :: rest =>
      if point.val = 0x5D then return ([element], rest)
      else if point.val = 0x2C then do
        let (others, rest) ← scanElements parseFloat fuel (skip rest)
        return (element :: others, rest)
      else none

def scanEntries (parseFloat : PyStr → PyFloat) :
    Nat → PyStr → Option (List (PyStr × PyValue) × PyStr)
  | 0, _ => none
  | _, [] => none
  | fuel + 1, quote :: text =>
    if quote.val = 0x22 then do
      let (key, rest) ← scanString (text.length + 1) text
      match skip rest with
      | [] => none
      | colon :: rest =>
        if colon.val = 0x3A then do
          let (value, rest) ← scanValue parseFloat fuel (skip rest)
          match skip rest with
          | [] => none
          | point :: rest =>
            if point.val = 0x7D then return ([(key, value)], rest)
            else if point.val = 0x2C then do
              let (others, rest) ← scanEntries parseFloat fuel (skip rest)
              return ((key, value) :: others, rest)
            else none
        else none
    else none

end

-- Nothing when an exception is raised.
def loads (parseFloat : PyStr → PyFloat) (text : PyStr) : Option PyValue := do
  let (value, rest) ← scanValue parseFloat (text.length + 1) (skip text)
  if skip rest = [] then return value else none

end Ztab.PyJson
