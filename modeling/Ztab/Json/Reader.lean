import Ztab.Json.Text

set_option autoImplicit false

/-!
# A JSON reader

The grammar of RFC 8259 on bytes, with the habits of the library's lexer: a byte
order mark is skipped and a null byte ends the input. The texts of its error
messages are not reproduced.
-/

namespace Ztab.Reader

structure Input where
  met : List NumberLiteral
  rest : Bytes

-- A failure keeps the input, so the literals met before it are known.
abbrev Read := EStateM Unit Input

def fail {α : Type} : Read α := throw ()

def peek : Read (Option UInt8) := do return (← get).rest.head?

def advance (count : Nat) : Read Unit :=
  modify fun input => { input with rest := input.rest.drop count }

def isBlank (byte : UInt8) : Bool := byte = 0x20 || byte = 0x09 || byte = 0x0A || byte = 0x0D

def isDigit (byte : UInt8) : Bool := 0x30 ≤ byte && byte ≤ 0x39

def blanks : Read Unit := modify fun input => { input with rest := input.rest.dropWhile isBlank }

def accept (byte : UInt8) : Read Bool := do
  if (← peek) = some byte then
    advance 1
    return true
  else return false

def expect (byte : UInt8) : Read Unit := do
  unless ← accept byte do fail

def word (text : String) (value : JsonText) : Read JsonText := do
  if (utf8 text).isPrefixOf (← get).rest then
    advance (utf8 text).length
    return value
  else fail

def takeDigits : Read Bytes := do
  let digits := (← get).rest.takeWhile isDigit
  advance digits.length
  return digits

def someDigits : Read Bytes := do
  let digits ← takeDigits
  if digits = [] then fail else return digits

def decimal (digits : Bytes) : Nat :=
  digits.foldl (fun value digit => value * 10 + (digit.toNat - 0x30)) 0

-- A leading zero stands alone.
def wholePart : Read Bytes := do
  if ← accept 0x30 then return [0x30] else someDigits

def fraction : Read Bytes := do
  if ← accept 0x2E then someDigits else return []

def exponent : Read (Option Int) := do
  let marked ← if ← accept 0x65 then pure true else accept 0x45
  if marked then
    let negative ← accept 0x2D
    unless negative do let _ ← accept 0x2B
    let digits ← someDigits
    return some (if negative then -(decimal digits : Int) else decimal digits)
  else return none

def number : Read JsonText := do
  let negative ← accept 0x2D
  let whole ← wholePart
  let decimals ← fraction
  let power ← exponent
  let literal : NumberLiteral :=
    { negative
      digits := decimal (whole ++ decimals)
      power := power.getD 0 - decimals.length
      integral := decimals = [] && power.isNone }
  modify fun input => { input with met := input.met ++ [literal] }
  return .number literal

def hexValue (byte : UInt8) : Option Nat :=
  if isDigit byte then some (byte.toNat - 0x30)
  else if 0x61 ≤ byte && byte ≤ 0x66 then some (byte.toNat - 0x57)
  else if 0x41 ≤ byte && byte ≤ 0x46 then some (byte.toNat - 0x37)
  else none

def codeUnit : Read Nat := do
  match ((← get).rest.take 4).mapM hexValue with
  | some [a, b, c, d] =>
    advance 4
    return ((a * 16 + b) * 16 + c) * 16 + d
  | _ => fail

-- A character outside the first plane is spelled as a surrogate pair.
def unicodeEscape : Read Char := do
  let unit ← codeUnit
  if 0xD800 ≤ unit && unit < 0xDC00 then
    expect 0x5C
    expect 0x75
    let low ← codeUnit
    if 0xDC00 ≤ low && low < 0xE000 then
      return Char.ofNat (0x10000 + (unit - 0xD800) * 0x400 + (low - 0xDC00))
    else fail
  else if 0xDC00 ≤ unit && unit < 0xE000 then fail
  else return Char.ofNat unit

def escape : Read Char := do
  match ← peek with
  | some 0x22 => advance 1; return '"'
  | some 0x5C => advance 1; return '\\'
  | some 0x2F => advance 1; return '/'
  | some 0x62 => advance 1; return '\x08'
  | some 0x66 => advance 1; return '\x0C'
  | some 0x6E => advance 1; return '\n'
  | some 0x72 => advance 1; return '\r'
  | some 0x74 => advance 1; return '\t'
  | some 0x75 => advance 1; unicodeEscape
  | _ => fail

def continuation (byte : UInt8) : Option Nat :=
  if 0x80 ≤ byte && byte < 0xC0 then some (byte.toNat - 0x80) else none

-- `length` bytes after the lead; the least code point rules out longer spellings.
def multibyte (lead : Nat) (length least : Nat) : Read Char := do
  match ((← get).rest.drop 1 |>.take length).mapM continuation with
  | some following =>
    let code := following.foldl (fun value low => value * 64 + low) lead
    if following.length = length && least ≤ code && decide code.isValidChar then
      advance (length + 1)
      return Char.ofNat code
    else fail
  | none => fail

def character : Read Char := do
  match ← peek with
  | none => fail
  | some byte =>
    if byte < 0x20 then fail
    else if byte < 0x80 then
      advance 1
      return Char.ofNat byte.toNat
    else if 0xC0 ≤ byte && byte < 0xE0 then multibyte (byte.toNat - 0xC0) 1 0x80
    else if 0xE0 ≤ byte && byte < 0xF0 then multibyte (byte.toNat - 0xE0) 2 0x800
    else if 0xF0 ≤ byte && byte < 0xF8 then multibyte (byte.toNat - 0xF0) 3 0x10000
    else fail

def characters : Nat → Read (List Char)
  | 0 => fail
  | fuel + 1 => do
    if ← accept 0x22 then return []
    else if ← accept 0x5C then return (← escape) :: (← characters fuel)
    else return (← character) :: (← characters fuel)

def string : Read String := do
  expect 0x22
  return String.ofList (← characters ((← get).rest.length + 1))

mutual

def value : Nat → Read JsonText
  | 0 => fail
  | fuel + 1 => do
    match ← peek with
    | some 0x7B =>
      advance 1
      blanks
      if ← accept 0x7D then return .object [] else return .object (← members fuel)
    | some 0x5B =>
      advance 1
      blanks
      if ← accept 0x5D then return .array [] else return .array (← elements fuel)
    | some 0x22 => return .string (← string)
    | some 0x74 => word "true" (.boolean true)
    | some 0x66 => word "false" (.boolean false)
    | some 0x6E => word "null" .null
    | _ => number

def elements : Nat → Read (List JsonText)
  | 0 => fail
  | fuel + 1 => do
    blanks
    let head ← value fuel
    blanks
    if ← accept 0x2C then return head :: (← elements fuel)
    else
      expect 0x5D
      return [head]

def members : Nat → Read (List (String × JsonText))
  | 0 => fail
  | fuel + 1 => do
    blanks
    let key ← string
    blanks
    expect 0x3A
    blanks
    let held ← value fuel
    blanks
    if ← accept 0x2C then return (key, held) :: (← members fuel)
    else
      expect 0x7D
      return [(key, held)]

end

def document (fuel : Nat) : Read JsonText := do
  if (← get).rest.take 3 = [0xEF, 0xBB, 0xBF] then advance 3
  blanks
  let tree ← value fuel
  blanks
  if ((← peek).getD 0) = 0 then return tree else fail

def read (text : Bytes) : Reading :=
  match document (2 * text.length + 2) ⟨[], text⟩ with
  | .ok tree _ => .complete tree
  | .error _ input => .malformed "syntax error" input.met

def hexDigit (value : Nat) : Char := Char.ofNat (if value < 10 then 0x30 + value else 0x57 + value)

def escaped (char : Char) : List Char :=
  match char with
  | '"' => ['\\', '"']
  | '\\' => ['\\', '\\']
  | '\x08' => ['\\', 'b']
  | '\x0C' => ['\\', 'f']
  | '\n' => ['\\', 'n']
  | '\r' => ['\\', 'r']
  | '\t' => ['\\', 't']
  | other =>
    if other.toNat < 0x20 then
      ['\\', 'u', '0', '0', hexDigit (other.toNat / 16), hexDigit (other.toNat % 16)]
    else [other]

def quoted (text : String) : String := "\"" ++ String.ofList (text.toList.flatMap escaped) ++ "\""

mutual

-- Floats are written by the library's shortest round-trip algorithm, which is a parameter.
def compact (formatFloat : Binary64 → String) : Json → String
  | .null => "null"
  | .boolean true => "true"
  | .boolean false => "false"
  | .integer value => toString value
  | .float value => formatFloat value
  | .string text => quoted text
  | .array elements => "[" ++ compactElements formatFloat elements ++ "]"
  | .object members => "\x7b" ++ compactMembers formatFloat members ++ "\x7d"

def compactElements (formatFloat : Binary64 → String) : List Json → String
  | [] => ""
  | [last] => compact formatFloat last
  | head :: rest => compact formatFloat head ++ "," ++ compactElements formatFloat rest

def compactMembers (formatFloat : Binary64 → String) : List (String × Json) → String
  | [] => ""
  | [(key, last)] => quoted key ++ ":" ++ compact formatFloat last
  | (key, head) :: rest =>
    quoted key ++ ":" ++ compact formatFloat head ++ "," ++ compactMembers formatFloat rest

end

def library (formatFloat : Binary64 → String) : Nlohmann where
  read := read
  dump := compact formatFloat

end Ztab.Reader
