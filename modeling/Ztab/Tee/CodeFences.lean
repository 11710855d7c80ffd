import Mathlib.Data.List.DropRight
import Ztab.Json.Value

set_option autoImplicit false

namespace Ztab

def isAlphanumeric (byte : UInt8) : Bool :=
  (97 ≤ byte && byte ≤ 122) || (65 ≤ byte && byte ≤ 90) || (48 ≤ byte && byte ≤ 57)

def isBlank (byte : UInt8) : Bool := byte = 32 || byte = 9 || byte = 10 || byte = 13

def newline : UInt8 := 10

def fence : Bytes := [96, 96, 96]

-- The text after a match of "```[a-zA-Z0-9]*\n" at its start. The class has no newline,
-- so the greedy star has one way to match.
def openingFence (text : Bytes) : Option Bytes :=
  if fence.isPrefixOf text then
    match (text.drop fence.length).dropWhile isAlphanumeric with
    | [] => none
    | byte :: rest => if byte = newline then some rest else none
  else none

-- How many more bytes RE2's "." takes after this one; none where no character starts.
def continuations (byte : UInt8) : Option Nat :=
  if byte < 0x80 then some 0
  else if 0xC2 ≤ byte && byte ≤ 0xDF then some 1
  else if 0xE0 ≤ byte && byte ≤ 0xEF then some 2
  else if 0xF0 ≤ byte && byte ≤ 0xF4 then some 3
  else none

-- The shortest match of "(.*?)" before `close`, with `owed` bytes missing from a character.
def lazyGroup (close : Bytes) : Nat → Bytes → Option Bytes
  | _, [] => none
  | 0, byte :: rest =>
    if close.isPrefixOf (byte :: rest) then some []
    else
      match continuations byte with
      | none => none
      | some owed => (lazyGroup close owed rest).map (byte :: ·)
  | owed + 1, byte :: rest =>
    if 0x80 ≤ byte && byte ≤ 0xBF then (lazyGroup close owed rest).map (byte :: ·) else none

def fencedContent (close : Bytes) : Bytes → Option Bytes
  | [] => none
  | byte :: rest =>
    match (openingFence (byte :: rest)).bind (lazyGroup close 0) with
    | some content => some content
    | none => fencedContent close rest

def trim (text : Bytes) : Bytes :=
  if text.all isBlank then text else (text.dropWhile isBlank).rdropWhile isBlank

def stripMarkdownCodeFences (input : Bytes) : Bytes :=
  match fencedContent (newline :: fence) input with
  | some content => trim content
  | none =>
    match fencedContent fence input with
    | some content => trim content
    | none => trim input

example : stripMarkdownCodeFences (utf8 "```json\n{}\n```") = utf8 "{}" := by decide

end Ztab
