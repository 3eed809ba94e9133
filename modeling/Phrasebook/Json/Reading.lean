import Phrasebook.Json.Fault
import Phrasebook.Text.Bytes

namespace Phrasebook.Json

abbrev Read (α : Type) := List Char → Except Failure (α × List Char)

variable {α σ : Type}

def stopAt (fault : Fault) (rest : List Char) : Except Failure α := .error ⟨fault, rest, 0⟩

def stopOn (fault : Fault) (rest : List Char) : Except Failure α := .error ⟨fault, rest, 1⟩

def isGap (char : Char) : Bool := char = ' ' || char = '\n' || char = '\t' || char = '\r'

def skipGaps (text : List Char) : List Char := text.dropWhile isGap

def word : List Char → Read Unit
  | [], text => .ok ((), text)
  | _ :: _, [] => stopAt .endInValue []
  | expected :: word', char :: rest =>
    if char = expected then word word' rest else stopOn .expectedIdentifier (char :: rest)

def repeatWithin (step : σ → Read (Option σ)) : (bound : Nat) → σ → Read σ
  | 0, state, text => .ok (state, text)
  | bound + 1, state, text =>
    match step state text with
    | .error failure => .error failure
    | .ok (none, rest) => .ok (state, rest)
    | .ok (some next, rest) => repeatWithin step bound next rest

/-- Runs `step` until it gives no further state. A step that goes on leaves a shorter text, so the
length of the text bounds the number of steps. -/
def repeatRead (step : σ → Read (Option σ)) (state : σ) : Read σ := fun text =>
  repeatWithin step (text.length + 1) state text

def hexValue? (char : Char) : Option Nat :=
  if '0' ≤ char && char ≤ '9' then some (char.toNat - '0'.toNat)
  else if 'a' ≤ char && char ≤ 'f' then some (char.toNat - 'a'.toNat + 10)
  else if 'A' ≤ char && char ≤ 'F' then some (char.toNat - 'A'.toNat + 10)
  else none

def fourHexDigits? : List Char → Option (Nat × List Char)
  | first :: second :: third :: fourth :: rest => do
    let first ← hexValue? first
    let second ← hexValue? second
    let third ← hexValue? third
    let fourth ← hexValue? fourth
    return (((first * 16 + second) * 16 + third) * 16 + fourth, rest)
  | _ => none

def codeUnit : Read Nat := fun text =>
  if Text.byteLength (text.take 4) < 4 then stopAt .endInString []
  else match fourHexDigits? text with
    | some (unit, rest) => .ok (unit, rest)
    | none => .error ⟨.invalidEscape, text, 4⟩

def isLeading (unit : Nat) : Bool := 0xD800 ≤ unit && unit ≤ 0xDBFF

def isTrailing (unit : Nat) : Bool := 0xDC00 ≤ unit && unit ≤ 0xDFFF

def trailingUnit (leading : Nat) : Read Char
  | [] => stopAt .endInString []
  | '\\' :: [] => stopAt .endInString []
  | '\\' :: 'u' :: rest => do
    let (trailing, rest) ← codeUnit rest
    if isTrailing trailing then
      .ok (Char.ofNat (0x10000 + (leading - 0xD800) * 0x400 + (trailing - 0xDC00)), rest)
    else stopAt .loneSurrogate rest
  | '\\' :: rest => stopOn .unexpectedEndOfHexEscape rest
  | rest => stopOn .unexpectedEndOfHexEscape rest

def escapedUnit : Read Char := fun text => do
  let (unit, rest) ← codeUnit text
  if isTrailing unit then stopAt .loneSurrogate rest
  else if isLeading unit then trailingUnit unit rest
  else .ok (Char.ofNat unit, rest)

def escapeLetter? (char : Char) : Option Char :=
  if char = '"' || char = '\\' || char = '/' then some char
  else if char = 'b' then some '\x08'
  else if char = 'f' then some '\x0c'
  else if char = 'n' then some '\n'
  else if char = 'r' then some '\r'
  else if char = 't' then some '\t'
  else none

def escaped : Read Char
  | [] => stopAt .endInString []
  | 'u' :: rest => escapedUnit rest
  | char :: rest =>
    match escapeLetter? char with
    | some meant => .ok (meant, rest)
    | none => stopOn .invalidEscape (char :: rest)

def quotedStep (collected : List Char) : Read (Option (List Char))
  | [] => stopAt .endInString []
  | '"' :: rest => .ok (none, rest)
  | '\\' :: rest => do
    let (char, rest) ← escaped rest
    .ok (some (char :: collected), rest)
  | char :: rest =>
    if char.toNat < 0x20 then stopOn .controlCharacter (char :: rest)
    else .ok (some (char :: collected), rest)

def quotedRest : Read String := fun text => do
  let (collected, rest) ← repeatRead quotedStep [] text
  .ok (String.ofList collected.reverse, rest)

end Phrasebook.Json
