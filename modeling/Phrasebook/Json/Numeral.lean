import Phrasebook.Json.Basic
import Phrasebook.Json.Reading

/-!
# Reading numbers

A literal without point and exponent is an integer if it fits 64 bits, unsigned, or signed behind
a minus. Every other literal is a double: its leading digits, as many as fit 64 bits, are taken as
an integer, converted, and then multiplied or divided by a power of ten. Digits beyond them count
by their place only. `-0` is the negative zero among the doubles.
-/

namespace Phrasebook.Json

def significandLimit : Nat := Nat.pow 2 64 - 1

def digitValue (char : Char) : Nat := char.toNat - '0'.toNat

def absorb (significand : Nat) : List Char → Nat × Nat
  | [] => (significand, 0)
  | digit :: rest =>
    let next := significand * 10 + digitValue digit
    if next ≤ significandLimit then
      let (final, count) := absorb next rest
      (final, count + 1)
    else (significand, 0)

def powerOfTen (exponent : Nat) : Float := Float.ofScientific 1 false exponent

/-- Multiplies a double by `10^exponent`; none if the result is too great. Very small powers are
taken in steps of `10^-308`. -/
def scale? (value : Float) (exponent : Int) : Option Float :=
  if exponent.natAbs ≤ 308 then
    if 0 ≤ exponent then
      let product := value * powerOfTen exponent.natAbs
      if product.isInf then none else some product
    else some (value / powerOfTen exponent.natAbs)
  else if value == 0 then some value
  else if 0 ≤ exponent then none
  else scale? (value / powerOfTen 308) (exponent + 308)
termination_by exponent.natAbs
decreasing_by omega

def double (negative : Bool) (significand : Nat) (exponent : Int) (rest : List Char) :
    Except Failure (Number × List Char) :=
  match scale? (UInt64.ofNat significand).toFloat exponent with
  | some value => .ok (.float (if negative then -value else value), rest)
  | none => stopAt .numberOutOfRange rest

def exponentLimit : Nat := Nat.pow 2 31 - 1

def exponentValue (value : Nat) : List Char → Except (List Char) Nat
  | [] => .ok value
  | digit :: rest =>
    let next := value * 10 + digitValue digit
    if next ≤ exponentLimit then exponentValue next rest else .error rest

def exponentPart (negative : Bool) (significand : Nat) (exponent : Int) : Read Number := fun text =>
  let (below, text) := match text with
    | '+' :: rest => (false, rest)
    | '-' :: rest => (true, rest)
    | text => (false, text)
  match text with
  | [] => stopAt .endInValue []
  | char :: _ =>
    if !char.isDigit then stopOn .invalidNumber text
    else
      let rest := text.dropWhile Char.isDigit
      match exponentValue 0 (text.takeWhile Char.isDigit) with
      | .ok value =>
        double negative significand (if below then exponent - value else exponent + value) rest
      | .error digits =>
        if significand ≠ 0 && !below then stopAt .numberOutOfRange (digits ++ rest)
        else .ok (.float (if negative then -0.0 else 0.0), rest)

def fractionPart (negative : Bool) (significand : Nat) (exponent : Int) : Read Number := fun text =>
  let digits := text.takeWhile Char.isDigit
  let rest := text.dropWhile Char.isDigit
  if digits.isEmpty then
    if rest.isEmpty then stopAt .endInValue [] else stopOn .invalidNumber rest
  else
    let (significand, count) := absorb significand digits
    let exponent := exponent - count
    match rest with
    | 'e' :: rest => exponentPart negative significand exponent rest
    | 'E' :: rest => exponentPart negative significand exponent rest
    | rest => double negative significand exponent rest

def integral (negative : Bool) (significand : Nat) : Number :=
  if !negative then .integer significand
  else if significand = 0 || Nat.pow 2 63 < significand then
    .float (-(UInt64.ofNat significand).toFloat)
  else .integer (-significand)

def unsignedNumber (negative : Bool) : Read Number := fun text =>
  match text with
  | [] => stopAt .endInValue []
  | first :: others =>
    let digits := text.takeWhile Char.isDigit
    let rest := text.dropWhile Char.isDigit
    if digits.isEmpty then stopOn .invalidNumber text
    else if first = '0' && digits.length ≠ 1 then stopOn .invalidNumber others
    else
      let (significand, count) := absorb 0 digits
      let excess : Int := digits.length - count
      match rest with
      | '.' :: rest => fractionPart negative significand excess rest
      | 'e' :: rest => exponentPart negative significand excess rest
      | 'E' :: rest => exponentPart negative significand excess rest
      | rest =>
        if excess = 0 then .ok (integral negative significand, rest)
        else double negative significand excess rest

end Phrasebook.Json
