import Phrasebook.Json.Reader

namespace Phrasebook.Json

def skipEscape : Read Unit
  | [] => stopAt .endInString []
  | 'u' :: rest => do
    let (_, rest) ← codeUnit rest
    .ok ((), rest)
  | char :: rest =>
    if (escapeLetter? char).isSome then .ok ((), rest) else stopOn .invalidEscape (char :: rest)

def skipQuotedStep (_ : Unit) : Read (Option Unit)
  | [] => stopAt .endInString []
  | '"' :: rest => .ok (none, rest)
  | '\\' :: rest => do
    let (_, rest) ← skipEscape rest
    .ok (some (), rest)
  | char :: rest =>
    if char.toNat < 0x20 then stopAt .controlCharacter (char :: rest) else .ok (some (), rest)

def skipQuoted : Read Unit := repeatRead skipQuotedStep ()

def skipExponent : Read Unit := fun text =>
  let text := match text with
    | '+' :: rest => rest
    | '-' :: rest => rest
    | text => text
  match text with
  | [] => stopAt .invalidNumber []
  | char :: _ =>
    if char.isDigit then .ok ((), text.dropWhile Char.isDigit) else stopOn .invalidNumber text

def skipPower : Read Unit
  | 'e' :: rest => skipExponent rest
  | 'E' :: rest => skipExponent rest
  | text => .ok ((), text)

def skipNumber : Read Unit := fun text =>
  match text with
  | [] => stopAt .invalidNumber []
  | first :: others =>
    let digits := text.takeWhile Char.isDigit
    let rest := text.dropWhile Char.isDigit
    if digits.isEmpty then stopOn .invalidNumber text
    else if first = '0' && digits.length ≠ 1 then stopOn .invalidNumber others
    else
      match rest with
      | '.' :: fraction =>
        if (fraction.takeWhile Char.isDigit).isEmpty then stopOn .invalidNumber fraction
        else skipPower (fraction.dropWhile Char.isDigit)
      | rest => skipPower rest

inductive Enclosure where
  | list
  | object
deriving DecidableEq

/-- Where skipping stands: in front of a value or behind one, inside of the given enclosures, the
innermost first. -/
inductive SkipState where
  | before (enclosures : List Enclosure)
  | behind (enclosures : List Enclosure)

def skipKey : Read Unit := fun text =>
  match skipGaps text with
  | [] => stopAt .endInObject []
  | '"' :: rest => do
    let (_, rest) ← skipQuoted rest
    colon rest
  | text => stopOn .keyMustBeString text

def enter (enclosure : Enclosure) (outer : List Enclosure) : Read (Option SkipState) := fun text =>
  match enclosure with
  | .list => .ok (some (.before (enclosure :: outer)), text)
  | .object => do
    let (_, rest) ← skipKey text
    .ok (some (.before (enclosure :: outer)), rest)

def skipOpened (enclosure : Enclosure) (outer : List Enclosure) : Read (Option SkipState) :=
  fun text =>
  match enclosure, skipGaps text with
  | .list, [] => stopAt .endInList []
  | .object, [] => stopAt .endInObject []
  | .list, ']' :: rest => .ok (some (.behind outer), rest)
  | .object, '\x7d' :: rest => .ok (some (.behind outer), rest)
  | enclosure, text => enter enclosure outer text

def skipStep : SkipState → Read (Option SkipState)
  | .behind [], text => .ok (none, text)
  | .behind (enclosure :: outer), text =>
    match enclosure, skipGaps text with
    | .list, [] => stopAt .endInList []
    | .object, [] => stopAt .endInObject []
    | enclosure, ',' :: rest => enter enclosure outer rest
    | .list, ']' :: rest => .ok (some (.behind outer), rest)
    | .object, '\x7d' :: rest => .ok (some (.behind outer), rest)
    | .list, text => stopOn .expectedListCommaOrEnd text
    | .object, text => stopOn .expectedObjectCommaOrEnd text
  | .before enclosures, text =>
    let passed (skip : Read Unit) (rest : List Char) :
        Except Failure (Option SkipState × List Char) := do
      let (_, rest) ← skip rest
      .ok (some (.behind enclosures), rest)
    match skipGaps text with
    | [] => stopAt .endInValue []
    | 'n' :: rest => passed (word "ull".toList) rest
    | 't' :: rest => passed (word "rue".toList) rest
    | 'f' :: rest => passed (word "alse".toList) rest
    | '"' :: rest => passed skipQuoted rest
    | '-' :: rest => passed skipNumber rest
    | '[' :: rest => skipOpened .list enclosures rest
    | '\x7b' :: rest => skipOpened .object enclosures rest
    | char :: rest =>
      if char.isDigit then passed skipNumber (char :: rest)
      else stopOn .expectedValue (char :: rest)

/-- Reads past a value. A step may leave the text as it is once for each value, behind the last
one, so the bound of a repetition is kept. -/
def skip : Read Unit := fun text => do
  let (_, rest) ← repeatRead skipStep (.before []) text
  .ok ((), rest)

end Phrasebook.Json
