import Phrasebook.Json.Numeral

namespace Phrasebook.Json

variable {α σ : Type}

def elementStep (item : Read α) (collected : List α) : Read (Option (List α)) := fun text =>
  match skipGaps text with
  | [] => stopAt .endInList []
  | ']' :: rest => .ok (none, rest)
  | ',' :: rest =>
    match skipGaps rest with
    | [] => stopAt .endInValue []
    | ']' :: rest => stopOn .trailingComma (']' :: rest)
    | text => do
      let (element, rest) ← item text
      .ok (some (element :: collected), rest)
  | text => stopOn .expectedListCommaOrEnd text

def elements (item : Read α) : Read (List α) := fun text =>
  match skipGaps text with
  | [] => stopAt .endInList []
  | ']' :: rest => .ok ([], rest)
  | text => do
    let (first, rest) ← item text
    let (collected, rest) ← repeatRead (elementStep item) [first] rest
    .ok (collected.reverse, rest)

def colon : Read Unit := fun text =>
  match skipGaps text with
  | [] => stopAt .endInObject []
  | ':' :: rest => .ok ((), rest)
  | text => stopOn .expectedColon text

def memberStep (member : σ → String → Read σ) (state : σ) : Read (Option σ) := fun text =>
  match skipGaps text with
  | [] => stopAt .endInObject []
  | '\x7d' :: rest => .ok (none, rest)
  | ',' :: rest =>
    match skipGaps rest with
    | [] => stopAt .endInValue []
    | '"' :: rest => do
      let (key, rest) ← quotedRest rest
      let (state, rest) ← member state key rest
      .ok (some state, rest)
    | '\x7d' :: rest => stopOn .trailingComma ('\x7d' :: rest)
    | text => stopOn .keyMustBeString text
  | text => stopOn .expectedObjectCommaOrEnd text

/-- Reads the members of an object behind its opening brace, one after another into a state. The
reader of a member gets its key and starts behind it. -/
def members (member : σ → String → Read σ) (initial : σ) : Read σ := fun text =>
  match skipGaps text with
  | [] => stopAt .endInObject []
  | '\x7d' :: rest => .ok (initial, rest)
  | '"' :: rest => do
    let (key, rest) ← quotedRest rest
    let (state, rest) ← member initial key rest
    repeatRead (memberStep member) state rest
  | text => stopOn .keyMustBeString text

def memberOf (item : Read α) (entries : List (String × α)) (key : String) :
    Read (List (String × α)) := fun text => do
  let (_, rest) ← colon text
  let (value, rest) ← item rest
  .ok (Entries.insert key value entries, rest)

def nest (inside? : Option (Read α)) (opener : Char) : Read α := fun rest =>
  match inside? with
  | some inside => inside rest
  | none => stopOn .recursionLimit (opener :: rest)

def valueWith (nested? : Option (Read Json)) : Read Json := fun text =>
  match skipGaps text with
  | [] => stopAt .endInValue []
  | 'n' :: rest => do
    let (_, rest) ← word "ull".toList rest
    .ok (null, rest)
  | 't' :: rest => do
    let (_, rest) ← word "rue".toList rest
    .ok (boolean true, rest)
  | 'f' :: rest => do
    let (_, rest) ← word "alse".toList rest
    .ok (boolean false, rest)
  | '"' :: rest => do
    let (text, rest) ← quotedRest rest
    .ok (string text, rest)
  | '[' :: rest => do
    let (list, rest) ← nest (nested?.map elements) '[' rest
    .ok (array list, rest)
  | '\x7b' :: rest => do
    let (entries, rest) ← nest (nested?.map fun item => members (memberOf item) []) '\x7b' rest
    .ok (object entries, rest)
  | '-' :: rest => do
    let (parsed, rest) ← unsignedNumber true rest
    .ok (number parsed, rest)
  | char :: rest =>
    if char.isDigit then do
      let (parsed, rest) ← unsignedNumber false (char :: rest)
      .ok (number parsed, rest)
    else stopOn .expectedValue (char :: rest)

def value : (limit : Nat) → Read Json
  | 0 => valueWith none
  | limit + 1 => valueWith (some (value limit))

def nestingLimit : Nat := 127

structure Misread where
  fault : Fault
  position : Position
deriving DecidableEq

def Misread.message (misread : Misread) : String :=
  misread.fault.describe ++
    s!" at line {misread.position.line} column {misread.position.column}"

def whole (read : Read α) (text : String) : Except Misread α :=
  let located (failure : Failure) : Misread :=
    ⟨failure.fault, failure.position text.toList⟩
  match read text.toList with
  | .error failure => .error (located failure)
  | .ok (value, rest) =>
    match skipGaps rest with
    | [] => .ok value
    | rest => .error (located ⟨.trailingCharacters, rest, 1⟩)

def parse (text : String) : Except Misread Json := whole (value nestingLimit) text

end Phrasebook.Json
