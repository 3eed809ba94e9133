import Phrasebook.Json.Skip
import Phrasebook.Json.Printer
import Phrasebook.Text.Quoted

/-!
# Shapes

A `Shape` reads values of one form only and says what it expected where it meets another. Records
are read from objects, in which unknown members are passed over, and from arrays, whose elements
are the fields in their order. Either way the value is an object of the fields that were there.

A fault of a whole record (a field that is missing or comes twice) has no place of its own. It is
placed behind the record's closing bracket, or where that would have to stand.
-/

namespace Phrasebook.Json

abbrev Shape := (limit : Nat) → Read Json

/-! ## Values of another form -/

/-- The failure for a value of another form than the expected one: behind the value if it is
simple, in front of it if it is an array or an object. -/
def mismatch (expected : String) (text : List Char) : Except Failure (Json × List Char) :=
  match text with
  | '[' :: _ => stopAt (.wrongType .sequence expected) text
  | '\x7b' :: _ => stopAt (.wrongType .map expected) text
  | text => do
    let (found, rest) ← valueWith none text
    match found with
    | boolean value => stopAt (.wrongType (.boolean value) expected) rest
    | number (.integer value) => stopAt (.wrongType (.integer value) expected) rest
    | number (.float value) =>
      stopAt (.wrongType (.float (Number.float value).text) expected) rest
    | string value => stopAt (.wrongType (.string (Text.quote value)) expected) rest
    | _ => stopAt (.wrongType .null expected) rest

/-! ## Simple shapes -/

namespace Shape

def text : Shape := fun _ input =>
  match skipGaps input with
  | [] => stopAt .endInValue []
  | '"' :: rest => do
    let (value, rest) ← quotedRest rest
    .ok (string value, rest)
  | input => mismatch "a string" input

def optional (shape : Shape) : Shape := fun limit input =>
  match skipGaps input with
  | 'n' :: rest => do
    let (_, rest) ← word "ull".toList rest
    .ok (null, rest)
  | input => shape limit input

def size : Shape := fun _ input =>
  let checked (negative : Bool) (digits : List Char) :
      Except Failure (Json × List Char) := do
    let (parsed, rest) ← unsignedNumber negative digits
    match parsed with
    | .integer value =>
      if value < 0 then stopAt (.wrongValue (.integer value) "usize") rest
      else .ok (number parsed, rest)
    | .float _ => stopAt (.wrongType (.float parsed.text) "usize") rest
  match skipGaps input with
  | [] => stopAt .endInValue []
  | '-' :: rest => checked true rest
  | char :: rest =>
    if char.isDigit then checked false (char :: rest) else mismatch "usize" (char :: rest)

def any : Shape := value

def inside {α : Type} (limit : Nat) (opener : Char) (read : Nat → Read α) : Read α := fun rest =>
  match limit with
  | 0 => stopOn .recursionLimit (opener :: rest)
  | limit + 1 => read limit rest

def sequence (item : Shape) : Shape := fun limit input =>
  match skipGaps input with
  | [] => stopAt .endInValue []
  | '[' :: rest => do
    let (list, rest) ← inside limit '[' (fun limit => elements (item limit)) rest
    .ok (array list, rest)
  | input => mismatch "a sequence" input

def map (item : Shape) : Shape := fun limit input =>
  match skipGaps input with
  | [] => stopAt .endInValue []
  | '\x7b' :: rest => do
    let (entries, rest) ← inside limit '\x7b' (fun limit => members (memberOf (item limit)) []) rest
    .ok (object entries, rest)
  | input => mismatch "a map" input

/-! ## Names -/

def known (names : List String) (name : String) (rest : List Char) :
    Except Failure (String × List Char) :=
  if name ∈ names then .ok (name, rest) else stopAt (.unknownVariant name names) rest

def unit : Read Unit := fun input =>
  match skipGaps input with
  | [] => stopAt .endInValue []
  | 'n' :: rest => word "ull".toList rest
  | input => do
    let (_, rest) ← mismatch "unit" input
    .ok ((), rest)

def namedMember (names : List String) : Read Json := fun input =>
  match skipGaps input with
  | [] => stopAt .endInObject []
  | '"' :: rest => do
    let (name, rest) ← quotedRest rest
    let (name, rest) ← known names name rest
    let (_, rest) ← colon rest
    let (_, rest) ← unit rest
    match skipGaps rest with
    | [] => stopAt .endInObject []
    | '\x7d' :: rest => .ok (string name, rest)
    | rest => stopAt .expectedValue rest
  | '\x7d' :: rest => stopOn .expectedValue ('\x7d' :: rest)
  | input => stopOn .keyMustBeString input

def choice (names : List String) : Shape := fun limit input =>
  match skipGaps input with
  | [] => stopAt .endInValue []
  | '"' :: rest => do
    let (name, rest) ← quotedRest rest
    let (name, rest) ← known names name rest
    .ok (string name, rest)
  | '\x7b' :: rest => inside limit '\x7b' (fun _ => namedMember names) rest
  | input => stopOn .expectedValue input

end Shape

/-! ## Records -/

structure Field where
  name : String
  shape : Shape
  required : Bool

def behindObject (text : List Char) : List Char :=
  match skipGaps text with
  | '\x7d' :: rest => rest
  | rest => rest

def behindArray (text : List Char) : List Char :=
  match skipGaps text with
  | ']' :: rest => rest
  | ',' :: rest => skipGaps rest
  | rest => rest

def closeArray : Read Unit := fun text =>
  match skipGaps text with
  | [] => stopAt .endInList []
  | ']' :: rest => .ok ((), rest)
  | ',' :: rest =>
    match skipGaps rest with
    | ']' :: rest => stopOn .trailingComma (']' :: rest)
    | rest => stopOn .trailingCharacters rest
  | text => stopOn .trailingCharacters text

structure RecordShape where
  name : String
  fields : List Field

namespace RecordShape

def member (record : RecordShape) (limit : Nat) (found : List (String × Json)) (key : String) :
    Read (List (String × Json)) := fun text =>
  match record.fields.find? (·.name == key) with
  | none => do
    let (_, rest) ← colon text
    let (_, rest) ← skip rest
    .ok (found, rest)
  | some field =>
    if (found.lookup key).isSome then stopAt (.duplicateField key) (behindObject text)
    else memberOf (field.shape limit) found key text

def missing? (record : RecordShape) (found : List (String × Json)) : Option String :=
  (record.fields.find? fun field => field.required && (found.lookup field.name).isNone).map (·.name)

def fromMembers (record : RecordShape) (limit : Nat) : Read Json := fun text => do
  let (found, rest) ← members (record.member limit) [] text
  match record.missing? found with
  | some name => stopAt (.missingField name) rest
  | none => .ok (object found, rest)

def nextElement? (first : Bool) (text : List Char) :
    Except Failure (Option (List Char) × List Char) :=
  match skipGaps text with
  | [] => stopAt .endInList []
  | ']' :: rest => .ok (none, ']' :: rest)
  | ',' :: rest =>
    if first then .ok (some (',' :: rest), ',' :: rest)
    else match skipGaps rest with
      | [] => stopAt .endInValue []
      | ']' :: rest => stopOn .trailingComma (']' :: rest)
      | rest => .ok (some rest, rest)
  | text => if first then .ok (some text, text) else stopOn .expectedListCommaOrEnd text

def fromElements (record : RecordShape) (limit : Nat) : List Field → (index : Nat) →
    List (String × Json) → Read Json
  | [], _, found, text => do
    let (_, rest) ← closeArray text
    .ok (object found, rest)
  | field :: fields, index, found, text => do
    match ← nextElement? (index == 0) text with
    | (some element, _) =>
      let (value, rest) ← field.shape limit element
      fromElements record limit fields (index + 1) (Entries.insert field.name value found) rest
    | (none, rest) =>
      if field.required then
        let expected := s!"struct {record.name} with {record.fields.length} elements"
        stopAt (.wrongLength index expected) (behindArray rest)
      else fromElements record limit fields (index + 1) found rest

def shape (record : RecordShape) : Shape := fun limit input =>
  match skipGaps input with
  | [] => stopAt .endInValue []
  | '\x7b' :: rest => Shape.inside limit '\x7b' (fun limit => record.fromMembers limit) rest
  | '[' :: rest =>
    Shape.inside limit '[' (fun limit => record.fromElements limit record.fields 0 []) rest
  | input => mismatch s!"struct {record.name}" input

end RecordShape

end Phrasebook.Json
