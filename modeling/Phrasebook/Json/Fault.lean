namespace Phrasebook.Json

inductive Found where
  | null
  | boolean (value : Bool)
  | integer (value : Int)
  | float (text : String)
  | string (quoted : String)
  | sequence
  | map
deriving DecidableEq

def Found.describe : Found → String
  | null => "null"
  | boolean value => s!"boolean `{value}`"
  | integer value => s!"integer `{value}`"
  | float text => s!"floating point `{text}`"
  | string quoted => s!"string {quoted}"
  | sequence => "sequence"
  | map => "map"

inductive Fault where
  | endInValue
  | endInString
  | endInList
  | endInObject
  | expectedValue
  | expectedIdentifier
  | expectedColon
  | expectedListCommaOrEnd
  | expectedObjectCommaOrEnd
  | keyMustBeString
  | trailingComma
  | trailingCharacters
  | controlCharacter
  | invalidEscape
  | unexpectedEndOfHexEscape
  | loneSurrogate
  | invalidNumber
  | numberOutOfRange
  | recursionLimit
  | wrongType (found : Found) (expected : String)
  | wrongValue (found : Found) (expected : String)
  | wrongLength (length : Nat) (expected : String)
  | unknownVariant (name : String) (expected : List String)
  | missingField (name : String)
  | duplicateField (name : String)
deriving DecidableEq

def Fault.describe : Fault → String
  | endInValue => "EOF while parsing a value"
  | endInString => "EOF while parsing a string"
  | endInList => "EOF while parsing a list"
  | endInObject => "EOF while parsing an object"
  | expectedValue => "expected value"
  | expectedIdentifier => "expected ident"
  | expectedColon => "expected `:`"
  | expectedListCommaOrEnd => "expected `,` or `]`"
  | expectedObjectCommaOrEnd => "expected `,` or `\x7d`"
  | keyMustBeString => "key must be a string"
  | trailingComma => "trailing comma"
  | trailingCharacters => "trailing characters"
  | controlCharacter => "control character (\\u0000-\\u001F) found while parsing a string"
  | invalidEscape => "invalid escape"
  | unexpectedEndOfHexEscape => "unexpected end of hex escape"
  | loneSurrogate => "lone leading surrogate in hex escape"
  | invalidNumber => "invalid number"
  | numberOutOfRange => "number out of range"
  | recursionLimit => "recursion limit exceeded"
  | wrongType found expected => s!"invalid type: {found.describe}, expected {expected}"
  | wrongValue found expected => s!"invalid value: {found.describe}, expected {expected}"
  | wrongLength length expected => s!"invalid length {length}, expected {expected}"
  | unknownVariant name expected =>
    let names := ", ".intercalate (expected.map fun other => "`" ++ other ++ "`")
    "unknown variant `" ++ name ++ "`, expected one of " ++ names
  | missingField name => s!"missing field `{name}`"
  | duplicateField name => s!"duplicate field `{name}`"

/-- A fault at the place where `rest` was left to be read, `ahead` bytes further on. -/
structure Failure where
  fault : Fault
  rest : List Char
  ahead : Nat
deriving DecidableEq

structure Position where
  line : Nat
  column : Nat
deriving DecidableEq, Repr

def Position.step (position : Position) (char : Char) (bytes : Nat) : Position :=
  if char = '\n' then ⟨position.line + 1, 0⟩
  else ⟨position.line, position.column + min bytes char.utf8Size⟩

def Position.walk (position : Position) : (count ahead : Nat) → List Char → Position
  | _, _, [] => position
  | count + 1, ahead, char :: rest => (position.step char char.utf8Size).walk count ahead rest
  | 0, 0, _ :: _ => position
  | 0, ahead + 1, char :: rest =>
    (position.step char (ahead + 1)).walk 0 (ahead + 1 - char.utf8Size) rest
termination_by structural _ _ text => text

def Failure.position (failure : Failure) (text : List Char) : Position :=
  Position.walk ⟨1, 0⟩ (text.length - failure.rest.length) failure.ahead text

end Phrasebook.Json
