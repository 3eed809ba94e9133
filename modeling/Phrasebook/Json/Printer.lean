import Phrasebook.Json.Basic
import Phrasebook.Decimal.Layout

namespace Phrasebook

def Number.text : Number → String
  | .integer value => toString value
  | .float value => Decimal.marked.write value

namespace Json

def hexDigit (value : Nat) : Char := Nat.digitChar value

def escape (char : Char) : List Char :=
  if char = '"' then ['\\', '"']
  else if char = '\\' then ['\\', '\\']
  else if char = '\x08' then ['\\', 'b']
  else if char = '\t' then ['\\', 't']
  else if char = '\n' then ['\\', 'n']
  else if char = '\x0c' then ['\\', 'f']
  else if char = '\r' then ['\\', 'r']
  else if char.toNat < 0x20 then
    ['\\', 'u', '0', '0', hexDigit (char.toNat / 16), hexDigit (char.toNat % 16)]
  else [char]

def quoted (text : String) : String :=
  String.ofList ('"' :: text.toList.flatMap escape ++ ['"'])

def enclose (opener closer : String) (pieces : List String) : String :=
  opener ++ ",".intercalate pieces ++ closer

mutual

def compact : Json → String
  | null => "null"
  | boolean value => toString value
  | number value => value.text
  | string value => quoted value
  | array elements => enclose "[" "]" (compactElements elements)
  | object members => enclose "\x7b" "\x7d" (compactMembers members)
termination_by structural value => value

def compactElements : List Json → List String
  | [] => []
  | element :: rest => compact element :: compactElements rest
termination_by structural elements => elements

def compactMembers : List (String × Json) → List String
  | [] => []
  | (key, value) :: rest => (quoted key ++ ":" ++ compact value) :: compactMembers rest
termination_by structural members => members

end

def indent (level : Nat) : String := "\n".pushn ' ' (2 * level)

def encloseLines (opener closer : String) (level : Nat) (pieces : List String) : String :=
  if pieces.isEmpty then opener ++ closer
  else opener ++ ",".intercalate (pieces.map (indent (level + 1) ++ ·)) ++ indent level ++ closer

mutual

def prettyAt (level : Nat) : Json → String
  | array elements => encloseLines "[" "]" level (prettyElements (level + 1) elements)
  | object members => encloseLines "\x7b" "\x7d" level (prettyMembers (level + 1) members)
  | value => compact value
termination_by structural value => value

def prettyElements (level : Nat) : List Json → List String
  | [] => []
  | element :: rest => prettyAt level element :: prettyElements level rest
termination_by structural elements => elements

def prettyMembers (level : Nat) : List (String × Json) → List String
  | [] => []
  | (key, value) :: rest =>
    (quoted key ++ ": " ++ prettyAt level value) :: prettyMembers level rest
termination_by structural members => members

end

def pretty (value : Json) : String := prettyAt 0 value

end Json

end Phrasebook
