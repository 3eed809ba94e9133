import Phrasebook.Dictionary.Basic

namespace Phrasebook

/-- A number: an integer, or a double from a literal with a fraction, a power of ten or too many
digits for an integer. -/
inductive Number where
  | integer (value : Int)
  | float (value : Float)
deriving DecidableEq

/-- Whether two numbers are the same: integers by value, doubles by comparison, so that both zeros
are the same double. -/
def Number.same : Number → Number → Bool
  | .integer left, .integer right => left == right
  | .float left, .float right => left == right
  | _, _ => false

inductive Json where
  | null
  | boolean (value : Bool)
  | number (value : Number)
  | string (value : String)
  | array (elements : List Json)
  | object (members : List (String × Json))
deriving Inhabited

namespace Json

def typeName : Json → String
  | null => "null"
  | boolean _ => "boolean"
  | number _ => "number"
  | string _ => "string"
  | array _ => "array"
  | object _ => "object"

def ofMembers (members : List (String × Json)) : Json := object (Entries.ofList members)

def ofDictionary (members : Dictionary Json) : Json := object members.entries

def optionalMember (key : String) (value : Option Json) : List (String × Json) :=
  value.toList.map fun value => (key, value)

def member? (key : String) : Json → Option Json
  | object members => members.lookup key
  | _ => none

def text? : Json → Option String
  | string value => some value
  | _ => none

def elements? : Json → Option (List Json)
  | array elements => some elements
  | _ => none

def members? : Json → Option (List (String × Json))
  | object members => some members
  | _ => none

mutual

def same : Json → Json → Bool
  | null, null => true
  | boolean left, boolean right => left == right
  | number left, number right => left.same right
  | string left, string right => left == right
  | array left, array right => sameElements left right
  | object left, object right => sameMembers left right
  | _, _ => false
termination_by structural left => left

def sameElements : List Json → List Json → Bool
  | [], [] => true
  | left :: lefts, right :: rights => same left right && sameElements lefts rights
  | _, _ => false
termination_by structural left => left

def sameMembers : List (String × Json) → List (String × Json) → Bool
  | [], [] => true
  | (key, left) :: lefts, (otherKey, right) :: rights =>
    key == otherKey && same left right && sameMembers lefts rights
  | _, _ => false
termination_by structural left => left

end

end Json

end Phrasebook
