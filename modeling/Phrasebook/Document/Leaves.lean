import Phrasebook.Document.Path
import Phrasebook.Json.Printer

namespace Phrasebook

inductive LeafFault where
  | unsupportedType (path : String) (typeName : String)
  | tooDeep (path : String) (limit : Nat)
deriving DecidableEq, Repr

def LeafFault.message : LeafFault → String
  | unsupportedType path typeName => s!"Unhandled type {typeName} at '{path}'"
  | tooDeep path limit => s!"Document is nested deeper than {limit} levels at '{path}'"

/-- The text of a number as a leaf: its shortest digits, without a power of ten, and without a
point if it is whole. -/
def Number.leafText : Number → String
  | .integer value => toString value
  | .float value => Decimal.plain.write value

namespace Json

def defaultDepth : Nat := 64

mutual

def leavesUnder (limit : Nat) (keys : List String) : Json → Except LeafFault (List LeafPath)
  | string text => .ok [keys ++ [text]]
  | number value => .ok [keys ++ [value.leafText]]
  | object members =>
    if limit ≤ keys.length then .error (.tooDeep (Dotted.join keys) limit)
    else leavesOfMembers limit keys members
  | value => .error (.unsupportedType (Dotted.join keys) value.typeName)
termination_by structural value => value

def leavesOfMembers (limit : Nat) (keys : List String) :
    List (String × Json) → Except LeafFault (List LeafPath)
  | [] => .ok []
  | (key, value) :: rest => do
    let first ← leavesUnder limit (keys ++ [key]) value
    let others ← leavesOfMembers limit keys rest
    .ok (first ++ others)
termination_by structural members => members

end

def leaves (limit : Nat) (document : Json) : Except LeafFault (List LeafPath) :=
  leavesUnder limit [] document

end Json

end Phrasebook
