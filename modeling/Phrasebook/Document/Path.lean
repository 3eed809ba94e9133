import Phrasebook.Text.Dotted

namespace Phrasebook

/-- The keys that lead to a leaf, followed by the text of the leaf. -/
abbrev LeafPath := List String

namespace LeafPath

def precedes (path other : LeafPath) : Bool :=
  path.length < other.length ||
    (path.length == other.length && Dotted.join path ≤ Dotted.join other)

def sort (paths : List LeafPath) : List LeafPath := paths.mergeSort precedes

def splitText? (path : LeafPath) : Option (List String × String) :=
  path.getLast?.map fun text => (path.dropLast, text)

/-- A path taken apart: its text, the key next to it, and the keys before. A path of one key and a
text has no key of its own next to the text. -/
structure Parts where
  root : List String
  key? : Option String
  text : String
deriving DecidableEq, Repr

def parts? (path : LeafPath) : Option Parts :=
  match path.reverse with
  | text :: key :: next :: rest => some ⟨(next :: rest).reverse, some key, text⟩
  | [text, key] => some ⟨[key], none, text⟩
  | _ => none

end LeafPath

end Phrasebook
