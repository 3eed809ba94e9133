import Phrasebook.Json.Printer
import Phrasebook.Text.Dotted

namespace Phrasebook

structure Project where
  id : String
  title : String
  createdBy : String
  organizationId : String
deriving DecidableEq, Repr

inductive Origin where
  | user
  | imported
  | seeded
deriving DecidableEq, Repr

namespace Origin

def all : List Origin := [user, imported, seeded]

def name : Origin → String
  | user => "user"
  | imported => "import"
  | seeded => "seed"

def ofName? (name : String) : Option Origin := all.find? (·.name == name)

end Origin

structure Rendering where
  localeId : String
  text : String
  contexts : Dictionary String
  origin : Origin
  createdBy : String
  organizationId : String
deriving DecidableEq

namespace Rendering

def new (localeId : String) (origin : Origin) (owner : Project) : Rendering :=
  { localeId, text := "", contexts := ∅, origin
    createdBy := owner.createdBy, organizationId := owner.organizationId }

def differsFrom (rendering other : Rendering) : Bool :=
  rendering.text ≠ other.text || rendering.contexts ≠ other.contexts

end Rendering

structure Phrase where
  key : String
  title : String
  examples : Dictionary Json
  references : Dictionary (Option String)
  createdBy : String
  organizationId : String
  renderings : Dictionary Rendering

namespace Phrase

def new (key title : String) (owner : Project) : Phrase :=
  { key, title, examples := ∅, references := ∅, renderings := ∅
    createdBy := owner.createdBy, organizationId := owner.organizationId }

/-- What a variable's name starts with if it records a reference, as older catalogs did. -/
def legacyMark : String := "_refs:"

def isLegacy (name : String) : Bool := legacyMark.toList.isPrefixOf name.toList

def legacyKey (name : String) : String :=
  String.ofList (name.toList.drop legacyMark.toList.length)

def legacyArgument : Json → Option String
  | .null => none
  | .string text => some text
  | value => some value.compact

/-- Moves the variables that record references to the references, where they replace nothing.
Gives also their number. -/
def migrate (phrase : Phrase) : Nat × Phrase :=
  let legacy := phrase.examples.filter fun name _ => isLegacy name
  (legacy.size,
    { phrase with
      examples := phrase.examples.filter fun name _ => !isLegacy name
      references := legacy.entries.foldl
        (fun references entry =>
          references.insertNew (legacyKey entry.1) (legacyArgument entry.2))
        phrase.references })

end Phrase

structure Category where
  key : String
  title : String
  projectId : String
  createdBy : String
  organizationId : String
  phrases : Dictionary Phrase

namespace Category

def rootKey : String := "__root__"

def new (key title : String) (owner : Project) : Category :=
  { key, title, projectId := owner.id, phrases := ∅
    createdBy := owner.createdBy, organizationId := owner.organizationId }

def isRoot (category : Category) : Bool := category.key = rootKey || category.key = ""

def path (category : Category) : List String :=
  if category.isRoot then [] else Dotted.split category.key

def holds (category : Category) (localeId : String) : Bool :=
  category.phrases.values.any (·.renderings.contains localeId)

end Category

end Phrasebook
