import Phrasebook.Catalog.Entities
import Phrasebook.Import.Key
import Phrasebook.Import.Title
import Phrasebook.Inference.Basic

/-!
# Importing documents

Each leaf of a document has a place in the catalog. Its first key names a locale, its last key is
the key of a phrase, perhaps with a context, and the keys between make the category. With a hint,
the whole document belongs to one locale and has no level for it.

An import works through the leaves, shorter paths first. A context takes the last text of its
place, a plain rendering the last that is not empty, a reference the first argument, and titles
come from the first leaf of an entity.
-/

namespace Phrasebook

inductive ImportFault where
  | emptyDocument
  | notAnObject (typeName : String)
  | missingOwner (field : String)
  | noLocales
  | unresolvedLocale (segment path : String)
  | incompletePath (path : String)
  | leaves (fault : LeafFault)
  | noPattern
deriving DecidableEq, Repr

def ImportFault.message : ImportFault → String
  | emptyDocument => "Empty input"
  | notAnObject typeName => s!"Expected an object at the document root, found {typeName}"
  | missingOwner field => s!"base.{field} is required"
  | noLocales => "No locales"
  | unresolvedLocale segment path => s!"No locale matches '{segment}' for path '{path}'"
  | incompletePath path => s!"Path '{path}' has no value"
  | leaves fault => fault.message
  | noPattern => "Failed to build the variable pattern"

structure ImportRules where
  inferrer : Inferrer
  contextSeparator : String
  maxDepth : Nat

def ImportRules.ofSettings (settings : Settings) : Except ImportFault ImportRules :=
  match Inferrer.ofSettings? settings.interpolation with
  | some inferrer => .ok ⟨inferrer, settings.contextSeparator, settings.maxDepth⟩
  | none => .error .noPattern

/-- What an import is for: the locales that may be named, the locale of the whole document if it
has no level for locales, and what new entities are marked with. -/
structure ImportTarget where
  locales : List Locale
  hint? : Option Locale
  owner : Project
  origin : Origin

/-! ## Places -/

structure Placement where
  localeId : String
  categoryKey : String
  folder : String
  phraseKey : String
  context? : Option String
  text : String
deriving DecidableEq, Repr

def categoryKeyOf (segments : List String) : String :=
  let key := Dotted.join segments
  if key = "" then Category.rootKey else key

def ImportTarget.localeOf (target : ImportTarget) (segment : String) (path : LeafPath) :
    Except ImportFault Locale :=
  match target.hint? with
  | some hint => .ok hint
  | none =>
    match Locale.resolve? target.locales segment with
    | some locale => .ok locale
    | none => .error (.unresolvedLocale segment (Dotted.join path))

def ImportTarget.place (target : ImportTarget) (contextSeparator : String) (path : LeafPath) :
    Except ImportFault Placement :=
  match LeafPath.parts? path with
  | none => .error (.incompletePath (Dotted.join path))
  | some ⟨[], _, _⟩ => .error (.incompletePath (Dotted.join path))
  | some ⟨segment :: folders, key?, text⟩ => do
    let locale ← target.localeOf segment path
    let (phraseKey, context?) :=
      (key?.map (Key.splitContext · contextSeparator)).getD ("", none)
    .ok { localeId := locale.id, categoryKey := categoryKeyOf folders
          folder := folders.getLast?.getD "", phraseKey, context?, text }

/-! ## Entities -/

structure Import where
  categories : Dictionary Category
  warnings : List Warning

def Rendering.receive (rendering : Rendering) (origin : Origin) (context? : Option String)
    (text : String) : Rendering :=
  match context? with
  | some context => { rendering with origin, contexts := rendering.contexts.insert context text }
  | none => { rendering with origin, text := if text = "" then rendering.text else text }

def Phrase.receive (phrase : Phrase) (target : ImportTarget)
    (placement : Placement) (examples : Dictionary Json)
    (references : Dictionary (Option String)) : Phrase :=
  { phrase with
    examples
    references := phrase.references.merge (fun former _ => former) references
    renderings := phrase.renderings.alter placement.localeId fun rendering? =>
      (rendering?.getD (Rendering.new placement.localeId target.origin target.owner)).receive
        target.origin placement.context? placement.text }

namespace Import

def empty : Import := ⟨∅, []⟩

def phrase? (made : Import) (placement : Placement) : Option Phrase :=
  (made.categories.get? placement.categoryKey).bind (·.phrases.get? placement.phraseKey)

def add (rules : ImportRules) (target : ImportTarget) (made : Import) (placement : Placement) :
    Import :=
  let inferred := rules.inferrer.infer
    ⟨placement.categoryKey, placement.phraseKey, placement.text⟩
  let former := ((made.phrase? placement).map (·.examples)).getD ∅
  let (examples, conflicts) := mergeVariables former inferred.examples
  let categories := made.categories.alter placement.categoryKey fun category? =>
    let category := category?.getD
      (Category.new placement.categoryKey (Title.ofKey placement.folder) target.owner)
    { category with
      phrases := category.phrases.alter placement.phraseKey fun phrase? =>
        let phrase := phrase?.getD
          (Phrase.new placement.phraseKey (Title.ofKey placement.phraseKey)
            target.owner)
        phrase.receive target placement examples inferred.references }
  { categories, warnings := made.warnings ++ inferred.warnings ++ conflicts }

end Import

/-! ## Documents -/

def ImportTarget.check (target : ImportTarget) (document : Json) : Except ImportFault Unit :=
  match document with
  | .null => .error .emptyDocument
  | .object [] => .error .emptyDocument
  | .object _ =>
    if target.owner.id = "" then .error (.missingOwner "projectId")
    else if target.owner.createdBy = "" then .error (.missingOwner "createdBy")
    else if target.owner.organizationId = "" then .error (.missingOwner "organizationId")
    else if target.locales.isEmpty && target.hint?.isNone then .error .noLocales
    else .ok ()
  | other => .error (.notAnObject other.typeName)

/-- The paths of a document's leaves with the locale in front, in the order in which they are
worked through. -/
def ImportTarget.paths (target : ImportTarget) (leaves : List LeafPath) : List LeafPath :=
  LeafPath.sort <| match target.hint? with
    | some hint => leaves.map (hint.id :: ·)
    | none => leaves

def ImportRules.run (rules : ImportRules) (target : ImportTarget) (document : Json) :
    Except ImportFault Import := do
  target.check document
  let leaves ← (document.leaves rules.maxDepth).mapError .leaves
  let placements ← (target.paths leaves).mapM (target.place rules.contextSeparator)
  .ok (placements.foldl (Import.add rules target) Import.empty)

end Phrasebook
