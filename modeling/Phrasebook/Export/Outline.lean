import Phrasebook.Document.Leaves
import Phrasebook.Locale.Basic
import Phrasebook.Trie.Codec

/-!
# Outlines

An outline is a document as a tree of texts: leaves have a text, other nodes lead on. A text that
is there is kept when outlines are merged. In a `LocaleOutline` every node has a text for each
locale, and there the later text counts.

Written as a document, a node with a text hides what is below it, and what is empty is left out.
-/

namespace Phrasebook

instance : Label String where
  blank := ""
  combine first second := if first = "" then second else first

instance {α : Type} : Label (Dictionary α) where
  blank := ∅
  combine first second := first.merge (fun _ later => later) second

abbrev Outline := Trie String

abbrev LocaleOutline := Trie (Dictionary String)

inductive OutlineFault where
  | emptyLocaleCode (localeId : String)
  | notAMap (text : String)
  | rootHasText (text : String)
  | unknownLocale (name : String)
  | leaves (fault : LeafFault)
deriving DecidableEq, Repr

def OutlineFault.message : OutlineFault → String
  | emptyLocaleCode localeId => s!"The locale-key was empty for locale {localeId}"
  | notAMap text => s!"Expected the root node to render as a map, but it holds the value '{text}'"
  | rootHasText text => s!"Did not expect a value in the root node: '{text}'"
  | unknownLocale name => s!"Failed to look up locale-id for locale-key: {name}"
  | leaves fault => fault.message

def Json.isVoid : Json → Bool
  | string text => text = ""
  | object members => members.isEmpty
  | _ => false

mutual

def writeBranch : Branch String → Json
  | .node text children =>
    if text ≠ "" then .string text
    else if children.isEmpty then .string ""
    else .object (writeBranches children)
termination_by structural branch => branch

def writeBranches : List (String × Branch String) → List (String × Json)
  | [] => []
  | (key, branch) :: rest =>
    let value := writeBranch branch
    if value.isVoid then writeBranches rest else (key, value) :: writeBranches rest
termination_by structural children => children

end

namespace Outline

def isEmpty (outline : Outline) : Bool := outline.label = "" && outline.branch.children.isEmpty

def write (outline : Outline) : Json := writeBranch outline.branch

def document (outline : Outline) : Except OutlineFault Json :=
  match outline.write with
  | .object members => .ok (.object members)
  | .string "" => .ok (.object [])
  | other => .error (.notAMap other.compact)

def addLeaf (outline : Outline) (path : LeafPath) : Outline :=
  match path.splitText? with
  | none => outline
  | some (keys, text) => if text = "" then outline else outline.graft keys (Trie.leaf text)

def ofDocument (document : Json) : Except OutlineFault Outline :=
  match document with
  | .object _ => do
    let leaves ← (document.leaves Json.defaultDepth).mapError .leaves
    .ok (leaves.foldl addLeaf Trie.blank)
  | other => .error (.notAMap other.compact)

def textFor (localeId text : String) : Dictionary String :=
  if text = "" then ∅ else (∅ : Dictionary String).insert localeId text

def forLocale (outline : Outline) (localeId : String) : LocaleOutline :=
  outline.map (textFor localeId)

def localeIdOf (locales? : Option (List Locale)) (key : String) : Except OutlineFault String :=
  match locales? with
  | none => .ok key
  | some locales =>
    match Locale.resolve? locales key with
    | some locale => .ok locale.id
    | none => .error (.unknownLocale key)

def mergeLocale (locales? : Option (List Locale)) (merged : LocaleOutline)
    (entry : String × Outline) : Except OutlineFault LocaleOutline := do
  let localeId ← localeIdOf locales? entry.1
  .ok (merged.merge (Trie.ofChildren ∅
    (entry.2.children.mapValues fun _ child => Outline.forLocale child localeId)))

/-- The outline by locale, where the keys of the topmost node stand for locales: by themselves, or
by the names of the given ones. -/
def byLocale (outline : Outline) (locales? : Option (List Locale)) :
    Except OutlineFault LocaleOutline :=
  if outline.label ≠ "" then .error (.rootHasText outline.label)
  else outline.children.entries.foldlM (mergeLocale locales?) Trie.blank

def encode (outline : Outline) : Json :=
  Trie.encode "nodes" (fun text => if text = "" then [] else [("value", .string text)]) outline

end Outline

def LocaleOutline.encode (outline : LocaleOutline) : Json :=
  Trie.encode "nodes" (Json.dictionaryMember "value" .string) outline

end Phrasebook
