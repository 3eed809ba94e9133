import Phrasebook.Catalog.Overview
import Phrasebook.Document.Leaves
import Phrasebook.Text.Quoted
import Phrasebook.Titling.Suggestion

namespace Phrasebook

inductive TitleChange where
  | category (categoryKey previous title : String)
  | phrase (categoryKey phraseKey previous title : String)
deriving DecidableEq, Repr

inductive TitleFault where
  | notAnObject (typeName : String)
  | leaves (fault : LeafFault)
  | duplicateKey (key previous title : String)
  | unknownKey (key project : String) (suggestions : List String)
deriving DecidableEq, Repr

def TitleFault.message : TitleFault → String
  | notAnObject typeName => s!"Expected an object at the document root, found {typeName}"
  | leaves fault => fault.message
  | duplicateKey key previous title =>
    s!"Key '{key}' is given twice. The previous title was '{previous}' and the new title is" ++
      s!" '{title}'"
  | unknownKey key project suggestions =>
    s!"No category or translation '{key}' in project '{project}'. Did you mean one of these?: " ++
      Text.quoteList suggestions

def TitleChange.encode : TitleChange → Json
  | category categoryKey previous title =>
    Json.ofMembers [
      ("kind", .string "categoryTitle"), ("categoryKey", .string categoryKey),
      ("previous", .string previous), ("title", .string title)]
  | phrase categoryKey phraseKey previous title =>
    Json.ofMembers [
      ("kind", .string "translationTitle"), ("categoryKey", .string categoryKey),
      ("translationKey", .string phraseKey), ("previous", .string previous),
      ("title", .string title)]

structure TitleTarget where
  categoryKey : String
  phraseKey? : Option String
  title : String
deriving DecidableEq, Repr

def TitleTarget.change? (target : TitleTarget) (title : String) : Option TitleChange :=
  if target.title = title then none
  else some <| match target.phraseKey? with
    | none => .category target.categoryKey target.title title
    | some key => .phrase target.categoryKey key target.title title

namespace Overview

def categoryTargets (overview : Overview) : Dictionary TitleTarget :=
  Dictionary.ofList <| overview.categories.values.map fun category =>
    (category.key, ⟨category.key, none, category.title⟩)

def phraseTargets (overview : Overview) : Dictionary TitleTarget :=
  Dictionary.ofList <| overview.categories.values.flatMap fun category =>
    category.phrases.values.map fun phrase =>
      (Dotted.join (category.path ++ [phrase.key]),
        ⟨category.key, some phrase.key, phrase.title⟩)

end Overview

def addTitle (titles : Dictionary String) (path : LeafPath) :
    Except TitleFault (Dictionary String) :=
  match path.splitText? with
  | none => .ok titles
  | some (keys, title) =>
    let key := Dotted.join keys
    match titles.get? key with
    | some previous => .error (.duplicateKey key previous title)
    | none => .ok (titles.insert key title)

def titlesOf (document : Json) : Except TitleFault (Dictionary String) := do
  match document with
  | .object _ => pure ()
  | other => throw (.notAnObject other.typeName)
  let leaves ← (document.leaves Json.defaultDepth).mapError .leaves
  (LeafPath.sort leaves).foldlM addTitle ∅

def changesFor (overview : Overview) (categories phrases : Dictionary TitleTarget)
    (entry : String × String) : Except TitleFault (List TitleChange) :=
  let (key, title) := entry
  match categories.get? key, phrases.get? key with
  | none, none =>
    .error (.unknownKey key overview.project.id
      (Suggestion.forKey key (categories.keys ++ phrases.keys)))
  | category?, phrase? =>
    .ok ((category?.toList ++ phrase?.toList).filterMap (·.change? title))

def Overview.describe (overview : Overview) (document : Json) :
    Except TitleFault (List TitleChange) := do
  let titles ← titlesOf document
  let changes ← titles.entries.mapM
    (changesFor overview overview.categoryTargets overview.phraseTargets)
  .ok changes.flatten

end Phrasebook
