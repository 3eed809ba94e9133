import Phrasebook.Catalog.Entities
import Phrasebook.Json.Codec

namespace Phrasebook

open Json (required omissible textMember? memberOr dictionary? optional? text?)

namespace Project

def record : Json.RecordShape where
  name := "Project"
  fields := [
    required "id" Json.Shape.text,
    required "title" Json.Shape.text,
    required "created_by" Json.Shape.text,
    required "organization_id" Json.Shape.text]

def encode (project : Project) : Json :=
  Json.ofMembers [
    ("id", .string project.id), ("title", .string project.title),
    ("created_by", .string project.createdBy), ("organization_id", .string project.organizationId)]

def decode? (json : Json) : Option Project := do
  let id ← json.textMember? "id"
  let title ← json.textMember? "title"
  let createdBy ← json.textMember? "created_by"
  let organizationId ← json.textMember? "organization_id"
  return { id, title, createdBy, organizationId }

def codec : Codec Project := ⟨record.shape, encode, decode?⟩

end Project

def Origin.codec : Codec Origin where
  shape := Json.Shape.choice (all.map name)
  encode origin := .string origin.name
  decode? json := json.text?.bind ofName?

namespace Rendering

def record : Json.RecordShape where
  name := "TranslationValue"
  fields := [
    required "locale_id" Json.Shape.text,
    required "value" Json.Shape.text,
    omissible "context" (Json.Shape.map Json.Shape.text),
    required "source" Origin.codec.shape,
    required "created_by" Json.Shape.text,
    required "organization_id" Json.Shape.text]

def encode (rendering : Rendering) : Json :=
  Json.ofMembers <| Json.dictionaryMember "context" .string rendering.contexts ++ [
    ("locale_id", .string rendering.localeId), ("value", .string rendering.text),
    ("source", Origin.codec.encode rendering.origin),
    ("created_by", .string rendering.createdBy),
    ("organization_id", .string rendering.organizationId)]

def decode? (json : Json) : Option Rendering := do
  let localeId ← json.textMember? "locale_id"
  let text ← json.textMember? "value"
  let contexts ← json.memberOr "context" ∅ (dictionary? text?)
  let origin ← (json.member? "source").bind Origin.codec.decode?
  let createdBy ← json.textMember? "created_by"
  let organizationId ← json.textMember? "organization_id"
  return { localeId, text, contexts, origin, createdBy, organizationId }

def codec : Codec Rendering := ⟨record.shape, encode, decode?⟩

end Rendering

namespace Phrase

def record : Json.RecordShape where
  name := "Translation"
  fields := [
    required "key" Json.Shape.text,
    required "title" Json.Shape.text,
    omissible "variables" (Json.Shape.map Json.Shape.any),
    omissible "references" (Json.Shape.map (Json.Shape.optional Json.Shape.text)),
    required "created_by" Json.Shape.text,
    required "organization_id" Json.Shape.text,
    omissible "values" (Json.Shape.map Rendering.codec.shape)]

def encode (phrase : Phrase) : Json :=
  Json.ofMembers <|
    Json.dictionaryMember "variables" id phrase.examples ++
    Json.dictionaryMember "references" (Json.ofOption .string) phrase.references ++
    Json.dictionaryMember "values" Rendering.encode phrase.renderings ++ [
      ("key", .string phrase.key), ("title", .string phrase.title),
      ("created_by", .string phrase.createdBy),
      ("organization_id", .string phrase.organizationId)]

def decode? (json : Json) : Option Phrase := do
  let key ← json.textMember? "key"
  let title ← json.textMember? "title"
  let examples ← json.memberOr "variables" ∅ (dictionary? some)
  let references ← json.memberOr "references" ∅ (dictionary? (optional? text?))
  let createdBy ← json.textMember? "created_by"
  let organizationId ← json.textMember? "organization_id"
  let renderings ← json.memberOr "values" ∅ (dictionary? Rendering.decode?)
  return { key, title, examples, references, createdBy, organizationId, renderings }

def codec : Codec Phrase := ⟨record.shape, encode, decode?⟩

end Phrase

namespace Category

def record : Json.RecordShape where
  name := "Category"
  fields := [
    required "key" Json.Shape.text,
    required "title" Json.Shape.text,
    required "project_id" Json.Shape.text,
    required "created_by" Json.Shape.text,
    required "organization_id" Json.Shape.text,
    omissible "translations" (Json.Shape.map Phrase.codec.shape)]

def encode (category : Category) : Json :=
  Json.ofMembers <| Json.dictionaryMember "translations" Phrase.encode category.phrases ++ [
    ("key", .string category.key), ("title", .string category.title),
    ("project_id", .string category.projectId), ("created_by", .string category.createdBy),
    ("organization_id", .string category.organizationId)]

def decode? (json : Json) : Option Category := do
  let key ← json.textMember? "key"
  let title ← json.textMember? "title"
  let projectId ← json.textMember? "project_id"
  let createdBy ← json.textMember? "created_by"
  let organizationId ← json.textMember? "organization_id"
  let phrases ← json.memberOr "translations" ∅ (dictionary? Phrase.decode?)
  return { key, title, projectId, createdBy, organizationId, phrases }

def codec : Codec Category := ⟨record.shape, encode, decode?⟩

end Category

end Phrasebook
