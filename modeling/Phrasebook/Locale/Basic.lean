import Phrasebook.Json.Codec

namespace Phrasebook

structure Locale where
  id : String
  iso1 : String
  iso2 : String
  iso3 : String
  ietf : String
  title : String
  fallbacks : List String
deriving DecidableEq, Repr

inductive LocaleCode where
  | ietf
  | iso1
  | iso2
  | iso3
deriving DecidableEq, Repr

namespace LocaleCode

def all : List LocaleCode := [ietf, iso1, iso2, iso3]

def name : LocaleCode → String
  | ietf => "ietf"
  | iso1 => "iso1"
  | iso2 => "iso2"
  | iso3 => "iso3"

def ofName? (name : String) : Option LocaleCode := all.find? (·.name == name)

def codec : Codec LocaleCode where
  shape := Json.Shape.choice (all.map name)
  encode code := .string code.name
  decode? json := json.text?.bind ofName?

end LocaleCode

namespace Locale

def aliases (locale : Locale) : List String :=
  [locale.id, locale.ietf, locale.iso3, locale.iso2, locale.iso1]

def isNamed (locale : Locale) (name : String) : Bool :=
  name ≠ "" && locale.aliases.contains name

def code (locale : Locale) : LocaleCode → String
  | .ietf => locale.ietf
  | .iso1 => locale.iso1
  | .iso2 => locale.iso2
  | .iso3 => locale.iso3

def resolve? (locales : List Locale) (name : String) : Option Locale :=
  locales.find? (·.isNamed name)

def starters : List Locale := [
  ⟨"en-GB", "en", "eng", "eng", "en-GB", "British", ["eng", "en"]⟩,
  ⟨"en-US", "en", "eng", "eng", "en-US", "US English", ["eng", "en"]⟩,
  ⟨"nb-NO", "nb", "nob", "nob", "nb-NO", "Norwegian Bokmål",
    ["nn-NO", "no", "dan", "swe", "eng"]⟩,
  ⟨"nn-NO", "nn", "nno", "nno", "nn-NO", "Norwegian Nynorsk",
    ["nb-NO", "no", "dan", "swe", "eng"]⟩]

def record : Json.RecordShape where
  name := "Locale"
  fields := [
    Json.required "id" Json.Shape.text,
    Json.required "iso_639_1" Json.Shape.text,
    Json.required "iso_639_2" Json.Shape.text,
    Json.required "iso_639_3" Json.Shape.text,
    Json.required "ietf" Json.Shape.text,
    Json.required "title" Json.Shape.text,
    Json.omissible "fallbacks" (Json.Shape.sequence Json.Shape.text)]

def encode (locale : Locale) : Json :=
  let fallbacks :=
    if locale.fallbacks.isEmpty then [] else [("fallbacks", Json.ofList .string locale.fallbacks)]
  Json.ofMembers <| fallbacks ++ [
    ("id", .string locale.id), ("iso_639_1", .string locale.iso1),
    ("iso_639_2", .string locale.iso2), ("iso_639_3", .string locale.iso3),
    ("ietf", .string locale.ietf), ("title", .string locale.title)]

def decode? (json : Json) : Option Locale := do
  let id ← json.textMember? "id"
  let iso1 ← json.textMember? "iso_639_1"
  let iso2 ← json.textMember? "iso_639_2"
  let iso3 ← json.textMember? "iso_639_3"
  let ietf ← json.textMember? "ietf"
  let title ← json.textMember? "title"
  let fallbacks ← json.memberOr "fallbacks" [] (Json.list? Json.text?)
  return { id, iso1, iso2, iso3, ietf, title, fallbacks }

def codec : Codec Locale := ⟨record.shape, encode, decode?⟩

end Locale

end Phrasebook
