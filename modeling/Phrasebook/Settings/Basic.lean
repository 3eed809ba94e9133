import Phrasebook.Document.Leaves
import Phrasebook.Locale.Basic
import Phrasebook.Message.Token

namespace Phrasebook

/-- The marker texts of messages. Without a separator of its own, a nesting is separated like a
format. -/
structure MarkerSettings where
  interpolationOpener : String
  interpolationCloser : String
  formatSeparator : String
  nestingOpener : String
  nestingCloser : String
  nestingSeparator? : Option String
deriving DecidableEq, Repr

structure ExportSettings where
  localeCode : LocaleCode
  localeFilter : List String
deriving DecidableEq, Repr

structure Settings where
  interpolation : MarkerSettings
  contextSeparator : String
  maxDepth : Nat
  exporting : ExportSettings
deriving DecidableEq, Repr

def MarkerSettings.standard : MarkerSettings where
  interpolationOpener := "\x7b\x7b"
  interpolationCloser := "\x7d\x7d"
  formatSeparator := ","
  nestingOpener := "$t("
  nestingCloser := ")"
  nestingSeparator? := none

def ExportSettings.standard : ExportSettings := ⟨.iso1, []⟩

def Settings.standard : Settings := ⟨.standard, "_", Json.defaultDepth, .standard⟩

namespace MarkerSettings

def named (settings : MarkerSettings) : List (String × Marker) :=
  [("interpolation.prefix", ⟨settings.interpolationOpener, .interpolationOpener⟩),
    ("interpolation.suffix", ⟨settings.interpolationCloser, .interpolationCloser⟩),
    ("interpolation.formatSeparator", ⟨settings.formatSeparator, .formatSeparator⟩),
    ("interpolation.nestingPrefix", ⟨settings.nestingOpener, .nestingOpener⟩),
    ("interpolation.nestingSuffix", ⟨settings.nestingCloser, .nestingCloser⟩)] ++
  settings.nestingSeparator?.toList.map fun text =>
    ("interpolation.nestingSeparator", ⟨text, .nestingSeparator⟩)

def markerSet (settings : MarkerSettings) : MarkerSet :=
  MarkerSet.ofList (settings.named.map (·.2))

def record : Json.RecordShape where
  name := "InterpolationSettings"
  fields := [
    Json.omissible "prefix" Json.Shape.text,
    Json.omissible "suffix" Json.Shape.text,
    Json.omissible "formatSeparator" Json.Shape.text,
    Json.omissible "nestingPrefix" Json.Shape.text,
    Json.omissible "nestingSuffix" Json.Shape.text,
    Json.omissible "nestingSeparator" (Json.Shape.optional Json.Shape.text)]

def encode (settings : MarkerSettings) : Json :=
  Json.ofMembers [
    ("prefix", .string settings.interpolationOpener),
    ("suffix", .string settings.interpolationCloser),
    ("formatSeparator", .string settings.formatSeparator),
    ("nestingPrefix", .string settings.nestingOpener),
    ("nestingSuffix", .string settings.nestingCloser),
    ("nestingSeparator", Json.ofOption .string settings.nestingSeparator?)]

def decode? (json : Json) : Option MarkerSettings := do
  let interpolationOpener ← json.memberOr "prefix" standard.interpolationOpener Json.text?
  let interpolationCloser ← json.memberOr "suffix" standard.interpolationCloser Json.text?
  let formatSeparator ← json.memberOr "formatSeparator" standard.formatSeparator Json.text?
  let nestingOpener ← json.memberOr "nestingPrefix" standard.nestingOpener Json.text?
  let nestingCloser ← json.memberOr "nestingSuffix" standard.nestingCloser Json.text?
  let nestingSeparator? ←
    json.memberOr "nestingSeparator" standard.nestingSeparator? (Json.optional? Json.text?)
  return { interpolationOpener, interpolationCloser, formatSeparator, nestingOpener, nestingCloser
           nestingSeparator? }

def codec : Codec MarkerSettings := ⟨record.shape, encode, decode?⟩

end MarkerSettings

namespace ExportSettings

def record : Json.RecordShape where
  name := "ExportSettings"
  fields := [
    Json.omissible "localeKey" LocaleCode.codec.shape,
    Json.omissible "localeFilter" (Json.Shape.sequence Json.Shape.text)]

def encode (settings : ExportSettings) : Json :=
  Json.ofMembers [
    ("localeKey", LocaleCode.codec.encode settings.localeCode),
    ("localeFilter", Json.ofList .string settings.localeFilter)]

def decode? (json : Json) : Option ExportSettings := do
  let localeCode ← json.memberOr "localeKey" standard.localeCode LocaleCode.codec.decode?
  let localeFilter ← json.memberOr "localeFilter" standard.localeFilter (Json.list? Json.text?)
  return { localeCode, localeFilter }

def codec : Codec ExportSettings := ⟨record.shape, encode, decode?⟩

end ExportSettings

namespace Settings

def record : Json.RecordShape where
  name := "ImportExportSettings"
  fields := [
    Json.omissible "interpolation" MarkerSettings.codec.shape,
    Json.omissible "contextSeparator" Json.Shape.text,
    Json.omissible "maxDepth" Json.Shape.size,
    Json.omissible "export" ExportSettings.codec.shape]

def encode (settings : Settings) : Json :=
  Json.ofMembers [
    ("interpolation", settings.interpolation.encode),
    ("contextSeparator", .string settings.contextSeparator),
    ("maxDepth", .number (.integer settings.maxDepth)),
    ("export", settings.exporting.encode)]

def decode? (json : Json) : Option Settings := do
  let interpolation ← json.memberOr "interpolation" standard.interpolation MarkerSettings.decode?
  let contextSeparator ← json.memberOr "contextSeparator" standard.contextSeparator Json.text?
  let maxDepth ← json.memberOr "maxDepth" standard.maxDepth Json.size?
  let exporting ← json.memberOr "export" standard.exporting ExportSettings.decode?
  return { interpolation, contextSeparator, maxDepth, exporting }

def codec : Codec Settings := ⟨record.shape, encode, decode?⟩

end Settings

end Phrasebook
