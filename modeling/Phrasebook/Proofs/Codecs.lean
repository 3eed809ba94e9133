import Phrasebook.Catalog.Codecs
import Phrasebook.Proofs.Json.Members
import Phrasebook.Settings.Basic

namespace Phrasebook

open Json (memberOr memberOr_dictionary dictionary? optional? text? textMember? member?_ofMembers
  lookup_dictionaryMember size?_natCast text?_string)

theorem LocaleCode.lossless : codec.Lossless := by
  intro code
  cases code <;> rfl

theorem Locale.lossless : codec.Lossless := by
  intro locale
  have written (key : String) : locale.encode.member? key = _ := member?_ofMembers _ key
  have read := Json.list?_ofList text?_string locale.fallbacks
  have fallbacks : locale.encode.memberOr "fallbacks" [] (Json.list? text?) =
      some locale.fallbacks := by
    simp only [memberOr, written]
    cases found : locale.fallbacks with
    | nil => simp [List.lookup_cons]
    | cons first rest => simpa [List.lookup_cons, found] using read
  simp [codec, decode?, fallbacks, textMember?, written, text?, List.lookup_cons]

theorem Project.lossless : codec.Lossless := by
  intro project
  have written (key : String) : project.encode.member? key = _ := member?_ofMembers _ key
  simp [codec, decode?, textMember?, written, text?, List.lookup_cons]

theorem Origin.lossless : codec.Lossless := by
  intro origin
  cases origin <;> rfl

theorem Rendering.lossless : codec.Lossless := by
  intro rendering
  have written (key : String) : rendering.encode.member? key = _ := member?_ofMembers _ key
  have contexts : rendering.encode.memberOr "context" ∅ (dictionary? text?) =
      some rendering.contexts := by
    refine memberOr_dictionary text?_string ?_
    simp [written, List.lookup_cons, lookup_dictionaryMember]
  have origin := Origin.lossless rendering.origin
  simp [codec, decode?, contexts, origin, textMember?, written, text?, List.lookup_cons]

theorem Phrase.lossless : codec.Lossless := by
  intro phrase
  have written (key : String) : phrase.encode.member? key = _ := member?_ofMembers _ key
  have examples : phrase.encode.memberOr "variables" ∅ (dictionary? some) =
      some phrase.examples := by
    refine memberOr_dictionary (show ∀ value, some (id value) = some value from fun _ => rfl) ?_
    simp [written, List.lookup_append, List.lookup_cons, lookup_dictionaryMember]
  have references : phrase.encode.memberOr "references" ∅ (dictionary? (optional? text?)) =
      some phrase.references := by
    refine memberOr_dictionary (Json.optional?_ofOption text?_string fun _ => nofun) ?_
    simp [written, List.lookup_append, List.lookup_cons, lookup_dictionaryMember]
  have renderings : phrase.encode.memberOr "values" ∅ (dictionary? Rendering.decode?) =
      some phrase.renderings := by
    refine memberOr_dictionary Rendering.lossless ?_
    simp [written, List.lookup_append, List.lookup_cons, lookup_dictionaryMember, Rendering.codec]
  simp [codec, decode?, examples, references, renderings, textMember?, written, text?,
    List.lookup_cons]

theorem Category.lossless : codec.Lossless := by
  intro category
  have written (key : String) : category.encode.member? key = _ := member?_ofMembers _ key
  have phrases : category.encode.memberOr "translations" ∅ (dictionary? Phrase.decode?) =
      some category.phrases := by
    refine memberOr_dictionary Phrase.lossless ?_
    simp [written, List.lookup_cons, lookup_dictionaryMember, Phrase.codec]
  simp [codec, decode?, phrases, textMember?, written, text?, List.lookup_cons]

theorem MarkerSettings.lossless : codec.Lossless := by
  intro settings
  have written (key : String) : settings.encode.member? key = _ := member?_ofMembers _ key
  have separator := Json.optional?_ofOption text?_string (fun _ => nofun)
    settings.nestingSeparator?
  simp [codec, decode?, separator, memberOr, written, text?, List.lookup_cons]

theorem ExportSettings.lossless : codec.Lossless := by
  intro settings
  have written (key : String) : settings.encode.member? key = _ := member?_ofMembers _ key
  have code := LocaleCode.lossless settings.localeCode
  have filter := Json.list?_ofList text?_string settings.localeFilter
  simp [codec, decode?, code, filter, memberOr, written, List.lookup_cons]

theorem Settings.lossless : codec.Lossless := by
  intro settings
  have written (key : String) : settings.encode.member? key = _ := member?_ofMembers _ key
  have interpolation : MarkerSettings.decode? settings.interpolation.encode = _ :=
    MarkerSettings.lossless settings.interpolation
  have exporting : ExportSettings.decode? settings.exporting.encode = _ :=
    ExportSettings.lossless settings.exporting
  simp [codec, decode?, interpolation, exporting, size?_natCast, memberOr, written, text?,
    List.lookup_cons]

theorem Phrase.member?_references_encode (phrase : Phrase) (name : String) :
    (phrase.encode.member? "references").bind (·.member? name) =
      (phrase.references.get? name).map (Json.ofOption .string) := by
  have written (key : String) : phrase.encode.member? key = _ := member?_ofMembers _ key
  rw [← Json.bind_member?_dictionaryValue?]
  simp [written, List.lookup_append, List.lookup_cons, lookup_dictionaryMember]

/-- Decoding undoes encoding. A reference without an argument is written as null, and one that is
not there is not written. -/
theorem lossless_codecs :
    Locale.codec.Lossless ∧ Project.codec.Lossless ∧ Category.codec.Lossless ∧
    Settings.codec.Lossless ∧
    ∀ (phrase : Phrase) (name : String),
      (phrase.encode.member? "references").bind (·.member? name) =
        (phrase.references.get? name).map (Json.ofOption .string) :=
  ⟨Locale.lossless, Project.lossless, Category.lossless, Settings.lossless,
    Phrase.member?_references_encode⟩

end Phrasebook
