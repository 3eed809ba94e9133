import Phrasebook.Proofs.Inference.Keys

namespace Phrasebook

/-! ## Quotes -/

def escapeQuotes (text : List Char) : List Char :=
  text.flatMap fun char => if char = '"' then ['\\', '"'] else [char]

theorem bareQuotes_cons {char : Char} {rest : List Char}
    (apart : ¬['\\', '"'] <+: char :: rest) :
    bareQuotes (char :: rest) = char :: bareQuotes rest := by
  rw [bareQuotes]
  rintro behind rfl rfl
  exact apart ⟨behind, rfl⟩

theorem bareQuotes_eq_self {text : List Char} (bare : ¬['\\', '"'] <:+: text) :
    bareQuotes text = text := by
  induction text with
  | nil => rfl
  | cons char rest ih =>
    rw [List.infix_cons_iff, not_or] at bare
    rw [bareQuotes_cons bare.1, ih bare.2]

theorem head?_escapeQuotes_ne (text : List Char) :
    ∀ next ∈ (escapeQuotes text).head?, next ≠ '"' := by
  intro next first
  cases text with
  | nil => cases first
  | cons char rest =>
    by_cases quote : char = '"'
    · obtain rfl : '\\' = next := by simpa [escapeQuotes, quote] using first
      decide
    · obtain rfl : char = next := by simpa [escapeQuotes, quote] using first
      exact quote

theorem bareQuotes_escapeQuotes (text : List Char) : bareQuotes (escapeQuotes text) = text := by
  induction text with
  | nil => rfl
  | cons char rest ih =>
    by_cases quote : char = '"'
    · subst quote
      have escaped : escapeQuotes ('"' :: rest) = '\\' :: '"' :: escapeQuotes rest := rfl
      rw [escaped, bareQuotes, ih]
    · have kept : escapeQuotes (char :: rest) = char :: escapeQuotes rest := by
        simp [escapeQuotes, quote]
      have apart : ¬['\\', '"'] <+: char :: escapeQuotes rest := by
        rintro ⟨behind, split⟩
        have first := head?_escapeQuotes_ne rest '"'
        rw [← (List.cons.inj split).2] at first
        exact first rfl rfl
      rw [kept, bareQuotes_cons apart, ih]

/-! ## Objects -/

def IsObject (text : String) (names : List String) : Prop :=
  ∃ members, Json.whole (Json.Shape.map Json.Shape.any Json.nestingLimit) text =
    .ok (.object members) ∧ members.map (·.1) = names

instance (text : String) (names : List String) : Decidable (IsObject text names) :=
  decidable_of_iff ((objectOf text).toOption.map (·.map (·.1)) = some names) <| by
    simp only [IsObject, ← objectOf_eq_ok_iff_whole]
    cases objectOf text <;> simp [Except.toOption]

def trimmedText (text : String) : String := String.ofList (Text.trim text.toList)

section Decoding

variable {argument text : String} {names : List String}

theorem isObject_of_bare (object : IsObject (trimmedText argument) names)
    (bare : ¬['\\', '"'] <:+: (trimmedText argument).toList) :
    IsObject (argumentText argument) names := by
  rw [trimmedText, String.toList_ofList] at bare
  rwa [argumentText, bareQuotes_eq_self bare]

theorem isObject_of_escaped (object : IsObject text names)
    (escaped : (trimmedText argument).toList = escapeQuotes text.toList) :
    IsObject (argumentText argument) names := by
  rw [trimmedText, String.toList_ofList] at escaped
  rwa [argumentText, escaped, bareQuotes_escapeQuotes, String.ofList_toList]

end Decoding

namespace Segment

variable {site : MessageSite} {all : List Segment} {segment : Segment} {index : Nat}

theorem argumentWarnings_eq_nil_iff {argument : String} :
    argumentWarnings argument = [] ↔ ∃ members, Decodes argument members := by
  rw [exists_decodes_iff]
  rcases argumentWarnings_cases argument with ⟨read, silent⟩ | ⟨unread, warning, warned, -⟩
  · simp [read, silent]
  · simp [unread, warned]

theorem exists_tellsUnreadArgument_iff :
    (∃ warning ∈ segment.warnings site all index, warning.TellsUnreadArgument) ↔
      segment.Undecoded := by
  rw [warnings_eq]
  constructor
  · rintro ⟨warning, member, tells⟩
    rcases List.mem_append.1 member with unread | blank
    · cases argued : segment.argument? with
      | none => simp [argued] at unread
      | some argument =>
        refine ⟨argument, argued, fun decoded => ?_⟩
        rw [argued, Option.elim_some, argumentWarnings_eq_nil_iff.2 decoded] at unread
        cases unread
    · have tellsBlank := (tellsBlankKey_of_blankKeyWarning? (Option.mem_toList.1 blank)).1
      exact absurd tellsBlank tells.not_tellsBlankKey
  · rintro ⟨argument, argued, undecoded⟩
    obtain ⟨warning, warned⟩ :=
      List.exists_mem_of_ne_nil _ (mt argumentWarnings_eq_nil_iff.1 undecoded)
    have member : warning ∈ segment.argument?.elim [] argumentWarnings := by
      rwa [Option.mem_def.1 argued, Option.elim_some]
    exact ⟨warning, List.mem_append_left _ member, tellsUnreadArgument_of_mem member⟩

end Segment

/-! ## Messages -/

namespace Inferrer

def Understands (inferrer : Inferrer) (site : MessageSite) (segments : List Segment)
    (entry : Segment × Nat) (names : List String) : Prop :=
  (∀ name ∈ names, (inferrer.infer site).examples.get? name = some (Example.forName name)) ∧
    ∀ warning ∈ entry.1.warnings site segments entry.2, ¬warning.TellsUnreadArgument

def UnderstandsObjects (inferrer : Inferrer) (site : MessageSite) : Prop :=
  ∀ segments, inferrer.markers.parse site.text = .ok segments → ∀ entry ∈ segments.zipIdx,
    ∀ argument ∈ entry.1.argument?, ∀ names, IsObject (trimmedText argument) names →
      inferrer.Understands site segments entry names

variable {inferrer : Inferrer} {site : MessageSite} {segments : List Segment}

section Arguments

variable {entry : Segment × Nat} {argument : String}

theorem exists_tellsUnreadArgument_iff_of_argument? (argued : argument ∈ entry.1.argument?) :
    (∃ warning ∈ entry.1.warnings site segments entry.2, warning.TellsUnreadArgument) ↔
      ¬∃ names, IsObject (argumentText argument) names := by
  rw [Segment.exists_tellsUnreadArgument_iff]
  constructor
  · rintro ⟨other, again, undecoded⟩ ⟨names, members, read, -⟩
    obtain rfl := Option.mem_unique argued again
    exact undecoded ⟨members, read⟩
  · intro unread
    exact ⟨argument, argued, fun ⟨members, read⟩ => unread ⟨_, members, read, rfl⟩⟩

theorem understands_of_isObject (parsed : inferrer.markers.parse site.text = .ok segments)
    (member : entry ∈ segments.zipIdx) (argued : argument ∈ entry.1.argument?)
    {names : List String} (object : IsObject (argumentText argument) names) :
    inferrer.Understands site segments entry names := by
  constructor
  · intro name among
    obtain ⟨members, read, rfl⟩ := object
    have introduced : ((inferrer.infer site).examples.get? name).isSome := by
      simp only [infer, parsed, Inferred.isSome_examples_foldl_withSegment]
      exact .inr ⟨entry.1, List.fst_mem_of_mem_zipIdx member,
        .inr ⟨argument, argued, members, read, among⟩⟩
    obtain ⟨shown, found⟩ := Option.isSome_iff_exists.1 introduced
    rw [found, inferrer.suitable_infer site name shown found]
  · intro warning warned tells
    exact (exists_tellsUnreadArgument_iff_of_argument? argued).1 ⟨warning, warned, tells⟩
      ⟨names, object⟩

end Arguments

/-- An argument gives a warning that it is not read if and only if it is no object without the
backslashes in front of its quotes. If it is one, its keys become variables. This is so for the
objects that have no quote behind a backslash, as they stand, and for all objects if a backslash is
put in front of each quote. -/
theorem infer_arguments (parsed : inferrer.markers.parse site.text = .ok segments) :
    (inferrer.infer site).warnings =
        (segments.zipIdx.flatMap fun entry => entry.1.warnings site segments entry.2) ∧
      ∀ entry ∈ segments.zipIdx, ∀ argument ∈ entry.1.argument?,
        ((∃ warning ∈ entry.1.warnings site segments entry.2, warning.TellsUnreadArgument) ↔
          ¬∃ names, IsObject (argumentText argument) names) ∧
        ∀ names, IsObject (argumentText argument) names ∨
            (IsObject (trimmedText argument) names ∧
              ¬['\\', '"'] <:+: (trimmedText argument).toList) ∨
            (∃ text, IsObject text names ∧
              (trimmedText argument).toList = escapeQuotes text.toList) →
          inferrer.Understands site segments entry names := by
  refine ⟨warnings_infer parsed, fun entry member argument argued =>
    ⟨exists_tellsUnreadArgument_iff_of_argument? argued, ?_⟩⟩
  rintro names (object | ⟨object, bare⟩ | ⟨text, object, escaped⟩)
  · exact understands_of_isObject parsed member argued object
  · exact understands_of_isObject parsed member argued (isObject_of_bare object bare)
  · exact understands_of_isObject parsed member argued (isObject_of_escaped object escaped)

theorem twoObjects_infer_arguments :
    let inferrer : Inferrer :=
      ⟨MarkerSettings.standard.markerSet, MarkerSettings.standardPattern⟩
    let site : MessageSite := ⟨"menu", "hint",
      "$t(a,\x7b\"n\":\"\\t\"\x7d)$t(b,\x7b\\\"m\\\":\\\"\\\\\"\\\"\x7d)"⟩
    let plain : Segment := .nesting ⟨.nestingOpener, "$t(", 0, 16⟩ ⟨.literal, "a", 3, 4⟩
      (some ⟨.literal, "\x7b\"n\":\"\\t\"\x7d", 5, 15⟩)
    let escaped : Segment := .nesting ⟨.nestingOpener, "$t(", 16, 37⟩ ⟨.literal, "b", 19, 20⟩
      (some ⟨.literal, "\x7b\\\"m\\\":\\\"\\\\\"\\\"\x7d", 21, 36⟩)
    inferrer.markers.parse site.text = .ok [plain, escaped] ∧
      inferrer.Understands site [plain, escaped] (plain, 0) ["n"] ∧
      inferrer.Understands site [plain, escaped] (escaped, 1) ["m"] := by
  intro inferrer site plain escaped
  have tokens : inferrer.markers.tokenize site.text = [
      ⟨.nestingOpener, "$t(", 0, 3⟩, ⟨.literal, "a", 3, 4⟩, ⟨.formatSeparator, ",", 4, 5⟩,
      ⟨.literal, "\x7b\"n\":\"\\t\"\x7d", 5, 15⟩, ⟨.nestingCloser, ")", 15, 16⟩,
      ⟨.nestingOpener, "$t(", 16, 19⟩, ⟨.literal, "b", 19, 20⟩, ⟨.formatSeparator, ",", 20, 21⟩,
      ⟨.literal, "\x7b\\\"m\\\":\\\"\\\\\"\\\"\x7d", 21, 36⟩, ⟨.nestingCloser, ")", 36, 37⟩,
      Token.endAt 37] := by
    simp only [inferrer, MarkerSettings.markerSet_standard]
    decide
  have parsed : inferrer.markers.parse site.text = .ok [plain, escaped] := by
    rw [MarkerSet.parse, tokens]
    refine segments_eq_ok_iff.2 ⟨?_, by decide⟩
    exact ⟨[_, _, _, _, _], _, rfl, .nestingWith rfl rfl rfl (.singleton rfl) rfl,
      [_, _, _, _, _], _, rfl, .nestingWith rfl rfl rfl (.singleton rfl) rfl, rfl⟩
  have plainObject : IsObject (trimmedText "\x7b\"n\":\"\\t\"\x7d") ["n"] := by decide +kernel
  have bare : ¬['\\', '"'] <:+: (trimmedText "\x7b\"n\":\"\\t\"\x7d").toList := by decide +kernel
  have escapedObject : IsObject "\x7b\"m\":\"\\\"\"\x7d" ["m"] := by decide +kernel
  have escapes : (trimmedText "\x7b\\\"m\\\":\\\"\\\\\"\\\"\x7d").toList =
      escapeQuotes "\x7b\"m\":\"\\\"\"\x7d".toList := by decide +kernel
  obtain ⟨-, laws⟩ := infer_arguments parsed
  obtain ⟨-, ofPlain⟩ := laws (plain, 0) List.mem_cons_self _ rfl
  obtain ⟨-, ofEscaped⟩ := laws (escaped, 1) (List.mem_cons_of_mem _ List.mem_cons_self) _ rfl
  exact ⟨parsed, ofPlain _ (.inr (.inl ⟨plainObject, bare⟩)),
    ofEscaped _ (.inr (.inr ⟨_, escapedObject, escapes⟩))⟩

/-- The text of an object has a quote, which has a backslash in front of it already. -/
theorem quotedNote_not_understandsObjects :
    ¬UnderstandsObjects ⟨MarkerSettings.standard.markerSet, MarkerSettings.standardPattern⟩
      ⟨"menu", "hint", "$t(greeting, \x7b\"note\":\"say \\\"hi\\\"\"\x7d)"⟩ := by
  intro understands
  let argument := " \x7b\"note\":\"say \\\"hi\\\"\"\x7d"
  let segment : Segment := .nesting ⟨.nestingOpener, "$t(", 0, 35⟩
    ⟨.literal, "greeting", 3, 11⟩ (some ⟨.literal, argument, 12, 34⟩)
  have tokens : MarkerSettings.standard.markerSet.tokenize
      "$t(greeting, \x7b\"note\":\"say \\\"hi\\\"\"\x7d)" = [
        ⟨.nestingOpener, "$t(", 0, 3⟩, ⟨.literal, "greeting", 3, 11⟩,
        ⟨.formatSeparator, ",", 11, 12⟩, ⟨.literal, argument, 12, 34⟩,
        ⟨.nestingCloser, ")", 34, 35⟩, Token.endAt 35] := by
    simp only [MarkerSettings.markerSet_standard]
    decide
  have parsed : MarkerSettings.standard.markerSet.parse
      "$t(greeting, \x7b\"note\":\"say \\\"hi\\\"\"\x7d)" = .ok [segment] := by
    rw [MarkerSet.parse, tokens]
    refine segments_eq_ok_iff.2 ⟨?_, by decide⟩
    exact ⟨[_, _, _, _, _], _, rfl, .nestingWith rfl rfl rfl (.singleton rfl) rfl, rfl⟩
  have object : IsObject (trimmedText argument) ["note"] := by decide +kernel
  obtain ⟨-, silent⟩ := understands _ parsed (segment, 0) List.mem_cons_self argument rfl _ object
  have undecoded : segment.Undecoded := by decide +kernel
  obtain ⟨warning, warned, tells⟩ := Segment.exists_tellsUnreadArgument_iff.2 undecoded
  exact silent warning warned tells

end Inferrer

end Phrasebook
