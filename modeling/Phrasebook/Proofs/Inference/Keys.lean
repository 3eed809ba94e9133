import Phrasebook.Proofs.Inference.Agreement

namespace Phrasebook

namespace Warning

variable {warning : Warning}

def Begins (warning : Warning) (text : String) : Prop := text.toList <+: warning.message.toList

instance (text : String) : Decidable (warning.Begins text) :=
  inferInstanceAs (Decidable (_ <+: _))

theorem begins_of_message_eq {text rest : String} (message : warning.message = text ++ rest) :
    warning.Begins text := by
  rw [Begins, message, String.toList_append]
  exact List.prefix_append _ _

theorem Begins.not_begins {text other : String} (begins : warning.Begins text)
    (apart : ¬text.toList <+: other.toList ∧ ¬other.toList <+: text.toList) :
    ¬warning.Begins other :=
  fun otherBegins => (List.prefix_or_prefix_of_prefix begins otherBegins).elim apart.1 apart.2

def TellsBlankKey (warning : Warning) : Prop :=
  warning.Begins "Attempted to infer references, but the key was empty. " ∨
    warning.Begins "Attempted to infer variables, but the key was empty. "

instance : DecidablePred TellsBlankKey := fun _ => inferInstanceAs (Decidable (_ ∨ _))

def TellsMissingKey (warning : Warning) : Prop :=
  warning.Begins "Attempted to infer references, but the node had no key. " ∨
    warning.Begins "Attempted to infer variables, but the node had no key. "

def TellsUnreadArgument (warning : Warning) : Prop :=
  warning.message = "Attempted to interpret the token-arguments as json, but encountered an error"

theorem TellsUnreadArgument.begins (tells : warning.TellsUnreadArgument) :
    warning.Begins "Attempted to interpret" := by
  rw [Begins, tells]
  decide

theorem TellsUnreadArgument.not_tellsBlankKey (tells : warning.TellsUnreadArgument) :
    ¬warning.TellsBlankKey := by
  rintro (ofReference | ofVariable)
  · exact tells.begins.not_begins (by decide) ofReference
  · exact tells.begins.not_begins (by decide) ofVariable

theorem TellsUnreadArgument.not_tellsMissingKey (tells : warning.TellsUnreadArgument) :
    ¬warning.TellsMissingKey := by
  rintro (ofReference | ofVariable)
  · exact tells.begins.not_begins (by decide) ofReference
  · exact tells.begins.not_begins (by decide) ofVariable

theorem TellsBlankKey.not_tellsMissingKey (tells : warning.TellsBlankKey) :
    ¬warning.TellsMissingKey := by
  rintro (ofReference | ofVariable)
  · rcases tells with begins | begins <;> exact begins.not_begins (by decide) ofReference
  · rcases tells with begins | begins <;> exact begins.not_begins (by decide) ofVariable

end Warning

namespace Segment

def subject? : Segment → Option String
  | literal _ => none
  | interpolation _ _ _ => some "variables"
  | nesting _ _ _ => some "references"

def blankKeyWarning? (site : MessageSite) (all : List Segment) (index : Nat) (segment : Segment) :
    Option Warning :=
  if segment.HasBlankKey then
    segment.subject?.map fun subject => site.blankKey subject all segment.token index
  else none

variable (site : MessageSite) (all : List Segment)

theorem warnings_eq (segment : Segment) (index : Nat) : segment.warnings site all index =
    segment.argument?.elim [] argumentWarnings ++
      (segment.blankKeyWarning? site all index).toList := by
  cases segment with
  | literal token => rfl
  | interpolation opener key format? =>
    by_cases blank : key.trimmed = "" <;>
      simp [warnings, blankKeyWarning?, HasBlankKey, key?, subject?, argument?, token, blank]
  | nesting opener key argument? =>
    by_cases blank : key.trimmed = "" <;> cases argument? <;>
      simp [warnings, blankKeyWarning?, HasBlankKey, key?, subject?, Segment.argument?, token,
        blank]

variable {site all} {segment : Segment} {index : Nat} {warning : Warning}

theorem tellsUnreadArgument_of_mem {argument? : Option String}
    (member : warning ∈ argument?.elim [] argumentWarnings) : warning.TellsUnreadArgument := by
  cases argument? with
  | none => cases member
  | some argument =>
    simp only [Option.elim_some, argumentWarnings, Inferred.withArgument] at member
    split at member
    · rw [Inferred.warnings_withNewVariables] at member
      cases member
    · obtain rfl := List.mem_singleton.1 member
      rfl

theorem tellsBlankKey_of_blankKeyWarning?
    (warned : segment.blankKeyWarning? site all index = some warning) :
    warning.TellsBlankKey ∧ warning.kind = .variableProblem ∧ warning.level = .minor := by
  simp only [blankKeyWarning?, Option.ite_none_right_eq_some, Option.map_eq_some_iff] at warned
  obtain ⟨-, subject, called, rfl⟩ := warned
  refine ⟨?_, rfl, rfl⟩
  have message : (site.blankKey subject all segment.token index).message =
      s!"Attempted to infer {subject}, but the key was empty. " ++
        site.describe segment.token index := rfl
  cases segment with
  | literal token => cases called
  | interpolation _ _ _ =>
    cases called
    exact .inr (Warning.begins_of_message_eq message)
  | nesting _ _ _ =>
    cases called
    exact .inl (Warning.begins_of_message_eq message)

theorem filter_tellsBlankKey_warnings (segment : Segment) (index : Nat) :
    (segment.warnings site all index).filter (·.TellsBlankKey) =
      (segment.blankKeyWarning? site all index).toList := by
  have unread : (segment.argument?.elim [] argumentWarnings).filter (·.TellsBlankKey) = [] := by
    refine List.filter_eq_nil_iff.2 fun warning member => ?_
    simpa using (tellsUnreadArgument_of_mem member).not_tellsBlankKey
  have blank : (segment.blankKeyWarning? site all index).toList.filter (·.TellsBlankKey) =
      (segment.blankKeyWarning? site all index).toList := by
    refine List.filter_eq_self.2 fun warning member => ?_
    simpa using (tellsBlankKey_of_blankKeyWarning? (Option.mem_toList.1 member)).1
  rw [warnings_eq, List.filter_append, unread, blank, List.nil_append]

theorem filter_tellsBlankKey (segments : List Segment) (index : Nat) :
    ((segments.zipIdx index).flatMap fun entry =>
        entry.1.warnings site all entry.2).filter (·.TellsBlankKey) =
      (segments.zipIdx index).filterMap fun entry =>
        entry.1.blankKeyWarning? site all entry.2 := by
  rw [List.filter_flatMap, List.filterMap_eq_flatMap_toList]
  simp only [filter_tellsBlankKey_warnings]

theorem not_tellsMissingKey_of_mem_warnings (member : warning ∈ segment.warnings site all index) :
    ¬warning.TellsMissingKey := by
  rw [warnings_eq] at member
  rcases List.mem_append.1 member with unread | blank
  · exact (tellsUnreadArgument_of_mem unread).not_tellsMissingKey
  · exact (tellsBlankKey_of_blankKeyWarning? (Option.mem_toList.1 blank)).1.not_tellsMissingKey

/-! ## Kinds -/

def blankKeyKind? (segment : Segment) : Option WarningKind :=
  if segment.nestedKey? = some "" then some .referenceProblem
  else if segment.interpolatedKey? = some "" then some .variableProblem
  else none

theorem blankKeyKind?_eq_referenceProblem_iff :
    segment.blankKeyKind? = some .referenceProblem ↔ segment.nestedKey? = some "" := by
  unfold blankKeyKind?
  by_cases nested : segment.nestedKey? = some ""
  · simp [nested]
  · by_cases interpolated : segment.interpolatedKey? = some "" <;> simp [nested, interpolated]

theorem map_kind_blankKeyWarning? (segment : Segment) (index : Nat) :
    (segment.blankKeyWarning? site all index).map (·.kind) =
      segment.blankKeyKind?.map fun _ => .variableProblem := by
  have plain (subject : String) :
      (site.blankKey subject all segment.token index).kind = .variableProblem := rfl
  cases segment with
  | literal token => rfl
  | interpolation opener key format? =>
    by_cases blank : key.trimmed = "" <;>
      simp [blankKeyWarning?, HasBlankKey, key?, subject?, blankKeyKind?, nestedKey?,
        interpolatedKey?, blank, plain]
  | nesting opener key argument? =>
    by_cases blank : key.trimmed = "" <;>
      simp [blankKeyWarning?, HasBlankKey, key?, subject?, blankKeyKind?, nestedKey?,
        interpolatedKey?, blank, plain]

theorem map_kind_filterMap_blankKeyWarning? (segments : List Segment) (index : Nat) :
    ((segments.zipIdx index).filterMap fun entry =>
        entry.1.blankKeyWarning? site all entry.2).map (·.kind) =
      (segments.filterMap blankKeyKind?).map fun _ => .variableProblem := by
  simp only [List.map_filterMap, map_kind_blankKeyWarning?]
  conv_rhs => rw [← List.zipIdx_map_fst index segments, List.filterMap_map]
  rfl

end Segment

/-! ## Messages -/

namespace Inferrer

/-- Each blank key gives one warning, in the order of the segments. Its kind tells whether the key
is that of a reference or of a variable. No key is missing. -/
def TagsByConstruct (inferrer : Inferrer) (site : MessageSite) : Prop :=
  ∀ segments, inferrer.markers.parse site.text = .ok segments →
    let warnings := (inferrer.infer site).warnings
    (warnings.filter (·.TellsBlankKey)).map (·.kind) =
        segments.filterMap Segment.blankKeyKind? ∧
      ∀ warning ∈ warnings, ¬warning.TellsMissingKey

variable {inferrer : Inferrer} {site : MessageSite} {segments : List Segment}

theorem warnings_infer (parsed : inferrer.markers.parse site.text = .ok segments) :
    (inferrer.infer site).warnings =
      segments.zipIdx.flatMap fun entry => entry.1.warnings site segments entry.2 := by
  simp only [infer, parsed, Inferred.warnings_foldl_withSegment]
  rfl

theorem filter_tellsBlankKey_infer (parsed : inferrer.markers.parse site.text = .ok segments) :
    (inferrer.infer site).warnings.filter (·.TellsBlankKey) =
      segments.zipIdx.filterMap fun entry =>
        entry.1.blankKeyWarning? site segments entry.2 := by
  rw [warnings_infer parsed, Segment.filter_tellsBlankKey]

theorem not_tellsMissingKey_of_mem_infer
    (parsed : inferrer.markers.parse site.text = .ok segments) :
    ∀ warning ∈ (inferrer.infer site).warnings, ¬warning.TellsMissingKey := by
  intro warning member
  rw [warnings_infer parsed] at member
  obtain ⟨entry, -, warned⟩ := List.mem_flatMap.1 member
  exact Segment.not_tellsMissingKey_of_mem_warnings warned

theorem tagsByConstruct_iff (parsed : inferrer.markers.parse site.text = .ok segments) :
    inferrer.TagsByConstruct site ↔ ∀ segment ∈ segments, segment.nestedKey? ≠ some "" := by
  have kinds : ((inferrer.infer site).warnings.filter (·.TellsBlankKey)).map (·.kind) =
      (segments.filterMap Segment.blankKeyKind?).map fun _ => .variableProblem := by
    rw [filter_tellsBlankKey_infer parsed, Segment.map_kind_filterMap_blankKeyWarning?]
  constructor
  · intro tags segment member nested
    have suited := Segment.blankKeyKind?_eq_referenceProblem_iff.2 nested
    have among : WarningKind.referenceProblem ∈ segments.filterMap Segment.blankKeyKind? :=
      List.mem_filterMap.2 ⟨segment, member, suited⟩
    rw [← (tags segments parsed).1, kinds] at among
    obtain ⟨-, -, same⟩ := List.mem_map.1 among
    cases same
  · intro unnested others again
    obtain rfl := Except.ok.inj (parsed.symm.trans again)
    refine ⟨?_, not_tellsMissingKey_of_mem_infer parsed⟩
    rw [kinds]
    have plain : ∀ kind ∈ segments.filterMap Segment.blankKeyKind?,
        WarningKind.variableProblem = kind := by
      intro kind among
      obtain ⟨segment, member, suited⟩ := List.mem_filterMap.1 among
      cases kind with
      | variableProblem => rfl
      | referenceProblem =>
        exact absurd (Segment.blankKeyKind?_eq_referenceProblem_iff.1 suited)
          (unnested segment member)
    rw [List.map_congr_left plain, List.map_id']

/-- Each construct of a message has a key, and each blank key gives one warning, which is minor, in
the order of the segments. These warnings are all of the kind for variables. So their kinds are
right if and only if no reference has a blank key. -/
theorem infer_blankKeys (parsed : inferrer.markers.parse site.text = .ok segments) :
    let warnings := (inferrer.infer site).warnings
    (∀ segment ∈ segments, segment.token.kind ≠ .literal →
        ∃ key ∈ segment.key?, key.kind = .literal) ∧
      (∀ warning ∈ warnings, ¬warning.TellsMissingKey) ∧
      (warnings.filter (·.TellsBlankKey) = segments.zipIdx.filterMap fun entry =>
        entry.1.blankKeyWarning? site segments entry.2) ∧
      (∀ warning ∈ warnings, warning.TellsBlankKey →
        warning.kind = .variableProblem ∧ warning.level = .minor) ∧
      (inferrer.TagsByConstruct site ↔
        ∀ segment ∈ segments, segment.nestedKey? ≠ some "") := by
  refine ⟨?_, not_tellsMissingKey_of_mem_infer parsed, filter_tellsBlankKey_infer parsed, ?_,
    tagsByConstruct_iff parsed⟩
  · intro segment member composite
    obtain ⟨run, form⟩ := (segments_eq_ok_iff.1 parsed).1.exists_form member
    exact form.exists_key composite
  · intro warning member tells
    have among : warning ∈ (inferrer.infer site).warnings.filter (·.TellsBlankKey) :=
      List.mem_filter.2 ⟨member, decide_eq_true tells⟩
    rw [filter_tellsBlankKey_infer parsed] at among
    obtain ⟨entry, -, warned⟩ := List.mem_filterMap.1 among
    exact (Segment.tellsBlankKey_of_blankKeyWarning? warned).2

theorem namelessVariable_infer_blankKeys :
    let inferrer : Inferrer :=
      ⟨MarkerSettings.standard.markerSet, MarkerSettings.standardPattern⟩
    let site : MessageSite := ⟨"menu", "hint", "\x7b\x7b \x7d\x7d$t(k,v)"⟩
    let opener : Token := ⟨.interpolationOpener, "\x7b\x7b", 0, 5⟩
    let segments := [
      .interpolation opener ⟨.literal, " ", 2, 3⟩ none,
      .nesting ⟨.nestingOpener, "$t(", 5, 12⟩ ⟨.literal, "k", 8, 9⟩
        (some ⟨.literal, "v", 10, 11⟩)]
    let warnings := (inferrer.infer site).warnings
    inferrer.markers.parse site.text = .ok segments ∧
      (∀ warning ∈ warnings, ¬warning.TellsMissingKey) ∧
      warnings.filter (·.TellsBlankKey) = [site.blankKey "variables" segments opener 0] ∧
      inferrer.TagsByConstruct site := by
  intro inferrer site opener segments warnings
  have tokens : inferrer.markers.tokenize site.text = [
      ⟨.interpolationOpener, "\x7b\x7b", 0, 2⟩, ⟨.literal, " ", 2, 3⟩,
      ⟨.interpolationCloser, "\x7d\x7d", 3, 5⟩, ⟨.nestingOpener, "$t(", 5, 8⟩,
      ⟨.literal, "k", 8, 9⟩, ⟨.formatSeparator, ",", 9, 10⟩, ⟨.literal, "v", 10, 11⟩,
      ⟨.nestingCloser, ")", 11, 12⟩, Token.endAt 12] := by
    simp only [inferrer, MarkerSettings.markerSet_standard]
    decide
  have parsed : inferrer.markers.parse site.text = .ok segments := by
    rw [MarkerSet.parse, tokens]
    refine segments_eq_ok_iff.2 ⟨?_, by decide⟩
    exact ⟨[_, _, _], _, rfl, .interpolation rfl rfl .missing (.present rfl),
      [_, _, _, _, _], _, rfl, .nestingWith rfl rfl rfl (.singleton rfl) rfl, rfl⟩
  obtain ⟨-, unmissed, told, -, tags⟩ := infer_blankKeys parsed
  exact ⟨parsed, unmissed, told, tags.2 (by decide)⟩

/-- A reference without a key is warned of as if it were a variable. -/
theorem namelessReference_not_tagsByConstruct :
    ¬Inferrer.TagsByConstruct ⟨MarkerSettings.standard.markerSet, MarkerSettings.standardPattern⟩
      ⟨"menu", "hint", "$t( )"⟩ := by
  have tokens : MarkerSettings.standard.markerSet.tokenize "$t( )" = [
      ⟨.nestingOpener, "$t(", 0, 3⟩, ⟨.literal, " ", 3, 4⟩, ⟨.nestingCloser, ")", 4, 5⟩,
      Token.endAt 5] := by
    simp only [MarkerSettings.markerSet_standard]
    decide
  have parsed : MarkerSettings.standard.markerSet.parse "$t( )" =
      .ok [.nesting ⟨.nestingOpener, "$t(", 0, 5⟩ ⟨.literal, " ", 3, 4⟩ none] := by
    rw [MarkerSet.parse, tokens]
    refine segments_eq_ok_iff.2 ⟨?_, by decide⟩
    exact ⟨[_, _, _], _, rfl, .nesting rfl rfl (.present rfl), rfl⟩
  rw [tagsByConstruct_iff parsed]
  decide

end Inferrer

end Phrasebook
