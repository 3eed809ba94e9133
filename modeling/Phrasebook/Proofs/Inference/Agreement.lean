import Phrasebook.Proofs.Inference.Captures
import Phrasebook.Proofs.Inference.Outcome
import Phrasebook.Proofs.Message.Extents

/-!
# Where the pattern and the segments agree

Under the standard markers the pattern finds the keys of the interpolations of a message, in their
order (`Inferrer.captures_eq_interpolatedKeys`), if each interpolation is closed, no nesting has an
argument, and keys and formats are plain (`Segment.Tidy`). The pattern then adds no variable to
those of the segments and misses none.

The captures are followed from token to token. No match begins inside a token that is no opening
marker of an interpolation (`VariablePattern.capturesAt_of_tiled`), and the match that begins at
such a marker covers the tokens of its interpolation
(`VariablePattern.capturesAt_of_interpolation`).
-/

namespace Phrasebook

/-! ## Names and keys -/

namespace Text

theorem exists_eq_append_trim (text : List Char) : ∃ lead trail,
    text = lead ++ (trim text ++ trail) ∧ (∀ char ∈ lead, isBlank char = true) ∧
      ∀ char ∈ trail, isBlank char = true := by
  let behind := text.dropWhile isBlank
  refine ⟨text.takeWhile isBlank, (behind.reverse.takeWhile isBlank).reverse, ?_, ?_, ?_⟩
  · have trimmed : trim text ++ (behind.reverse.takeWhile isBlank).reverse = behind := by
      rw [trim, ← List.reverse_append, List.takeWhile_append_dropWhile, List.reverse_reverse]
    rw [trimmed, List.takeWhile_append_dropWhile]
  · intro char member
    exact List.mem_takeWhile_imp member
  · intro char member
    exact List.mem_takeWhile_imp (List.mem_reverse.1 member)

end Text

namespace VariablePattern

variable {pattern : VariablePattern} {text : String}

theorem isBlank_of_isName {char : Char} (named : pattern.isName char = true) :
    Text.isBlank char = false := by
  simp only [isName, Bool.and_eq_true, Bool.not_eq_true'] at named
  exact named.1.1

theorem takeWhile_isName_eq_trim {key rest : List Char}
    (named : ∀ char ∈ Text.trim key, pattern.isName char = true)
    (ended : ∀ next ∈ rest.head?, Text.isBlank next = false ∧ pattern.isName next = false) :
    ((key ++ rest).dropWhile Text.isBlank).takeWhile pattern.isName = Text.trim key := by
  obtain ⟨lead, trail, split, leadBlank, trailBlank⟩ := Text.exists_eq_append_trim key
  have restEnds : rest.takeWhile pattern.isName = [] ∧ rest.dropWhile Text.isBlank = rest := by
    cases rest with
    | nil => exact ⟨rfl, rfl⟩
    | cons next rest =>
      obtain ⟨visible, other⟩ := ended next rfl
      simp [visible, other]
  have trailEnds : (trail ++ rest).takeWhile pattern.isName = [] := by
    cases trail with
    | nil => exact restEnds.1
    | cons char trail =>
      have blank := trailBlank char List.mem_cons_self
      simp [isName, blank]
  have skipped : (key ++ rest).dropWhile Text.isBlank =
      (Text.trim key ++ (trail ++ rest)).dropWhile Text.isBlank := by
    conv_lhs => rw [split, List.append_assoc, List.append_assoc]
    exact List.dropWhile_append_of_pos leadBlank
  rw [skipped]
  cases trimmed : Text.trim key with
  | nil =>
    rw [List.nil_append, List.dropWhile_append_of_pos trailBlank, restEnds.2, restEnds.1]
  | cons first more =>
    rw [trimmed] at named
    have visible := isBlank_of_isName (named first List.mem_cons_self)
    rw [List.cons_append, List.dropWhile_cons_of_neg (by simp [visible]), ← List.cons_append,
      List.takeWhile_append_of_pos named, trailEnds, List.append_nil]

/-! ## Captures behind a position -/

def capturesAt (pattern : VariablePattern) (text : String) (position : Nat) : List Capture :=
  (Text.dropBytes? position text.toList).elim [] (pattern.capturesFrom 0 position)

theorem capturesAt_zero (pattern : VariablePattern) (text : String) :
    pattern.capturesAt text 0 = pattern.captures text := by
  simp [capturesAt, captures]

theorem capturesAt_eq {front rest : List Char} (split : text.toList = front ++ rest) :
    pattern.capturesAt text (Text.byteLength front) =
      pattern.capturesFrom 0 (Text.byteLength front) rest := by
  rw [capturesAt, Text.dropBytes?_eq_some_iff.2 ⟨front, split, rfl⟩, Option.elim_some]

theorem capturesAt_byteLength (pattern : VariablePattern) (text : String) :
    pattern.capturesAt text (Text.byteLength text.toList) = [] := by
  rw [capturesAt_eq (List.append_nil _).symm, capturesFrom]

theorem match?_of_not_begins {text : List Char} (unopened : ¬pattern.opener <+: text) :
    pattern.match? text = none := by
  rw [match?, if_neg (mt List.isPrefixOf_iff_prefix.1 unopened)]

theorem capturesFrom_append {part rest : List Char}
    (unopened : ∀ before char behind, part = before ++ char :: behind →
      ¬pattern.opener <+: char :: (behind ++ rest)) (position : Nat) :
    pattern.capturesFrom 0 position (part ++ rest) =
      pattern.capturesFrom 0 (position + Text.byteLength part) rest := by
  induction part generalizing position with
  | nil => rfl
  | cons char part ih =>
    have unmatched := match?_of_not_begins (unopened [] char part rfl)
    have behind := ih (fun before other behind split =>
      unopened (char :: before) other behind (by rw [split]; rfl)) (position + char.utf8Size)
    rw [List.cons_append, capturesFrom_of_match?_eq_none unmatched, behind, Text.byteLength_cons,
      Nat.add_assoc]

end VariablePattern

/-! ## The standard markers -/

namespace MarkerSettings

def standardPattern : VariablePattern := ⟨['\x7b', '\x7b'], some ',', '\x7d', ['\x7d']⟩

theorem ofSettings?_standard :
    VariablePattern.ofSettings? standard = some standardPattern := by decide

theorem markerSet_standard : standard.markerSet = ⟨MarkerSet.orderedMarkers⟩ :=
  MarkerSet.ofList_eq_of_perm (by decide) (by decide) (by decide)

theorem plain_standard : standard.markerSet.Plain := MarkerSet.plain_ofList (by decide)

theorem eq_of_kind_eq : ∀ marker ∈ standard.markerSet.markers,
    ∀ other ∈ standard.markerSet.markers, marker.kind = other.kind → marker = other := by
  rw [markerSet_standard]
  decide

theorem brace_not_mem : ∀ marker ∈ standard.markerSet.markers,
    marker.kind ≠ .interpolationOpener → '\x7b' ∉ marker.text.toList := by
  rw [markerSet_standard]
  decide

theorem mem_standard : ⟨"\x7b\x7b", .interpolationOpener⟩ ∈ standard.markerSet.markers ∧
    ⟨",", .formatSeparator⟩ ∈ standard.markerSet.markers ∧
    ⟨"\x7d\x7d", .interpolationCloser⟩ ∈ standard.markerSet.markers := by
  rw [markerSet_standard]
  decide

end MarkerSettings

namespace Token

open MarkerSettings

variable {text : String} {token : Token}

theorem Fits.exists_split {set : MarkerSet} (fits : token.Fits set text) :
    ∃ front behind, text.toList = front ++ (token.text.toList ++ behind) ∧
      Text.byteLength front = token.start ∧
      token.start + Text.byteLength token.text.toList = token.stop :=
  Text.slice?_eq_some_iff.1 fits.verbatim

theorem Fits.not_begins {set : MarkerSet} {marker : Marker} (fits : token.Fits set text)
    (literal : token.kind = .literal) (member : marker ∈ set.markers)
    {front before rest behind : List Char} {char : Char}
    (split : text.toList = front ++ (token.text.toList ++ behind))
    (starts : Text.byteLength front = token.start)
    (inside : token.text.toList = before ++ char :: rest) :
    ¬marker.text.toList <+: char :: (rest ++ behind) := by
  have whole : text.toList = (front ++ before) ++ char :: (rest ++ behind) := by
    simp [split, inside]
  rw [← Marker.beginsAt_iff whole]
  have stops := fits.stop_eq
  have positive : 0 < char.utf8Size := char.utf8Size_pos
  rw [inside] at stops
  simp only [Text.byteLength_append, Text.byteLength_cons] at stops ⊢
  apply fits.bare literal _ _ _ _ member <;> omega

theorem Fits.text_of_kind {marker : Marker} (fits : token.Fits standard.markerSet text)
    (member : marker ∈ standard.markerSet.markers) (same : token.kind = marker.kind) :
    token.text = marker.text := by
  obtain ⟨spoken, marked⟩ := plain_standard marker member
  rw [← same] at spoken marked
  exact congrArg Marker.text (eq_of_kind_eq _ (fits.known marked spoken) _ member same)

theorem Fits.not_mem {set : MarkerSet} {marker : Marker} {char : Char}
    (fits : token.Fits set text) (literal : token.kind = .literal)
    (member : marker ∈ set.markers) (single : marker.text.toList = [char]) :
    char ∉ token.text.toList := by
  intro inside
  obtain ⟨before, rest, cut⟩ := List.append_of_mem inside
  obtain ⟨front, behind, split, starts, -⟩ := fits.exists_split
  apply fits.not_begins literal member split starts cut
  rw [single]
  exact ⟨rest ++ behind, rfl⟩

theorem Fits.capturesAt (fits : token.Fits standard.markerSet text)
    (other : token.kind ≠ .interpolationOpener) (spoken : token.kind ≠ .endOfText) :
    standardPattern.capturesAt text token.start = standardPattern.capturesAt text token.stop := by
  obtain ⟨front, behind, split, starts, stops⟩ := fits.exists_split
  have whole : text.toList = (front ++ token.text.toList) ++ behind := by simpa using split
  have unopened : ∀ before char rest, token.text.toList = before ++ char :: rest →
      ¬standardPattern.opener <+: char :: (rest ++ behind) := by
    intro before char rest inside begins
    -- Plain text is free of markers, and no other marker has the character of the opening one.
    by_cases literal : token.kind = .literal
    · exact fits.not_begins literal mem_standard.1 split starts inside begins
    · obtain ⟨_, same⟩ := begins
      obtain ⟨rfl, -⟩ := List.cons.inj same
      apply brace_not_mem _ (fits.known literal spoken) other
      simp [inside]
  have skipped := VariablePattern.capturesFrom_append unopened (Text.byteLength front)
  rw [← starts, VariablePattern.capturesAt_eq split, skipped, ← Text.byteLength_append,
    ← VariablePattern.capturesAt_eq whole, Text.byteLength_append, starts, stops]

end Token

namespace VariablePattern

open MarkerSettings

variable {text : String}

theorem capturesAt_of_tiled {tokens : List Token} {start stop : Nat}
    (fits : ∀ token ∈ tokens, token.Fits standard.markerSet text)
    (spoken : Segment.Spoken tokens) (others : ∀ token ∈ tokens, token.kind ≠ .interpolationOpener)
    (tiled : Text.Tiles start stop (tokens.map Token.span)) :
    standardPattern.capturesAt text start = standardPattern.capturesAt text stop := by
  induction tokens generalizing start with
  | nil =>
    obtain rfl : start = stop := tiled
    rfl
  | cons token rest ih =>
    obtain ⟨rfl, -, tiled⟩ := tiled
    rw [List.forall_mem_cons] at fits others
    rw [Segment.spoken_cons] at spoken
    exact (fits.1.capturesAt others.1 spoken.1).trans (ih fits.2 spoken.2 others.2 tiled)

end VariablePattern

/-! ## Interpolations -/

namespace Segment

open MarkerSettings

variable {text : String}

/-- An interpolation stops behind its last part, so that it is closed, and its key and format are
plain. A nesting has no argument. -/
def Tidy : Segment → Prop
  | literal _ => True
  | interpolation opener key format? =>
    (format?.getD key).stop < opener.stop ∧ key.trimmed.toList.any Text.isBlank = false ∧
      '\x7d' ∉ key.trimmed.toList ∧ ∀ format ∈ format?, '\x7d' ∉ format.text.toList
  | nesting _ _ argument? => argument? = none

instance : DecidablePred Tidy
  | literal _ => inferInstanceAs (Decidable True)
  | interpolation opener key format? =>
    inferInstanceAs (Decidable ((format?.getD key).stop < opener.stop ∧
      key.trimmed.toList.any Text.isBlank = false ∧ '\x7d' ∉ key.trimmed.toList ∧
        ∀ format ∈ format?, '\x7d' ∉ format.text.toList))
  | nesting _ _ argument? => inferInstanceAs (Decidable (argument? = none))

theorem Formatting.plain {formatting : List Token} {format? : Option Token}
    (formats : Formatting formatting format?)
    (fits : ∀ token ∈ formatting, token.Fits standard.markerSet text)
    (plain : ∀ format ∈ format?, '\x7d' ∉ format.text.toList) :
    '\x7d' ∉ formatting.flatMap (·.text.toList) ∧
      ∀ next ∈ (formatting.flatMap (·.text.toList)).head?, next = ',' := by
  cases formats with
  | missing => simp
  | @present separator format separates literal =>
    have comma : separator.text = "," :=
      (fits separator (by simp)).text_of_kind mem_standard.2.1 separates
    simpa [comma] using plain format rfl

theorem Form.unopened {run : List Token} {segment : Segment} (form : Form run segment)
    (tidy : segment.Tidy) (other : segment.interpolatedKey? = none) :
    ∀ token ∈ run, token.kind ≠ .interpolationOpener := by
  cases form with
  | literal literal => simp [literal]
  | interpolation => cases other
  | nesting opens literal closes =>
    cases closes with
    | missing => simp [opens, literal]
    | present closes => simp [opens, literal, closes]
  | nestingWith => cases tidy

theorem Form.exists_split {run : List Token} {opener key : Token} {format? : Option Token}
    {start stop : Nat} (form : Form run (Segment.interpolation opener key format?))
    (fits : ∀ token ∈ run, token.Fits standard.markerSet text)
    (tiled : Text.Tiles start stop (run.map Token.span))
    (tidy : (Segment.interpolation opener key format?).Tidy) :
    ∃ front formatting behind,
      text.toList = front ++ (['\x7b', '\x7b'] ++
        (key.text.toList ++ formatting ++ ['\x7d', '\x7d']) ++ behind) ∧
      Text.byteLength front = start ∧
      start + Text.byteLength (['\x7b', '\x7b'] ++
        (key.text.toList ++ formatting ++ ['\x7d', '\x7d'])) = stop ∧
      ',' ∉ key.text.toList ∧ '\x7d' ∉ formatting ∧ ∀ next ∈ formatting.head?, next = ',' := by
  cases form with
  | @interpolation unclosed _ formatting closing _ _ opens literal formats closes =>
    obtain ⟨closed, -, -, plain⟩ := tidy
    have split := Token.slice?_join fits tiled
    obtain ⟨front, behind, split, starts, stops⟩ := Text.slice?_eq_some_iff.1 split
    simp only [List.map_cons, List.map_append, Text.Tiles, Text.tiles_append, Token.span] at tiled
    simp only [List.forall_mem_cons, List.forall_mem_append] at fits
    obtain ⟨unclosedFits, keyFits, formattingFits, closingFits⟩ := fits
    obtain ⟨-, -, neighbours, filled, middle, tiledFormatting, tiledClosing⟩ := tiled
    have opening : unclosed.text = "\x7b\x7b" := unclosedFits.text_of_kind mem_standard.1 opens
    obtain ⟨-, last⟩ := formats.spans formattingFits tiledFormatting
    cases closes with
    | missing =>
      -- The construct would stop with its opening marker, in front of the key.
      have ordered := tiledFormatting.le
      simp only at closed
      omega
    | @present closer closes =>
      have ending : closer.text = "\x7d\x7d" :=
        (closingFits closer (by simp)).text_of_kind mem_standard.2.2 closes
      obtain ⟨bare, starting⟩ := formats.plain formattingFits plain
      have whole := keyFits.not_mem literal mem_standard.2.1 rfl
      refine ⟨front, formatting.flatMap (·.text.toList), behind, ?_, starts, ?_, whole, bare,
        starting⟩
      · simpa [opening, ending, String.toList_join, List.flatMap_map] using split
      · simpa [opening, ending, String.toList_join, List.flatMap_map] using stops

theorem Tidy.isName {opener key : Token} {format? : Option Token}
    (tidy : (Segment.interpolation opener key format?).Tidy) (whole : ',' ∉ key.text.toList) :
    ∀ char ∈ Text.trim key.text.toList, standardPattern.isName char = true := by
  intro char member
  obtain ⟨-, unblank, plain, -⟩ := tidy
  rw [Token.trimmed, String.toList_ofList] at unblank plain
  have visible : Text.isBlank char = false := by simpa using List.any_eq_false.1 unblank char member
  have inside : char ≠ '\x7d' := ne_of_mem_of_not_mem member plain
  obtain ⟨lead, trail, split, -⟩ := Text.exists_eq_append_trim key.text.toList
  have other : char ≠ ',' := by
    rintro rfl
    apply whole
    rw [split]
    simp [member]
  simp [VariablePattern.isName, standardPattern, visible, inside, other]

theorem Tidy.stop_not_mem {opener key : Token} {format? : Option Token}
    (tidy : (Segment.interpolation opener key format?).Tidy) : '\x7d' ∉ key.text.toList := by
  obtain ⟨-, -, plain, -⟩ := tidy
  rw [Token.trimmed, String.toList_ofList] at plain
  obtain ⟨lead, trail, split, leadBlank, trailBlank⟩ := Text.exists_eq_append_trim key.text.toList
  rw [split, List.mem_append, List.mem_append]
  rintro (before | inside | behind)
  · exact absurd (leadBlank _ before) (by decide)
  · exact plain inside
  · exact absurd (trailBlank _ behind) (by decide)

theorem Form.capturesAt {run : List Token} {opener key : Token} {format? : Option Token}
    {start stop : Nat} (form : Form run (Segment.interpolation opener key format?))
    (fits : ∀ token ∈ run, token.Fits standard.markerSet text)
    (tiled : Text.Tiles start stop (run.map Token.span))
    (tidy : (Segment.interpolation opener key format?).Tidy) :
    standardPattern.capturesAt text start =
      ⟨start, stop, key.trimmed⟩ :: standardPattern.capturesAt text stop := by
  obtain ⟨front, formatting, behind, split, rfl, rfl, whole, bare, starting⟩ :=
    form.exists_split fits tiled tidy
  have ended : ∀ next ∈ (formatting ++ (standardPattern.closer ++ behind)).head?,
      Text.isBlank next = false ∧ standardPattern.isName next = false := by
    intro next first
    -- The key is followed by the separator of a format, or else by the closing marker.
    have mark : next = ',' ∨ next = '\x7d' := by
      cases formatting with
      | nil => exact .inr (Option.some.inj first).symm
      | cons char more => exact .inl (starting next first)
    rcases mark with rfl | rfl <;> decide
  have named := VariablePattern.takeWhile_isName_eq_trim (tidy.isName whole) ended
  rw [← List.append_assoc] at named
  have found : standardPattern.match? (['\x7b', '\x7b'] ++
      (key.text.toList ++ formatting ++ ['\x7d', '\x7d']) ++ behind) =
        some (Text.trim key.text.toList, behind) := by
    refine (VariablePattern.match?_eq_some_iff (by decide)).2 ⟨_, ?_, ?_, named.symm⟩
    · simp [standardPattern, VariablePattern.closer]
    · simp [standardPattern, tidy.stop_not_mem, bare]
  have passed : text.toList = (front ++ (['\x7b', '\x7b'] ++
      (key.text.toList ++ formatting ++ ['\x7d', '\x7d']))) ++ behind :=
    split.trans (List.append_assoc ..).symm
  rw [VariablePattern.capturesAt_eq split, ← Text.byteLength_append,
    VariablePattern.capturesAt_eq passed, Text.byteLength_append]
  exact VariablePattern.capturesFrom_of_match? (by simp) found _

theorem Derivation.names_capturesAt {tokens : List Token} {segments : List Segment} {start : Nat}
    (derivation : Derivation tokens segments)
    (fits : ∀ token ∈ tokens, token.Fits standard.markerSet text)
    (tiled : Text.Tiles start (Text.byteLength text.toList) (tokens.map Token.span))
    (tidy : ∀ segment ∈ segments, segment.Tidy) :
    (standardPattern.capturesAt text start).map (·.name) =
      segments.filterMap interpolatedKey? := by
  induction segments generalizing tokens start with
  | nil =>
    obtain rfl : tokens = [] := derivation
    obtain rfl : start = Text.byteLength text.toList := tiled
    rw [VariablePattern.capturesAt_byteLength]
    rfl
  | cons segment rest ih =>
    obtain ⟨run, behind, rfl, form, derivation⟩ := derivation
    rw [List.map_append, Text.tiles_append] at tiled
    obtain ⟨middle, tiledRun, tiledBehind⟩ := tiled
    rw [List.forall_mem_append] at fits
    rw [List.forall_mem_cons] at tidy
    have later := ih derivation fits.2 tiledBehind tidy.2
    cases other : segment.interpolatedKey? with
    | none =>
      rw [VariablePattern.capturesAt_of_tiled fits.1 form.spoken (form.unopened tidy.1 other)
        tiledRun, later, List.filterMap_cons_none other]
    | some name =>
      cases segment with
      | interpolation opener key format? =>
        obtain rfl := Option.some.inj other
        rw [form.capturesAt fits.1 tiledRun tidy.1, List.map_cons, later]
        rfl
      | _ => cases other

theorem Tidy.introduces_iff {segment : Segment} {name : String} (tidy : segment.Tidy) :
    segment.Introduces name ↔ segment.interpolatedKey? = some name ∧ name ≠ "" := by
  have unargued : segment.argument? = none := by
    cases segment with
    | nesting opener key argument? =>
      obtain rfl : argument? = none := tidy
      rfl
    | _ => rfl
  simp [Introduces, unargued]

end Segment

/-! ## Messages -/

attribute [ext] Inferred

theorem Inferred.foldl_withSegment_ofNames (site : MessageSite) {segments : List Segment}
    {names : List String} (introduced : ∀ name ∈ names, name ≠ "" →
      ∃ segment ∈ segments, segment.Introduces name) :
    segments.zipIdx.foldl (withSegment site segments) (ofNames names) =
      segments.zipIdx.foldl (withSegment site segments) (ofNames []) := by
  have suitable : ∀ names, Example.Suitable
      (segments.zipIdx.foldl (withSegment site segments) (ofNames names)).examples := fun names =>
    List.foldlRecOn (motive := fun inferred : Inferred => Example.Suitable inferred.examples) _ _
      (closed_suitable.ofNames names) fun _ former entry _ =>
        closed_suitable.withSegment former site segments entry
  apply Inferred.ext
  · refine (suitable names).ext (suitable []) fun name => ?_
    simp only [isSome_examples_foldl_withSegment, isSome_examples_ofNames, List.not_mem_nil,
      false_and, false_or]
    exact or_iff_right_of_imp fun ⟨member, filled⟩ => introduced name member filled
  · apply Dictionary.ext_get?
    intro name
    simp only [get?_references_foldl_withSegment]
    rfl
  · simp only [warnings_foldl_withSegment]
    rfl

theorem Inferrer.ofSettings?_standard : ofSettings? .standard =
    some ⟨MarkerSettings.standard.markerSet, MarkerSettings.standardPattern⟩ := by
  rw [ofSettings?, MarkerSettings.ofSettings?_standard]
  rfl

/-- Under the standard markers the pattern finds the keys of the interpolations, in their order. So
it adds nothing to what the segments let infer, and finds all of the variables. -/
theorem Inferrer.captures_eq_interpolatedKeys {inferrer : Inferrer} {site : MessageSite}
    {segments : List Segment} (standard : ofSettings? .standard = some inferrer)
    (parsed : inferrer.markers.parse site.text = .ok segments)
    (tidy : ∀ segment ∈ segments, segment.Tidy) :
    let names := (inferrer.pattern.captures site.text).map (·.name)
    names = segments.filterMap Segment.interpolatedKey? ∧
      inferrer.infer site =
        segments.zipIdx.foldl (Inferred.withSegment site segments) (.ofNames []) ∧
      (inferrer.infer site).examples = (Inferred.ofNames names).examples := by
  intro names
  have inferred : inferrer.infer site =
      segments.zipIdx.foldl (Inferred.withSegment site segments) (.ofNames names) := by
    simp only [infer, parsed]
    rfl
  have keys : names = segments.filterMap Segment.interpolatedKey? := by
    obtain rfl := Option.some.inj (ofSettings?_standard.symm.trans standard)
    obtain ⟨tokens, derivation, tiled, fits⟩ :=
      MarkerSet.exists_derivation_of_parse MarkerSettings.plain_standard parsed
    rw [← derivation.names_capturesAt fits tiled tidy, VariablePattern.capturesAt_zero]
  have introduces : ∀ name, (∃ segment ∈ segments, segment.Introduces name) ↔
      name ∈ names ∧ name ≠ "" := by
    intro name
    rw [keys, List.mem_filterMap]
    constructor
    · rintro ⟨segment, member, introduced⟩
      obtain ⟨keyed, filled⟩ := (tidy segment member).introduces_iff.1 introduced
      exact ⟨⟨segment, member, keyed⟩, filled⟩
    · rintro ⟨⟨segment, member, keyed⟩, filled⟩
      exact ⟨segment, member, (tidy segment member).introduces_iff.2 ⟨keyed, filled⟩⟩
  refine ⟨keys, ?_, ?_⟩
  · rw [inferred]
    exact Inferred.foldl_withSegment_ofNames site fun name member filled =>
      (introduces name).2 ⟨member, filled⟩
  · have suitable := Inferred.closed_suitable.ofNames names
    refine (inferrer.suitable_infer site).ext suitable fun name => ?_
    rw [inferred, Inferred.isSome_examples_foldl_withSegment, Inferred.isSome_examples_ofNames,
      introduces, or_self]

theorem Inferrer.braces_captures_eq_interpolatedKeys :
    let site : MessageSite := ⟨"menu", "hint",
      "\x7b\x7b\x7ba \x7d\x7d\x7då\x7b\x7b , f(\x7d\x7d$t(k\x7b\x7b\u3000é\x7d\x7d"⟩
    let inferrer : Inferrer :=
      ⟨MarkerSettings.standard.markerSet, MarkerSettings.standardPattern⟩
    let segments := [
      .interpolation ⟨.interpolationOpener, "\x7b\x7b", 0, 7⟩ ⟨.literal, "\x7ba ", 2, 5⟩ none,
      .literal ⟨.literal, "\x7då", 7, 10⟩,
      .interpolation ⟨.interpolationOpener, "\x7b\x7b", 10, 19⟩ ⟨.literal, " ", 12, 13⟩
        (some ⟨.literal, " f(", 14, 17⟩),
      .nesting ⟨.nestingOpener, "$t(", 19, 22⟩ ⟨.literal, "k", 22, 23⟩ none,
      .interpolation ⟨.interpolationOpener, "\x7b\x7b", 23, 32⟩ ⟨.literal, "\u3000é", 25, 30⟩
        none]
    ofSettings? .standard = some inferrer ∧ inferrer.markers.parse site.text = .ok segments ∧
      (∀ segment ∈ segments, segment.Tidy) ∧
      (inferrer.pattern.captures site.text).map (·.name) = ["\x7ba", "", "é"] ∧
      inferrer.infer site =
        segments.zipIdx.foldl (Inferred.withSegment site segments) (.ofNames []) ∧
      (inferrer.infer site).examples = (Inferred.ofNames ["\x7ba", "", "é"]).examples := by
  intro site inferrer segments
  have standard : ofSettings? .standard = some inferrer := ofSettings?_standard
  have tokens : inferrer.markers.tokenize site.text = [
      ⟨.interpolationOpener, "\x7b\x7b", 0, 2⟩, ⟨.literal, "\x7ba ", 2, 5⟩,
      ⟨.interpolationCloser, "\x7d\x7d", 5, 7⟩, ⟨.literal, "\x7då", 7, 10⟩,
      ⟨.interpolationOpener, "\x7b\x7b", 10, 12⟩, ⟨.literal, " ", 12, 13⟩,
      ⟨.formatSeparator, ",", 13, 14⟩, ⟨.literal, " f(", 14, 17⟩,
      ⟨.interpolationCloser, "\x7d\x7d", 17, 19⟩, ⟨.nestingOpener, "$t(", 19, 22⟩,
      ⟨.literal, "k", 22, 23⟩, ⟨.interpolationOpener, "\x7b\x7b", 23, 25⟩,
      ⟨.literal, "\u3000é", 25, 30⟩, ⟨.interpolationCloser, "\x7d\x7d", 30, 32⟩,
      Token.endAt 32] := by
    simp only [inferrer, MarkerSettings.markerSet_standard]
    decide
  have parsed : inferrer.markers.parse site.text = .ok segments := by
    rw [MarkerSet.parse, tokens]
    refine segments_eq_ok_iff.2 ⟨?_, by decide⟩
    exact ⟨[_, _, _], _, rfl, .interpolation rfl rfl .missing (.present rfl),
      [_], _, rfl, .literal rfl,
      [_, _, _, _, _], _, rfl, .interpolation rfl rfl (.present rfl rfl) (.present rfl),
      [_, _], _, rfl, .nesting rfl rfl .missing,
      [_, _, _], _, rfl, .interpolation rfl rfl .missing (.present rfl), rfl⟩
  have tidy : ∀ segment ∈ segments, segment.Tidy := by decide
  have laws := captures_eq_interpolatedKeys standard parsed tidy
  have keys : segments.filterMap Segment.interpolatedKey? = ["\x7ba", "", "é"] := by decide
  simp only [keys] at laws
  obtain ⟨names, inferred, examples⟩ := laws
  exact ⟨standard, parsed, tidy, names, inferred, by rw [examples, names]⟩

end Phrasebook
