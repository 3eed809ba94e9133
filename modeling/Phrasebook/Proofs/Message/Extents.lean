import Phrasebook.Proofs.Message.Reading
import Phrasebook.Proofs.Message.Tokens

namespace Phrasebook

variable {set : MarkerSet} {text : String}

def MarkerSet.Spans (set : MarkerSet) (text : String) (kinds : TokenKind → Bool)
    (start stop : Nat) : Prop :=
  ∃ marker ∈ set.markers, kinds marker.kind = true ∧ marker.BeginsAt text start ∧
    stop = start + Text.byteLength marker.text.toList

namespace Token

def Verbatim (token : Token) (text : String) : Prop :=
  Text.slice? token.start token.stop text.toList = some token.text.toList

theorem Fits.spans {token : Token} {kinds : TokenKind → Bool} (fits : token.Fits set text)
    (marked : token.kind ≠ .literal) (spoken : token.kind ≠ .endOfText)
    (kind : kinds token.kind = true) : set.Spans text kinds token.start token.stop :=
  ⟨⟨token.text, token.kind⟩, fits.known marked spoken, kind, fits.beginsAt, fits.stop_eq⟩

theorem slice?_join {first : Token} {more : List Token} {start stop : Nat}
    (fits : ∀ token ∈ first :: more, token.Fits set text)
    (tiled : Text.Tiles start stop ((first :: more).map span)) :
    Text.slice? start stop text.toList =
      some (String.join ((first :: more).map (·.text))).toList := by
  obtain ⟨rfl, -, tiled⟩ := tiled
  have verbatim := (fits first List.mem_cons_self).verbatim
  induction more generalizing first with
  | nil =>
    obtain rfl : first.stop = stop := tiled
    simpa [span] using verbatim
  | cons next more ih =>
    have behind : ∀ token ∈ next :: more, token.Fits set text := fun token member =>
      fits token (List.mem_cons_of_mem _ member)
    obtain ⟨starts, -, tiled⟩ := tiled
    have rest := ih behind tiled (behind next List.mem_cons_self).verbatim
    rw [starts] at rest
    simpa [String.toList_join, span] using Text.slice?_append verbatim rest

end Token

namespace Segment

def extent (segment : Segment) : Nat × Nat :=
  (segment.token.start, max segment.token.stop
    (max ((segment.key?.map (·.stop)).getD 0) ((segment.detail?.map (·.stop)).getD 0)))

/-- The parts of a construct stand in a text: its key right behind the opening marker, and a detail
behind the key and one separator. The construct stops with its opening marker, or else with a
closing marker right behind its last part. -/
structure Assembled (set : MarkerSet) (text : String) (separates : TokenKind → Bool)
    (closer : TokenKind) (opener key : Token) (detail? : Option Token) : Prop where
  known : ⟨opener.text, opener.kind⟩ ∈ set.markers
  begins : Marker.BeginsAt ⟨opener.text, opener.kind⟩ text opener.start
  keyed : key.start = opener.start + Text.byteLength opener.text.toList
  verbatim : key.Verbatim text
  detailed : ∀ detail ∈ detail?,
    detail.Verbatim text ∧ set.Spans text separates key.stop detail.start
  closed : opener.stop = opener.start + Text.byteLength opener.text.toList ∨
    set.Spans text (· = closer) (detail?.getD key).stop opener.stop

def Stands (set : MarkerSet) (text : String) : Segment → Prop
  | literal token => token.kind = .literal ∧ token.Verbatim text
  | interpolation opener key format? =>
    opener.kind = .interpolationOpener ∧
      Assembled set text (· = .formatSeparator) .interpolationCloser opener key format?
  | nesting opener key argument? =>
    opener.kind = .nestingOpener ∧
      Assembled set text isSeparator .nestingCloser opener key argument?

/-! ## Extents -/

theorem Argument.span_eq {run : List Token} {argument : Token} {start stop : Nat}
    (argues : Argument run argument) (tiled : Text.Tiles start stop (run.map Token.span)) :
    argument.span = (start, stop) := by
  cases argues with
  | @intro first more =>
    have last := tiled.getLast (by simp)
    rw [List.getLast_map] at last
    exact Prod.ext tiled.1 last

theorem Form.extent_eq {run : List Token} {segment : Segment} {start stop : Nat}
    (form : Form run segment) (tiled : Text.Tiles start stop (run.map Token.span)) :
    segment.extent = (start, stop) := by
  cases form with
  | literal =>
    simp only [List.map_cons, List.map_nil, Text.Tiles, Token.span] at tiled
    simp only [extent, token, key?, detail?, Option.map_none, Option.getD_none, Prod.mk.injEq]
    omega
  | interpolation _ _ formats closes =>
    cases formats <;> cases closes <;>
      · simp only [List.map_cons, List.map_nil, List.cons_append, List.nil_append, Text.Tiles,
          Token.span] at tiled
        simp only [extent, token, key?, detail?, Option.map_some, Option.map_none,
          Option.getD_some, Option.getD_none, Prod.mk.injEq]
        omega
  | nesting _ _ closes =>
    cases closes <;>
      · simp only [List.map_cons, List.map_nil, Text.Tiles, Token.span] at tiled
        simp only [extent, token, key?, detail?, Option.map_some, Option.map_none,
          Option.getD_some, Option.getD_none, Prod.mk.injEq]
        omega
  | @nestingWith opener key separator closer argument run _ _ _ argues _ =>
    simp only [List.map_cons, List.map_append, Text.Tiles, Text.tiles_append, Token.span] at tiled
    obtain ⟨starts, _, keyed, _, separated, _, middle, tiledRun, closes, _, closed⟩ := tiled
    have argued : argument.stop = middle := congrArg Prod.snd (argues.span_eq tiledRun)
    have ordered := tiledRun.le
    simp only [List.map_nil, Text.Tiles] at closed
    simp only [extent, token, key?, detail?, Option.map_some, Option.getD_some, Prod.mk.injEq]
    omega

theorem Derivation.tiles {tokens : List Token} {segments : List Segment} {start stop : Nat}
    (derivation : Derivation tokens segments)
    (tiled : Text.Tiles start stop (tokens.map Token.span)) :
    Text.Tiles start stop (segments.map extent) := by
  induction segments generalizing tokens start with
  | nil =>
    obtain rfl : tokens = [] := derivation
    exact tiled
  | cons segment rest ih =>
    obtain ⟨run, behind, rfl, form, derivation⟩ := derivation
    rw [List.map_append, Text.tiles_append] at tiled
    obtain ⟨middle, tiledRun, tiledBehind⟩ := tiled
    rw [List.map_cons, form.extent_eq tiledRun]
    exact ⟨rfl, tiledRun.le, ih derivation tiledBehind⟩

/-! ## Parts -/

theorem Argument.verbatim {run : List Token} {argument : Token} {start stop : Nat}
    (argues : Argument run argument) (fits : ∀ token ∈ run, token.Fits set text)
    (tiled : Text.Tiles start stop (run.map Token.span)) : argument.Verbatim text := by
  obtain ⟨starts, stops⟩ := Prod.mk.inj (argues.span_eq tiled)
  rw [Token.Verbatim, starts, stops]
  cases argues with
  | intro => exact Token.slice?_join fits tiled

theorem Closing.spans {closer : TokenKind} {closing : List Token} {plain last stop finish : Nat}
    (closes : Closing closer plain closing stop) (marked : closer ≠ .literal)
    (spoken : closer ≠ .endOfText) (fits : ∀ token ∈ closing, token.Fits set text)
    (tiled : Text.Tiles last finish (closing.map Token.span)) :
    stop = plain ∨ set.Spans text (· = closer) last stop := by
  cases closes with
  | missing => exact .inl rfl
  | @present token kind =>
    right
    obtain ⟨rfl, -, -⟩ := tiled
    exact (fits token List.mem_cons_self).spans (kind ▸ marked) (kind ▸ spoken) (by simp [kind])

theorem Formatting.spans {formatting : List Token} {format? : Option Token} {key : Token}
    {middle : Nat} (formats : Formatting formatting format?)
    (fits : ∀ token ∈ formatting, token.Fits set text)
    (tiled : Text.Tiles key.stop middle (formatting.map Token.span)) :
    (∀ format ∈ format?, format.Verbatim text ∧
      set.Spans text (· = .formatSeparator) key.stop format.start) ∧
    (format?.getD key).stop = middle := by
  cases formats with
  | missing => exact ⟨by simp, tiled⟩
  | @present separator format separates literal =>
    simp only [List.map_cons, Text.Tiles, Token.span] at tiled
    obtain ⟨starts, -, behind, -, stops⟩ := tiled
    have spans : set.Spans text (· = .formatSeparator) separator.start separator.stop :=
      (fits separator (by simp)).spans (by simp [separates]) (by simp [separates])
        (by simp [separates])
    refine ⟨?_, stops⟩
    intro shown member
    obtain rfl : format = shown := Option.some.inj member
    rw [starts, ← behind] at spans
    exact ⟨(fits format (by simp)).verbatim, spans⟩

theorem assembled_of_neighbours {separates : TokenKind → Bool} {closer : TokenKind}
    {opener key : Token} {detail? : Option Token} {stop : Nat}
    (marked : opener.kind ≠ .literal) (spoken : opener.kind ≠ .endOfText)
    (openerFits : opener.Fits set text) (keyFits : key.Fits set text)
    (neighbours : key.start = opener.stop)
    (detailed : ∀ detail ∈ detail?,
      detail.Verbatim text ∧ set.Spans text separates key.stop detail.start)
    (closed : stop = opener.stop ∨ set.Spans text (· = closer) (detail?.getD key).stop stop) :
    Assembled set text separates closer { opener with stop } key detail? where
  known := openerFits.known marked spoken
  begins := openerFits.beginsAt
  keyed := neighbours.trans openerFits.stop_eq
  verbatim := keyFits.verbatim
  detailed := detailed
  closed := closed.imp_left (·.trans openerFits.stop_eq)

theorem Form.stands {run : List Token} {segment : Segment} {start stop : Nat}
    (form : Form run segment) (fits : ∀ token ∈ run, token.Fits set text)
    (tiled : Text.Tiles start stop (run.map Token.span)) : segment.Stands set text := by
  cases form with
  | literal literal => exact ⟨literal, (fits _ List.mem_cons_self).verbatim⟩
  | @interpolation opener key formatting closing _ _ opens literal formats closes =>
    simp only [List.map_cons, List.map_append, Text.Tiles, Text.tiles_append, Token.span] at tiled
    obtain ⟨-, -, neighbours, -, middle, tiledFormatting, tiledClosing⟩ := tiled
    simp only [List.forall_mem_cons, List.forall_mem_append] at fits
    obtain ⟨openerFits, keyFits, formattingFits, closingFits⟩ := fits
    obtain ⟨detailed, rfl⟩ := formats.spans formattingFits tiledFormatting
    have closed := closes.spans (by decide) (by decide) closingFits tiledClosing
    exact ⟨opens, assembled_of_neighbours (by simp [opens]) (by simp [opens]) openerFits keyFits
      neighbours detailed closed⟩
  | @nesting opener key closing _ opens literal closes =>
    simp only [List.map_cons, Text.Tiles, Token.span] at tiled
    obtain ⟨-, -, neighbours, -, tiledClosing⟩ := tiled
    simp only [List.forall_mem_cons] at fits
    obtain ⟨openerFits, keyFits, closingFits⟩ := fits
    have closed := closes.spans (by decide) (by decide) closingFits tiledClosing
    exact ⟨opens, assembled_of_neighbours (by simp [opens]) (by simp [opens]) openerFits keyFits
      neighbours (by simp) closed⟩
  | @nestingWith opener key separator closer argument run opens literal separates argues closes =>
    simp only [List.map_cons, List.map_append, Text.Tiles, Text.tiles_append, Token.span] at tiled
    obtain ⟨-, -, neighbours, -, separated, -, middle, tiledRun, closed, -, -⟩ := tiled
    simp only [List.forall_mem_cons, List.forall_mem_append] at fits
    obtain ⟨openerFits, keyFits, separatorFits, runFits, closerFits, -⟩ := fits
    obtain ⟨starts, stops⟩ := Prod.mk.inj (argues.span_eq tiledRun)
    have plain : separator.kind ≠ .literal := fun same => by simp [same, isSeparator] at separates
    have separatorSpans : set.Spans text isSeparator separator.start separator.stop :=
      separatorFits.spans plain (ne_endOfText_of_isSeparator separates) separates
    have closerSpans : set.Spans text (· = .nestingCloser) closer.start closer.stop :=
      closerFits.spans (by simp [closes]) (by simp [closes]) (by simp [closes])
    -- The argument covers its run, so that both markers are its neighbours.
    rw [separated, ← starts] at separatorSpans
    rw [closed, ← stops] at closerSpans
    refine ⟨opens, assembled_of_neighbours (by simp [opens]) (by simp [opens]) openerFits keyFits
      neighbours ?_ (.inr closerSpans)⟩
    intro shown member
    obtain rfl : argument = shown := Option.some.inj member
    exact ⟨argues.verbatim runFits tiledRun, separatorSpans⟩

theorem Derivation.stands {tokens : List Token} {segments : List Segment} {start stop : Nat}
    (derivation : Derivation tokens segments) (fits : ∀ token ∈ tokens, token.Fits set text)
    (tiled : Text.Tiles start stop (tokens.map Token.span)) :
    ∀ segment ∈ segments, segment.Stands set text := by
  induction segments generalizing tokens start with
  | nil => simp
  | cons segment rest ih =>
    obtain ⟨run, behind, rfl, form, derivation⟩ := derivation
    rw [List.map_append, Text.tiles_append] at tiled
    obtain ⟨middle, tiledRun, tiledBehind⟩ := tiled
    rw [List.forall_mem_append] at fits
    rw [List.forall_mem_cons]
    exact ⟨form.stands fits.1 tiledRun, ih derivation fits.2 tiledBehind⟩

end Segment

namespace MarkerSet

theorem exists_derivation_of_parse {given : List Marker} (plain : (ofList given).Plain)
    {text : String} {segments : List Segment} (parsed : (ofList given).parse text = .ok segments) :
    ∃ tokens, Segment.Derivation tokens segments ∧
      Text.Tiles 0 (Text.byteLength text.toList) (tokens.map Token.span) ∧
      ∀ token ∈ tokens, token.Fits (ofList given) text := by
  obtain ⟨derivation, -⟩ := segments_eq_ok_iff.1 parsed
  have made := tokenization_tokenize (canonical_ofList given) plain text
  obtain ⟨front, split, spoken⟩ := made.ended
  have tiled := made.tiled
  have fits := made.fits
  rw [split, List.map_append, Text.tiles_append] at tiled
  rw [split, List.forall_mem_append] at fits
  obtain ⟨middle, tiledFront, tiledEnd⟩ := tiled
  obtain rfl : Text.byteLength text.toList = middle := tiledEnd.1
  have before : Segment.untilEnd ((ofList given).tokenize text) = front := by
    rw [split, Segment.untilEnd_append spoken]
    simp [Segment.untilEnd, Token.endAt]
  rw [before] at derivation
  exact ⟨front, derivation, tiledFront, fits.1⟩

/-- The segments that are read in a text tile it, and each one stands in the text as its parts
say. -/
theorem parse_tiles {given : List Marker} (plain : (ofList given).Plain) {text : String}
    {segments : List Segment} (parsed : (ofList given).parse text = .ok segments) :
    Text.Tiles 0 (Text.byteLength text.toList) (segments.map Segment.extent) ∧
      ∀ segment ∈ segments, segment.Stands (ofList given) text := by
  obtain ⟨tokens, derivation, tiled, fits⟩ := exists_derivation_of_parse plain parsed
  exact ⟨derivation.tiles tiled, derivation.stands fits tiled⟩

def orderedMarkers : List Marker :=
  [⟨"$t(", .nestingOpener⟩, ⟨"\x7b\x7b", .interpolationOpener⟩,
    ⟨"\x7d\x7d", .interpolationCloser⟩, ⟨")", .nestingCloser⟩, ⟨",", .formatSeparator⟩]

theorem orderedMarkers_parse_tiles :
    let text := "å$t(k,a,)\x7b\x7bm"
    let segments := [.literal ⟨.literal, "å", 0, 2⟩,
      .nesting ⟨.nestingOpener, "$t(", 2, 10⟩ ⟨.literal, "k", 5, 6⟩
        (some ⟨.literal, "a,", 7, 9⟩),
      .interpolation ⟨.interpolationOpener, "\x7b\x7b", 10, 12⟩ ⟨.literal, "m", 12, 13⟩ none]
    (ofList orderedMarkers).Plain ∧ (ofList orderedMarkers).parse text = .ok segments ∧
      Text.Tiles 0 13 [(0, 2), (2, 10), (10, 13)] ∧
      ∀ segment ∈ segments, segment.Stands (ofList orderedMarkers) text := by
  intro text segments
  have plain : (ofList orderedMarkers).Plain := plain_ofList (by decide)
  have tokens : (ofList orderedMarkers).tokenize text =
      [⟨.literal, "å", 0, 2⟩, ⟨.nestingOpener, "$t(", 2, 5⟩, ⟨.literal, "k", 5, 6⟩,
        ⟨.formatSeparator, ",", 6, 7⟩, ⟨.literal, "a", 7, 8⟩, ⟨.formatSeparator, ",", 8, 9⟩,
        ⟨.nestingCloser, ")", 9, 10⟩, ⟨.interpolationOpener, "\x7b\x7b", 10, 12⟩,
        ⟨.literal, "m", 12, 13⟩, Token.endAt 13] := by
    rw [ofList_eq_of_ordered (by decide) (by decide)]
    decide
  have argues : Segment.Argument [⟨.literal, "a", 7, 8⟩, ⟨.formatSeparator, ",", 8, 9⟩]
      ⟨.literal, "a,", 7, 9⟩ := .intro rfl (by decide)
  have closed : Segment.Form
      [⟨.nestingOpener, "$t(", 2, 5⟩, ⟨.literal, "k", 5, 6⟩, ⟨.formatSeparator, ",", 6, 7⟩,
        ⟨.literal, "a", 7, 8⟩, ⟨.formatSeparator, ",", 8, 9⟩, ⟨.nestingCloser, ")", 9, 10⟩]
      (.nesting ⟨.nestingOpener, "$t(", 2, 10⟩ ⟨.literal, "k", 5, 6⟩
        (some ⟨.literal, "a,", 7, 9⟩)) := .nestingWith rfl rfl rfl argues rfl
  have unclosed : Segment.Form
      [⟨.interpolationOpener, "\x7b\x7b", 10, 12⟩, ⟨.literal, "m", 12, 13⟩]
      (.interpolation ⟨.interpolationOpener, "\x7b\x7b", 10, 12⟩ ⟨.literal, "m", 12, 13⟩
        none) := .interpolation rfl rfl .missing .missing
  have parsed : (ofList orderedMarkers).parse text = .ok segments := by
    rw [parse, tokens]
    refine segments_eq_ok_iff.2 ⟨?_, by decide⟩
    exact ⟨[⟨.literal, "å", 0, 2⟩], _, rfl, .literal rfl, _, _, rfl, closed, _, _, rfl,
      unclosed, rfl⟩
  have size : Text.byteLength text.toList = 13 := by decide
  have extents : segments.map Segment.extent = [(0, 2), (2, 10), (10, 13)] := by decide
  have tiles := parse_tiles plain parsed
  rw [extents, size] at tiles
  exact ⟨plain, parsed, tiles⟩

end MarkerSet

end Phrasebook
