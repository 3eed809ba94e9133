import Phrasebook.Proofs.Message.Extents
import Phrasebook.Proofs.Message.Faults
import Phrasebook.Proofs.Text.Boundaries

namespace Phrasebook

/-! ## Tokens of any kind -/

theorem Token.verbatim_pendingLiteral {text : String} {front pending rest : List Char}
    (split : text.toList = front ++ (pending.reverse ++ rest)) :
    ∀ token ∈ Token.pendingLiteral pending (Text.byteLength front + Text.byteLength pending),
      token.Verbatim text := by
  intro token member
  unfold pendingLiteral at member
  split at member
  · cases member
  · obtain rfl := List.mem_singleton.1 member
    exact Text.slice?_eq_some_iff.2 ⟨front, rest, by simpa using split, by simp, by simp⟩

theorem MarkerSet.verbatim_ofCutsFrom {set : MarkerSet} (canonical : set.Canonical)
    {text : String} {front pending rest : List Char}
    (split : text.toList = front ++ (pending.reverse ++ rest)) :
    ∀ token ∈ Token.ofCutsFrom pending (Text.byteLength front + Text.byteLength pending)
      (set.cuts rest), token.Verbatim text := by
  induction rest using canonical.induction_on_cuts generalizing front pending with
  | nil =>
    have whole : Text.byteLength front + Text.byteLength pending = Text.byteLength text.toList := by
      simp [split]
    intro token member
    rcases List.mem_append.1 member with literal | ended
    · exact Token.verbatim_pendingLiteral split token literal
    · obtain rfl := List.mem_singleton.1 ended
      exact Text.slice?_eq_some_iff.2
        ⟨text.toList, [], by simp [Token.endAt], whole.symm, by simp [Token.endAt]⟩
  | char char rest unmatched ih =>
    rw [cuts_of_match?_eq_none unmatched, Token.ofCutsFrom, Nat.add_assoc,
      Nat.add_comm (Text.byteLength pending), ← Text.byteLength_cons]
    exact ih (by simpa using split)
  | marker marker rest found ih =>
    have filled : marker.text ≠ "" := canonical.filled marker (mem_of_match? found)
    have passed : text.toList = (front ++ pending.reverse) ++ (marker.text.toList ++ rest) := by
      rw [split, List.append_assoc]
    rw [cuts_of_match? filled found, Token.ofCutsFrom]
    intro token member
    rcases List.mem_append.1 member with literal | member
    · exact Token.verbatim_pendingLiteral split token literal
    · rcases List.mem_cons.1 member with rfl | later
      · exact Text.slice?_eq_some_iff.2 ⟨_, rest, passed, by simp, rfl⟩
      · have step : text.toList =
            (front ++ pending.reverse ++ marker.text.toList) ++ ([].reverse ++ rest) := by
          simpa using passed
        have made := ih step
        simp only [Text.byteLength_append, Text.byteLength_reverse, Text.byteLength_nil,
          Nat.add_zero] at made
        exact made token later

theorem MarkerSet.verbatim_tokenize {set : MarkerSet} (canonical : set.Canonical) (text : String) :
    ∀ token ∈ set.tokenize text, token.Verbatim text := by
  have split : text.toList = [] ++ ([].reverse ++ text.toList) := rfl
  exact verbatim_ofCutsFrom canonical split

/-! ## Tokens out of place -/

namespace Segment

theorem takeSegment_eq_unexpected {source : String} {previous? before? : Option TokenKind}
    {token : Token} {tokens : List Token} {found : TokenKind} {text shown : String}
    {start stop : Nat}
    (failed : takeSegment source previous? token tokens =
      .error (.unexpectedToken found text before? shown start stop)) :
    token.text = text ∧ token.start = start ∧ token.stop = stop ∧
      shown = excerpt source start stop := by
  cases kind : token.kind with
  | literal => simp [takeSegment, kind] at failed
  | interpolationOpener =>
    rw [takeSegment_of_interpolation kind] at failed
    obtain ⟨_, _, _, _, broken⟩ := broken_of_takeInterpolation rfl kind failed
    cases broken
  | nestingOpener =>
    rw [takeSegment_of_nesting kind] at failed
    obtain ⟨_, _, _, _, broken⟩ := broken_of_takeNesting rfl kind failed
    cases broken
  | endOfText | interpolationCloser | nestingCloser | formatSeparator | nestingSeparator =>
    simp only [takeSegment, kind, Except.error.injEq, MessageFault.unexpectedToken.injEq] at failed
    obtain ⟨-, rfl, -, rfl, rfl, rfl⟩ := failed
    exact ⟨rfl, rfl, rfl, rfl⟩

theorem segmentsFrom_eq_unexpected {source : String} {count : Nat}
    {previous? before? : Option TokenKind} {tokens : List Token} {found : TokenKind}
    {text shown : String} {start stop : Nat}
    (failed : segmentsFrom source count previous? tokens =
      .error (.unexpectedToken found text before? shown start stop)) :
    ∃ token ∈ tokens, token.text = text ∧ token.start = start ∧ token.stop = stop ∧
      shown = excerpt source start stop := by
  fun_induction segmentsFrom source count previous? tokens with
  | case1 => cases failed
  | case2 => cases failed
  | case3 => cases failed
  | case4 count previous? token rest spoken room fault stuck =>
    cases failed
    exact ⟨token, List.mem_cons_self, takeSegment_eq_unexpected stuck⟩
  | case5 count previous? token rest spoken room segment rest' taken ih =>
    -- What is left behind the segment is the end of the tokens, so that the token is one of them.
    obtain ⟨run, rfl⟩ := (local_takeSegment source previous? token).split taken
    cases others : segmentsFrom source (count + 1) (some segment.token.kind) rest' with
    | ok segments =>
      rw [others] at failed
      cases failed
    | error other =>
      rw [others] at failed
      cases failed
      obtain ⟨stray, member, whole⟩ := ih others
      exact ⟨stray, .tail _ (List.mem_append_right run member), whole⟩

end Segment

/-! ## Excerpts -/

/-- The bounds of an excerpt: the last boundary at most ten bytes in front of a place or at the
start of the text, and the first one at least ten bytes behind it or at the end. Each is found from
there byte by byte, without a step out of the text. -/
structure ExcerptBounds (text : List Char) (start stop first last : Nat) : Prop where
  descends : Text.Descends text (start - 10) first
  greatest : IsGreatest {boundary | Text.IsBoundary text boundary ∧ boundary ≤ start - 10} first
  ascends : Text.Ascends text (min (stop + 10) (Text.byteLength text)) last
  least : IsLeast {boundary | Text.IsBoundary text boundary ∧
    min (stop + 10) (Text.byteLength text) ≤ boundary} last

theorem excerptBounds (text : List Char) (start stop : Nat) :
    ExcerptBounds text start stop (Text.boundaryBelow (start - 10) text)
      (Text.boundaryAbove (min (stop + 10) (Text.byteLength text)) text) := by
  have greatest := Text.isGreatest_boundaryBelow (start - 10) text
  have least := Text.isLeast_boundaryAbove (Nat.min_le_right (stop + 10) (Text.byteLength text))
  exact ⟨Text.descends_of_isGreatest greatest, greatest, Text.ascends_of_isLeast least, least⟩

namespace ExcerptBounds

variable {text : List Char} {start stop first last : Nat}

theorem first_le (bounds : ExcerptBounds text start stop first last) : first ≤ start :=
  Nat.le_trans bounds.greatest.1.2 (Nat.sub_le _ _)

theorem le_last (bounds : ExcerptBounds text start stop first last)
    (within : stop ≤ Text.byteLength text) : stop ≤ last := by
  have above := bounds.least.1.2
  omega

end ExcerptBounds

theorem exists_excerpt_eq (source : String) (start stop : Nat) :
    ∃ first last before behind, ExcerptBounds source.toList start stop first last ∧
      Text.IsPart source.toList first start before ∧ Text.IsPart source.toList start last behind ∧
      excerpt source start stop = String.ofList before ++ " ¦ " ++ String.ofList behind :=
  ⟨_, _, _, _, excerptBounds source.toList start stop, Text.isPart_getD _ _ _,
    Text.isPart_getD _ _ _, rfl⟩

theorem excerpt_of_verbatim {source : String} {token : Token} (verbatim : token.Verbatim source) :
    ∃ first last before behind, ExcerptBounds source.toList token.start token.stop first last ∧
      Text.slice? first token.start source.toList = some before ∧
      Text.slice? token.start last source.toList = some behind ∧
      excerpt source token.start token.stop =
        String.ofList before ++ " ¦ " ++ String.ofList behind ∧
      token.text.toList <+: behind := by
  obtain ⟨ordered, starts, stops⟩ := Text.isSome_slice?_iff.1 (Option.isSome_of_eq_some verbatim)
  obtain ⟨first, last, before, behind, bounds, inFront, further, shown⟩ :=
    exists_excerpt_eq source token.start token.stop
  have reaches : token.stop ≤ last := bounds.le_last stops.le
  have atBefore := inFront.inside bounds.first_le bounds.greatest.1.1 starts
  have atBehind := further.inside (Nat.le_trans ordered reaches) starts bounds.least.1.1
  exact ⟨first, last, before, behind, bounds, atBefore, atBehind, shown,
    Text.prefix_of_slice? verbatim atBehind reaches⟩

/-- For any two offsets the bounds of an excerpt are found inside the text, and it shows the text
between them with a mark where the place starts, or no text on a side that is not cut at
boundaries. A token that is out of place in a message is cut at boundaries, and the excerpt shows
it in full. -/
theorem excerpt_outcome (source : String) :
    (∀ start stop, ∃ first last before behind, ExcerptBounds source.toList start stop first last ∧
      Text.IsPart source.toList first start before ∧ Text.IsPart source.toList start last behind ∧
      excerpt source start stop = String.ofList before ++ " ¦ " ++ String.ofList behind) ∧
    (∀ tokens found text previous? shown start stop,
      segments source tokens = .error (.unexpectedToken found text previous? shown start stop) →
      shown = excerpt source start stop) ∧
    ∀ markers found text previous? shown start stop,
      (MarkerSet.ofList markers).parse source =
        .error (.unexpectedToken found text previous? shown start stop) →
      ∃ first last before behind, ExcerptBounds source.toList start stop first last ∧
        Text.slice? first start source.toList = some before ∧
        Text.slice? start last source.toList = some behind ∧
        shown = String.ofList before ++ " ¦ " ++ String.ofList behind ∧
        Text.slice? start stop source.toList = some text.toList ∧ text.toList <+: behind := by
  refine ⟨exists_excerpt_eq source, fun _ _ _ _ _ _ _ failed => ?_, ?_⟩
  · obtain ⟨_, -, -, -, -, same⟩ := Segment.segmentsFrom_eq_unexpected failed
    exact same
  · intro markers found text previous? shown start stop failed
    obtain ⟨token, member, rfl, rfl, rfl, rfl⟩ := Segment.segmentsFrom_eq_unexpected failed
    have canonical := MarkerSet.canonical_ofList markers
    have verbatim := MarkerSet.verbatim_tokenize canonical source token member
    obtain ⟨first, last, before, behind, bounds, atBefore, atBehind, shown, full⟩ :=
      excerpt_of_verbatim verbatim
    exact ⟨first, last, before, behind, bounds, atBefore, atBehind, shown, verbatim, full⟩

theorem strayCloser_excerpt :
    let source := "–åååå)–ååååå"
    let markers := [⟨")", .nestingCloser⟩]
    let shown := "–åååå ¦ )–åååå"
    (MarkerSet.ofList markers).parse source =
      .error (.unexpectedToken .nestingCloser ")" (some .literal) shown 11 12) ∧
    ∃ first last before behind, ExcerptBounds source.toList 11 12 first last ∧
      Text.slice? first 11 source.toList = some before ∧
      Text.slice? 11 last source.toList = some behind ∧
      shown = String.ofList before ++ " ¦ " ++ String.ofList behind ∧
      Text.slice? 11 12 source.toList = some ")".toList ∧ ")".toList <+: behind := by
  intro source markers shown
  let stray : Token := ⟨.nestingCloser, ")", 11, 12⟩
  let behind : List Token := [⟨.literal, "–ååååå", 12, 25⟩, Token.endAt 25]
  have cut : (MarkerSet.ofList markers).tokenize source =
      ⟨.literal, "–åååå", 0, 11⟩ :: stray :: behind := by
    rw [MarkerSet.ofList_eq_of_ordered (by decide) (by decide)]
    decide
  have stuck : Segment.takeSegment source (some .literal) stray behind =
      .error (.unexpectedToken .nestingCloser ")" (some .literal) shown 11 12) := by decide
  have failed : (MarkerSet.ofList markers).parse source =
      .error (.unexpectedToken .nestingCloser ")" (some .literal) shown 11 12) := by
    rw [MarkerSet.parse, cut, segments, Segment.segmentsFrom_cons (by decide) (by decide)]
    change (Segment.segmentsFrom source 1 (some .literal) (stray :: behind)).map _ = _
    rw [Segment.segmentsFrom_cons (by decide) (by decide), stuck]
    rfl
  exact ⟨failed, (excerpt_outcome source).2.2 _ _ _ _ _ _ _ failed⟩

end Phrasebook
