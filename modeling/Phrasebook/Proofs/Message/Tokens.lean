import Mathlib.Data.List.Chain
import Phrasebook.Message.Token
import Phrasebook.Proofs.Message.Markers

/-!
# Tokens of a text

A list of tokens cuts a text (`Tokenization`) if

* the tokens tile the text, each shows the text of its span, and the last one alone is the end;
* plain text is not empty, no two pieces of it are neighbours, and no marker begins inside it;
* every other token is the longest marker that begins at its place.

The tokens of a set that gives no marker the kind of plain text or of the end are such a list
(`tokenization_tokenize`), and there is no other (`Tokenization.unique`).
-/

namespace Phrasebook

attribute [ext] Token

def Token.span (token : Token) : Nat × Nat := (token.start, token.stop)

def Marker.BeginsAt (marker : Marker) (text : String) (position : Nat) : Prop :=
  ∃ rest, Text.dropBytes? position text.toList = some rest ∧ marker.text.toList <+: rest

/-- A token shows the text of its span. Plain text is not empty and free of markers, and a marker
is the longest that begins at its place. -/
structure Token.Fits (set : MarkerSet) (text : String) (token : Token) : Prop where
  verbatim : Text.slice? token.start token.stop text.toList = some token.text.toList
  filled : token.kind = .literal → token.text ≠ ""
  bare : token.kind = .literal → ∀ position, token.start ≤ position → position < token.stop →
    ∀ marker ∈ set.markers, ¬marker.BeginsAt text position
  known : token.kind ≠ .literal → token.kind ≠ .endOfText →
    ⟨token.text, token.kind⟩ ∈ set.markers
  longest : token.kind ≠ .literal → token.kind ≠ .endOfText →
    ∀ marker ∈ set.markers, marker.BeginsAt text token.start →
      Text.byteLength marker.text.toList ≤ Text.byteLength token.text.toList

namespace MarkerSet

structure Tokenization (set : MarkerSet) (text : String) (start : Nat) (tokens : List Token) :
    Prop where
  tiled : Text.Tiles start (Text.byteLength text.toList) (tokens.map Token.span)
  fits : ∀ token ∈ tokens, token.Fits set text
  ended : ∃ front, tokens = front ++ [Token.endAt (Text.byteLength text.toList)] ∧
    ∀ token ∈ front, token.kind ≠ .endOfText
  separate : tokens.IsChain fun token next => ¬(token.kind = .literal ∧ next.kind = .literal)

def Plain (set : MarkerSet) : Prop :=
  ∀ marker ∈ set.markers, marker.kind ≠ .endOfText ∧ marker.kind ≠ .literal

end MarkerSet

variable {set : MarkerSet} {text : String}

theorem Marker.beginsAt_iff {marker : Marker} {front rest : List Char}
    (split : text.toList = front ++ rest) :
    marker.BeginsAt text (Text.byteLength front) ↔ marker.text.toList <+: rest := by
  have dropped : Text.dropBytes? (Text.byteLength front) text.toList = some rest :=
    Text.dropBytes?_eq_some_iff.2 ⟨front, split, rfl⟩
  simp [BeginsAt, dropped]

namespace Token.Fits

variable {token other : Token}

theorem stop_eq (fits : token.Fits set text) :
    token.stop = token.start + Text.byteLength token.text.toList := by
  obtain ⟨_, _, _, _, size⟩ := Text.slice?_eq_some_iff.1 fits.verbatim
  exact size.symm

theorem start_le_stop (fits : token.Fits set text) : token.start ≤ token.stop := by
  rw [fits.stop_eq]
  exact Nat.le_add_right _ _

theorem beginsAt (fits : token.Fits set text) :
    Marker.BeginsAt ⟨token.text, token.kind⟩ text token.start := by
  obtain ⟨front, back, split, atStart, -⟩ := Text.slice?_eq_some_iff.1 fits.verbatim
  rw [← atStart, Marker.beginsAt_iff split]
  exact List.prefix_append _ _

theorem start_lt_stop (canonical : set.Canonical) (fits : token.Fits set text)
    (spoken : token.kind ≠ .endOfText) : token.start < token.stop := by
  have shown : token.text ≠ "" := by
    by_cases plain : token.kind = .literal
    · exact fits.filled plain
    · exact canonical.filled _ (fits.known plain spoken)
  have size : Text.byteLength token.text.toList ≠ 0 := by
    simpa [Text.byteLength_eq_zero_iff] using shown
  have spans := fits.stop_eq
  omega

theorem text_eq (fits : token.Fits set text) (otherFits : other.Fits set text)
    (start : token.start = other.start) (stop : token.stop = other.stop) :
    token.text = other.text := by
  have verbatim := fits.verbatim
  rw [start, stop, otherFits.verbatim] at verbatim
  exact (String.toList_inj.1 (Option.some.inj verbatim)).symm

end Token.Fits

namespace MarkerSet

/-! ## Cutting step by step -/

theorem cutsFrom_eq_cuts_drop (set : MarkerSet) (skip : Nat) (text : List Char) :
    set.cutsFrom skip text = set.cuts (text.drop skip) := by
  induction text generalizing skip with
  | nil => cases skip <;> rfl
  | cons char rest ih =>
    cases skip with
    | zero => rfl
    | succ skip => exact ih skip

theorem cuts_of_match? {marker : Marker} {rest : List Char} (filled : marker.text ≠ "")
    (found : set.match? (marker.text.toList ++ rest) = some marker) :
    set.cuts (marker.text.toList ++ rest) = .marker marker :: set.cuts rest := by
  cases letters : marker.text.toList with
  | nil => exact absurd (String.toList_eq_nil_iff.1 letters) filled
  | cons char behind =>
    rw [letters, List.cons_append] at found
    rw [List.cons_append, cuts, cutsFrom, found]
    simp [cutsFrom_eq_cuts_drop, letters]

theorem cuts_of_match?_eq_none {char : Char} {rest : List Char}
    (unmatched : set.match? (char :: rest) = none) :
    set.cuts (char :: rest) = .char char :: set.cuts rest := by
  rw [cuts, cutsFrom, unmatched]
  rfl

theorem Canonical.induction_on_cuts (canonical : set.Canonical) {motive : List Char → Prop}
    (nil : motive [])
    (char : ∀ char rest, set.match? (char :: rest) = none → motive rest → motive (char :: rest))
    (marker : ∀ (marker : Marker) (rest : List Char),
      set.match? (marker.text.toList ++ rest) = some marker → motive rest →
        motive (marker.text.toList ++ rest))
    (text : List Char) : motive text := by
  induction size : text.length using Nat.strong_induction_on generalizing text with
  | _ bound ih =>
    cases text with
    | nil => exact nil
    | cons first behind =>
      cases found : set.match? (first :: behind) with
      | none => exact char first behind found (ih behind.length (by simp [← size]) behind rfl)
      | some hit =>
        obtain ⟨rest, equal⟩ := begins_of_match? found
        have filled : hit.text.toList ≠ [] :=
          mt String.toList_eq_nil_iff.1 (canonical.filled hit (mem_of_match? found))
        have shorter : rest.length < bound := by
          have positive := List.length_pos_iff.2 filled
          rw [← size, ← equal, List.length_append]
          omega
        rw [← equal] at found ⊢
        exact marker hit rest found (ih rest.length shorter rest rfl)

namespace Tokenization

variable {start : Nat} {token : Token} {tokens : List Token}

theorem endAt (set : MarkerSet) (text : String) :
    set.Tokenization text (Text.byteLength text.toList)
      [Token.endAt (Text.byteLength text.toList)] where
  tiled := ⟨rfl, Nat.le_refl _, rfl⟩
  fits token member := by
    obtain rfl := List.mem_singleton.1 member
    refine ⟨?_, nofun, nofun, fun _ spoken => absurd rfl spoken, fun _ spoken => absurd rfl spoken⟩
    exact Text.slice?_eq_some_iff.2 ⟨text.toList, [], by simp [Token.endAt], rfl, rfl⟩
  ended := ⟨[], rfl, nofun⟩
  separate := .singleton _

theorem cons (fits : token.Fits set text) (spoken : token.kind ≠ .endOfText)
    (apart : ∀ next ∈ tokens.head?, ¬(token.kind = .literal ∧ next.kind = .literal))
    (made : set.Tokenization text token.stop tokens) :
    set.Tokenization text token.start (token :: tokens) where
  tiled := ⟨rfl, fits.start_le_stop, made.tiled⟩
  fits := List.forall_mem_cons.2 ⟨fits, made.fits⟩
  ended := by
    obtain ⟨front, rfl, others⟩ := made.ended
    exact ⟨token :: front, rfl, List.forall_mem_cons.2 ⟨spoken, others⟩⟩
  separate := List.isChain_cons.2 ⟨apart, made.separate⟩

theorem tail (made : set.Tokenization text start (token :: tokens))
    (spoken : token.kind ≠ .endOfText) : set.Tokenization text token.stop tokens where
  tiled := made.tiled.2.2
  fits := (List.forall_mem_cons.1 made.fits).2
  ended := by
    obtain ⟨front, split, others⟩ := made.ended
    cases front with
    | nil =>
      obtain ⟨rfl, -⟩ := List.cons.inj split
      exact absurd rfl spoken
    | cons first front =>
      obtain ⟨rfl, rfl⟩ := List.cons.inj split
      exact ⟨front, rfl, (List.forall_mem_cons.1 others).2⟩
  separate := (List.isChain_cons.1 made.separate).2

/-! ## The tokens that cutting gives -/

theorem fits_literal {front pending rest : List Char} (nonempty : pending ≠ [])
    (split : text.toList = front ++ (pending.reverse ++ rest))
    (bare : ∀ position, Text.byteLength front ≤ position →
      position < Text.byteLength front + Text.byteLength pending →
      ∀ marker ∈ set.markers, ¬marker.BeginsAt text position) :
    Token.Fits set text ⟨.literal, String.ofList pending.reverse, Text.byteLength front,
      Text.byteLength front + Text.byteLength pending⟩ where
  verbatim := Text.slice?_eq_some_iff.2 ⟨front, rest, by simpa using split, rfl, by simp⟩
  filled _ := by simpa using nonempty
  bare _ := bare
  known other := absurd rfl other
  longest other := absurd rfl other

theorem fits_marker {marker : Marker} {front rest : List Char} (canonical : set.Canonical)
    (split : text.toList = front ++ (marker.text.toList ++ rest))
    (found : set.match? (marker.text.toList ++ rest) = some marker)
    (plain : marker.kind ≠ .literal) :
    Token.Fits set text ⟨marker.kind, marker.text, Text.byteLength front,
      Text.byteLength front + Text.byteLength marker.text.toList⟩ where
  verbatim := Text.slice?_eq_some_iff.2 ⟨front, rest, split, rfl, rfl⟩
  filled literal := absurd literal plain
  bare literal := absurd literal plain
  known _ _ := mem_of_match? found
  longest _ _ _ member begins :=
    canonical.longest_of_match? found member ((Marker.beginsAt_iff split).1 begins)

theorem prepend_pending {front pending rest : List Char}
    (split : text.toList = front ++ (pending.reverse ++ rest))
    (bare : ∀ position, Text.byteLength front ≤ position →
      position < Text.byteLength front + Text.byteLength pending →
      ∀ marker ∈ set.markers, ¬marker.BeginsAt text position)
    (apart : ∀ next ∈ tokens.head?, next.kind ≠ .literal)
    (made : set.Tokenization text (Text.byteLength front + Text.byteLength pending) tokens) :
    set.Tokenization text (Text.byteLength front)
      (Token.pendingLiteral pending (Text.byteLength front + Text.byteLength pending) ++
        tokens) := by
  by_cases empty : pending = []
  · subst empty
    exact made
  · have fits := fits_literal empty split bare
    have separate : ∀ next ∈ tokens.head?, ¬(TokenKind.literal = .literal ∧ next.kind = .literal) :=
      fun next member both => apart next member both.2
    have literal := made.cons fits nofun separate
    simpa [Token.pendingLiteral, empty] using literal

end Tokenization

theorem tokenization_ofCutsFrom (canonical : set.Canonical) (plain : set.Plain)
    {front pending rest : List Char} (split : text.toList = front ++ (pending.reverse ++ rest))
    (bare : ∀ position, Text.byteLength front ≤ position →
      position < Text.byteLength front + Text.byteLength pending →
      ∀ marker ∈ set.markers, ¬marker.BeginsAt text position) :
    set.Tokenization text (Text.byteLength front)
      (Token.ofCutsFrom pending (Text.byteLength front + Text.byteLength pending)
        (set.cuts rest)) := by
  induction rest using canonical.induction_on_cuts generalizing front pending with
  | nil =>
    have whole : Text.byteLength front + Text.byteLength pending = Text.byteLength text.toList := by
      simp [split]
    refine Tokenization.prepend_pending split bare ?_ ?_
    · rintro next ⟨⟩
      nofun
    · rw [whole]
      exact .endAt set text
  | char char rest unmatched ih =>
    rw [cuts_of_match?_eq_none unmatched, Token.ofCutsFrom, Nat.add_assoc,
      Nat.add_comm (Text.byteLength pending), ← Text.byteLength_cons]
    apply ih
    · simpa using split
    · -- The new character is bare: no position inside it is one of the text, and no marker
      -- begins in front of it.
      rintro position lower upper marker member ⟨following, dropped, begins⟩
      obtain ⟨before, whole, rfl⟩ := Text.dropBytes?_eq_some_iff.1 dropped
      by_cases earlier : Text.byteLength before < Text.byteLength front + Text.byteLength pending
      · exact bare _ lower earlier marker member ⟨following, dropped, begins⟩
      · have inside : before ++ following = (front ++ pending.reverse) ++ char :: rest := by
          rw [← whole, split, List.append_assoc]
        have reached : before = front ++ pending.reverse := by
          apply Text.eq_of_split_inside_char inside
          · simpa using earlier
          · rw [Text.byteLength_cons] at upper
            simp only [Text.byteLength_append, Text.byteLength_reverse]
            omega
        rw [reached] at inside
        rw [List.append_cancel_left inside] at begins
        exact not_begins_of_match?_eq_none unmatched member begins
  | marker marker rest found ih =>
    have filled : marker.text ≠ "" := canonical.filled marker (mem_of_match? found)
    obtain ⟨spoken, literal⟩ := plain marker (mem_of_match? found)
    rw [cuts_of_match? filled found, Token.ofCutsFrom]
    refine Tokenization.prepend_pending split bare ?_ ?_
    · rintro next ⟨⟩
      exact literal
    · have passed : text.toList =
          (front ++ pending.reverse) ++ (marker.text.toList ++ rest) := by
        rw [split, List.append_assoc]
      have fits := Tokenization.fits_marker canonical passed found literal
      have step : text.toList =
          (front ++ pending.reverse ++ marker.text.toList) ++ ([].reverse ++ rest) := by
        simpa using passed
      have made := ih step fun position lower upper => absurd upper (Nat.not_lt.2 lower)
      simp only [Text.byteLength_append, Text.byteLength_reverse, Text.byteLength_nil,
        Nat.add_zero] at made fits
      exact made.cons fits spoken fun next _ both => literal both.1

theorem tokenization_tokenize (canonical : set.Canonical) (plain : set.Plain) (text : String) :
    set.Tokenization text 0 (set.tokenize text) := by
  have split : text.toList = [] ++ ([].reverse ++ text.toList) := rfl
  exact tokenization_ofCutsFrom canonical plain split fun _ lower upper =>
    absurd upper (Nat.not_lt.2 lower)

/-! ## No other tokens -/

namespace Tokenization

variable {start : Nat} {token other : Token} {tokens others : List Token}

theorem exists_cons (made : set.Tokenization text start tokens) :
    ∃ token rest, tokens = token :: rest := by
  obtain ⟨front, rfl, -⟩ := made.ended
  cases front with
  | nil => exact ⟨_, _, rfl⟩
  | cons token rest => exact ⟨token, _, rfl⟩

theorem eq_endAt (made : set.Tokenization text start (token :: tokens))
    (ended : token.kind = .endOfText) :
    token = Token.endAt (Text.byteLength text.toList) ∧ tokens = [] := by
  obtain ⟨front, split, spoken⟩ := made.ended
  cases front with
  | nil => exact List.cons.inj split
  | cons first front =>
    obtain ⟨rfl, -⟩ := List.cons.inj split
    exact absurd ended (List.forall_mem_cons.1 spoken).1

theorem stop_le (made : set.Tokenization text start (token :: tokens)) :
    token.stop ≤ Text.byteLength text.toList :=
  made.tiled.2.2.le

theorem start_eq (made : set.Tokenization text start (token :: tokens)) : token.start = start :=
  made.tiled.1

theorem head_fits (made : set.Tokenization text start (token :: tokens)) :
    token.Fits set text :=
  made.fits token List.mem_cons_self

theorem next (made : set.Tokenization text start (token :: tokens))
    (spoken : token.kind ≠ .endOfText) : ∃ next rest, tokens = next :: rest ∧
      next.start = token.stop ∧ ¬(token.kind = .literal ∧ next.kind = .literal) := by
  obtain ⟨next, rest, rfl⟩ := (made.tail spoken).exists_cons
  exact ⟨next, rest, rfl, (made.tail spoken).start_eq,
    (List.isChain_cons_cons.1 made.separate).1⟩

/-- Plain text cannot stop where other plain text goes on: a marker would begin there. -/
theorem stop_le_of_literal
    (made : set.Tokenization text start (token :: tokens))
    (otherwise : set.Tokenization text start (other :: others)) (literal : token.kind = .literal)
    (otherLiteral : other.kind = .literal) : other.stop ≤ token.stop := by
  by_contra longer
  have spoken : token.kind ≠ .endOfText := by simp [literal]
  obtain ⟨next, rest, rfl, follows, apart⟩ := made.next spoken
  have behind := made.tail spoken
  by_cases ended : next.kind = .endOfText
  · obtain ⟨rfl, -⟩ := behind.eq_endAt ended
    have bound := otherwise.stop_le
    simp only [Token.endAt] at follows
    omega
  · have marked : next.kind ≠ .literal := fun same => apart ⟨literal, same⟩
    refine otherwise.head_fits.bare otherLiteral next.start ?_ (by omega) _
      (behind.head_fits.known marked ended) behind.head_fits.beginsAt
    rw [follows, otherwise.start_eq, ← made.start_eq]
    exact made.head_fits.start_le_stop

theorem ended_of_ended (canonical : set.Canonical)
    (made : set.Tokenization text start (token :: tokens))
    (otherwise : set.Tokenization text start (other :: others))
    (ended : token.kind = .endOfText) : other.kind = .endOfText := by
  by_contra spoken
  obtain ⟨rfl, -⟩ := made.eq_endAt ended
  have progress := otherwise.head_fits.start_lt_stop canonical spoken
  have bound := otherwise.stop_le
  have start := made.start_eq
  rw [otherwise.start_eq, ← start] at progress
  simp only [Token.endAt] at progress
  omega

theorem literal_of_literal (canonical : set.Canonical)
    (made : set.Tokenization text start (token :: tokens))
    (otherwise : set.Tokenization text start (other :: others))
    (spoken : other.kind ≠ .endOfText) (literal : token.kind = .literal) :
    other.kind = .literal := by
  by_contra marked
  have progress := made.head_fits.start_lt_stop canonical (by simp [literal])
  have begins := otherwise.head_fits.beginsAt
  rw [otherwise.start_eq, ← made.start_eq] at begins
  exact made.head_fits.bare literal token.start (Nat.le_refl _) progress _
    (otherwise.head_fits.known marked spoken) begins

theorem marker_eq (canonical : set.Canonical)
    (made : set.Tokenization text start (token :: tokens))
    (otherwise : set.Tokenization text start (other :: others))
    (marked : token.kind ≠ .literal) (spoken : token.kind ≠ .endOfText)
    (otherMarked : other.kind ≠ .literal) (otherSpoken : other.kind ≠ .endOfText) :
    token = other := by
  have fits := made.head_fits
  have otherFits := otherwise.head_fits
  have starts : token.start = other.start := made.start_eq.trans otherwise.start_eq.symm
  have shorter := otherFits.longest otherMarked otherSpoken _ (fits.known marked spoken)
    (starts ▸ fits.beginsAt)
  have longer := fits.longest marked spoken _ (otherFits.known otherMarked otherSpoken)
    (starts ▸ otherFits.beginsAt)
  have stops : token.stop = other.stop := by
    rw [fits.stop_eq, otherFits.stop_eq, starts, Nat.le_antisymm shorter longer]
  have texts : token.text = other.text := fits.text_eq otherFits starts stops
  have kinds := canonical.eq_of_text_eq (fits.known marked spoken)
    (otherFits.known otherMarked otherSpoken) texts
  exact Token.ext (Marker.mk.inj kinds).2 texts starts stops

theorem head_eq (canonical : set.Canonical)
    (made : set.Tokenization text start (token :: tokens))
    (otherwise : set.Tokenization text start (other :: others)) : token = other := by
  have starts : token.start = other.start := made.start_eq.trans otherwise.start_eq.symm
  by_cases ended : token.kind = .endOfText
  · have otherEnded := ended_of_ended canonical made otherwise ended
    rw [(made.eq_endAt ended).1, (otherwise.eq_endAt otherEnded).1]
  · have spoken : other.kind ≠ .endOfText := fun otherEnded =>
      ended (ended_of_ended canonical otherwise made otherEnded)
    by_cases literal : token.kind = .literal
    · have otherLiteral := literal_of_literal canonical made otherwise spoken literal
      have stops : token.stop = other.stop := Nat.le_antisymm
        (stop_le_of_literal otherwise made otherLiteral literal)
        (stop_le_of_literal made otherwise literal otherLiteral)
      have texts := made.head_fits.text_eq otherwise.head_fits starts stops
      exact Token.ext (literal.trans otherLiteral.symm) texts starts stops
    · have otherMarked : other.kind ≠ .literal := fun otherLiteral =>
        literal (literal_of_literal canonical otherwise made ended otherLiteral)
      exact marker_eq canonical made otherwise literal ended otherMarked spoken

theorem unique (canonical : set.Canonical) (made : set.Tokenization text start tokens)
    (otherwise : set.Tokenization text start others) : tokens = others := by
  induction tokens generalizing start others with
  | nil =>
    obtain ⟨_, _, nonempty⟩ := made.exists_cons
    cases nonempty
  | cons token rest ih =>
    obtain ⟨other, otherRest, rfl⟩ := otherwise.exists_cons
    obtain rfl := head_eq canonical made otherwise
    by_cases ended : token.kind = .endOfText
    · rw [(made.eq_endAt ended).2, (otherwise.eq_endAt ended).2]
    · rw [ih (made.tail ended) (otherwise.tail ended)]

end Tokenization

theorem plain_ofList {given : List Marker}
    (plain : ∀ marker ∈ given, marker.kind ≠ .endOfText ∧ marker.kind ≠ .literal) :
    (ofList given).Plain := fun marker member =>
  plain marker (of_mem_distinct (List.mem_mergeSort.1 member)).1

/-- The tokens of a text are the only ones that cut it: they tile it, and they take the longest
marker at each place where one begins. -/
theorem tokenize_eq_iff {given : List Marker} (plain : (ofList given).Plain) (text : String)
    (tokens : List Token) :
    (ofList given).tokenize text = tokens ↔ (ofList given).Tokenization text 0 tokens := by
  have canonical := canonical_ofList given
  constructor
  · rintro rfl
    exact tokenization_tokenize canonical plain text
  · exact (tokenization_tokenize canonical plain text).unique canonical

def nestedMarkers : List Marker :=
  [⟨"<<é", .formatSeparator⟩, ⟨"<<", .nestingOpener⟩, ⟨"<", .interpolationOpener⟩]

theorem nestedMarkers_tokenization : (ofList nestedMarkers).Plain ∧
    (ofList nestedMarkers).Tokenization "å<<é<<x" 0
      [⟨.literal, "å", 0, 2⟩, ⟨.formatSeparator, "<<é", 2, 6⟩, ⟨.nestingOpener, "<<", 6, 8⟩,
        ⟨.literal, "x", 8, 9⟩, Token.endAt 9] := by
  have plain : (ofList nestedMarkers).Plain := plain_ofList (by decide)
  refine ⟨plain, (tokenize_eq_iff plain _ _).1 ?_⟩
  rw [ofList_eq_of_ordered (by decide) (by decide)]
  decide

end MarkerSet

end Phrasebook
