import Phrasebook.Message.Fault

/-!
# Segments of a message

A message is a sequence of segments: plain text, an interpolated variable with an optional format,
or a reference to another message with an optional argument. The argument takes every token up to
the closing marker; the closing marker of the other constructs may be missing.

`segments` derives the segments of a list of tokens, and each step of it leaves fewer tokens than
it found. The tokens count up to the first end of text; where a list has none, the end of the
source stands in for it.
-/

namespace Phrasebook

/-- A part of a message. An opener that is closed stops where its closing marker stops. Every
interpolation and every nesting has a key, maybe a blank one, since parsing makes none without. The
type excludes constructs that lack their key, so what would be done for these has no counterpart
where segments are used. -/
inductive Segment where
  | literal (token : Token)
  | interpolation (opener key : Token) (format? : Option Token)
  | nesting (opener key : Token) (argument? : Option Token)
deriving DecidableEq, Repr

namespace Segment

def token : Segment → Token
  | literal token => token
  | interpolation opener _ _ => opener
  | nesting opener _ _ => opener

def key? : Segment → Option Token
  | literal _ => none
  | interpolation _ key _ => some key
  | nesting _ key _ => some key

def detail? : Segment → Option Token
  | literal _ => none
  | interpolation _ _ format? => format?
  | nesting _ _ argument? => argument?

def limit : Nat := 100

/-! ## Constructs -/

def takeLiteral (finish : Token) (after : TokenKind) (tokens : List Token) :
    Except MessageFault (Token × List Token) :=
  let next := tokens.headD finish
  if next.kind = .literal then .ok (next, tokens.tail)
  else .error (.expectedLiteral after next.kind next.start next.stop)

def takeCloser (closer : TokenKind) (stop : Nat) : List Token → Nat × List Token
  | [] => (stop, [])
  | next :: rest => if next.kind = closer then (next.stop, rest) else (stop, next :: rest)

def takeFormat? (finish : Token) :
    List Token → Except MessageFault (Option Token × List Token)
  | [] => .ok (none, [])
  | next :: rest =>
    if next.kind = .formatSeparator then do
      let (format, rest) ← takeLiteral finish .formatSeparator rest
      .ok (some format, rest)
    else .ok (none, next :: rest)

def takeInterpolation (finish opener : Token) (tokens : List Token) :
    Except MessageFault (Segment × List Token) := do
  let (key, rest) ← takeLiteral finish opener.kind tokens
  let (format?, rest) ← takeFormat? finish rest
  let (stop, rest) := takeCloser .interpolationCloser opener.stop rest
  .ok (interpolation { opener with stop } key format?, rest)

def isSeparator (kind : TokenKind) : Bool :=
  kind = .nestingSeparator || kind = .formatSeparator

def isArgument (token : Token) : Bool :=
  token.kind ≠ .nestingCloser && token.kind ≠ .endOfText

def joinArgument (first : Token) (run : List Token) : Token :=
  { kind := .literal
    text := String.join (run.map (·.text))
    start := first.start
    stop := (run.getLast?.map (·.stop)).getD first.start }

def takeArgument? (finish opener : Token) :
    List Token → Except MessageFault (Option Token × List Token)
  | [] => .ok (none, [])
  | next :: rest =>
    if isSeparator next.kind then
      let first := rest.headD finish
      if isSeparator first.kind || first.kind = .nestingCloser then
        .error (.expectedLiteral next.kind first.kind first.start first.stop)
      else
        let behind := rest.dropWhile isArgument
        let closer := behind.headD finish
        if closer.kind = .nestingCloser then
          .ok (some (joinArgument first (rest.takeWhile isArgument)), behind)
        else .error (.unterminatedNesting opener.start closer.stop)
    else .ok (none, next :: rest)

def takeNesting (finish opener : Token) (tokens : List Token) :
    Except MessageFault (Segment × List Token) := do
  let (key, rest) ← takeLiteral finish opener.kind tokens
  let (argument?, rest) ← takeArgument? finish opener rest
  let (stop, rest) := takeCloser .nestingCloser opener.stop rest
  .ok (nesting { opener with stop } key argument?, rest)

def takeSegment (source : String) (previous? : Option TokenKind) (token : Token)
    (tokens : List Token) : Except MessageFault (Segment × List Token) :=
  let finish := Token.endAt (Text.byteLength source.toList)
  match token.kind with
  | .literal => .ok (literal token, tokens)
  | .interpolationOpener => takeInterpolation finish token tokens
  | .nestingOpener => takeNesting finish token tokens
  | kind =>
    .error (.unexpectedToken kind token.text previous? (excerpt source token.start token.stop)
      token.start token.stop)

/-! ## What is left -/

theorem exists_of_bind_eq_ok {ε α β : Type} {first : Except ε α} {second : α → Except ε β}
    {result : β} (succeeded : first >>= second = .ok result) :
    ∃ value, first = .ok value ∧ second value = .ok result := by
  cases first with
  | error fault => cases succeeded
  | ok value => exact ⟨value, rfl, succeeded⟩

theorem length_takeLiteral {finish : Token} {after : TokenKind} {tokens rest : List Token}
    {token : Token} (taken : takeLiteral finish after tokens = .ok (token, rest)) :
    rest.length ≤ tokens.length := by
  unfold takeLiteral at taken
  simp only at taken
  split at taken
  · cases taken
    simp
  · cases taken

theorem length_takeCloser (closer : TokenKind) (stop : Nat) (tokens : List Token) :
    (takeCloser closer stop tokens).2.length ≤ tokens.length := by
  cases tokens with
  | nil => simp [takeCloser]
  | cons next rest =>
    simp only [takeCloser]
    split <;> simp

theorem length_takeFormat? {finish : Token} {tokens rest : List Token} {format? : Option Token}
    (taken : takeFormat? finish tokens = .ok (format?, rest)) : rest.length ≤ tokens.length := by
  cases tokens with
  | nil => cases taken; simp
  | cons next tail =>
    simp only [takeFormat?] at taken
    split at taken
    · obtain ⟨⟨format, behind⟩, atFormat, taken⟩ := exists_of_bind_eq_ok taken
      cases taken
      exact Nat.le_succ_of_le (length_takeLiteral atFormat)
    · cases taken; simp

theorem length_takeArgument? {finish opener : Token} {tokens rest : List Token}
    {argument? : Option Token}
    (taken : takeArgument? finish opener tokens = .ok (argument?, rest)) :
    rest.length ≤ tokens.length := by
  cases tokens with
  | nil => cases taken; simp
  | cons next tail =>
    simp only [takeArgument?] at taken
    split at taken
    · split at taken
      · cases taken
      · split at taken
        · cases taken
          exact Nat.le_succ_of_le (List.dropWhile_suffix _).length_le
        · cases taken
    · cases taken; simp

theorem length_takeInterpolation {finish opener : Token} {tokens rest : List Token}
    {segment : Segment} (taken : takeInterpolation finish opener tokens = .ok (segment, rest)) :
    rest.length ≤ tokens.length := by
  obtain ⟨⟨key, behindKey⟩, atKey, taken⟩ := exists_of_bind_eq_ok taken
  obtain ⟨⟨format?, behindFormat⟩, atFormat, taken⟩ := exists_of_bind_eq_ok taken
  cases taken
  exact Nat.le_trans (length_takeCloser _ _ _)
    (Nat.le_trans (length_takeFormat? atFormat) (length_takeLiteral atKey))

theorem length_takeNesting {finish opener : Token} {tokens rest : List Token}
    {segment : Segment} (taken : takeNesting finish opener tokens = .ok (segment, rest)) :
    rest.length ≤ tokens.length := by
  obtain ⟨⟨key, behindKey⟩, atKey, taken⟩ := exists_of_bind_eq_ok taken
  obtain ⟨⟨argument?, behindArgument⟩, atArgument, taken⟩ := exists_of_bind_eq_ok taken
  cases taken
  exact Nat.le_trans (length_takeCloser _ _ _)
    (Nat.le_trans (length_takeArgument? atArgument) (length_takeLiteral atKey))

theorem length_takeSegment {source : String} {previous? : Option TokenKind} {token : Token}
    {tokens rest : List Token} {segment : Segment}
    (taken : takeSegment source previous? token tokens = .ok (segment, rest)) :
    rest.length ≤ tokens.length := by
  unfold takeSegment at taken
  simp only at taken
  split at taken
  · cases taken; exact Nat.le_refl _
  · exact length_takeInterpolation taken
  · exact length_takeNesting taken
  · cases taken

/-! ## Messages -/

/-- The segments of tokens that follow `count` segments, the last of which has the given kind. -/
def segmentsFrom (source : String) (count : Nat) (previous? : Option TokenKind) :
    List Token → Except MessageFault (List Segment)
  | [] => .ok []
  | token :: rest =>
    if token.kind = .endOfText then .ok []
    else if limit ≤ count then .error (.tooManySegments limit token.kind token.start token.stop)
    else
      match taken : takeSegment source previous? token rest with
      | .error fault => .error fault
      | .ok (segment, rest') =>
        (segmentsFrom source (count + 1) (some segment.token.kind) rest').map (segment :: ·)
termination_by tokens => tokens.length
decreasing_by
  have := length_takeSegment taken
  simp only [List.length_cons]
  omega

end Segment

def segments (source : String) (tokens : List Token) : Except MessageFault (List Segment) :=
  Segment.segmentsFrom source 0 none tokens

def MarkerSet.parse (set : MarkerSet) (text : String) : Except MessageFault (List Segment) :=
  segments text (set.tokenize text)

end Phrasebook
