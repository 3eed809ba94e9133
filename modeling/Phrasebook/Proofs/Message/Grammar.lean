import Mathlib.Data.List.Basic
import Phrasebook.Message.Segment

/-!
# The grammar of messages

Tokens derive segments (`Derivation`) if they are, one segment after the other, of the forms

* plain text;
* an opening marker, a key, a format behind its separator if one is given, and the closing marker
  if it is there;
* an opening marker, a key, and the closing marker if it is there;
* an opening marker, a key, a separator, an argument of any tokens, and the closing marker.

No form holds an end (`Form.spoken`), and none begins with a token that could go on with the form
before it (`Derivation.follows`).
-/

namespace Phrasebook

namespace Segment

/-! ## Forms -/

/-- The closing marker, which may be missing, and where a construct stops that would stop at `stop`
without it. -/
inductive Closing (closer : TokenKind) (stop : Nat) : List Token → Nat → Prop
  | missing : Closing closer stop [] stop
  | present {token : Token} : token.kind = closer → Closing closer stop [token] token.stop

inductive Formatting : List Token → Option Token → Prop
  | missing : Formatting [] none
  | present {separator format : Token} : separator.kind = .formatSeparator →
      format.kind = .literal → Formatting [separator, format] (some format)

inductive Argument : List Token → Token → Prop
  | intro {first : Token} {more : List Token} : isSeparator first.kind = false →
      (∀ token ∈ first :: more, token.kind ≠ .nestingCloser ∧ token.kind ≠ .endOfText) →
      Argument (first :: more)
        { kind := .literal
          text := String.join ((first :: more).map (·.text))
          start := first.start
          stop := ((first :: more).getLast (List.cons_ne_nil first more)).stop }

inductive Form : List Token → Segment → Prop
  | literal {token : Token} : token.kind = .literal → Form [token] (.literal token)
  | interpolation {opener key : Token} {formatting closing : List Token} {format? : Option Token}
      {stop : Nat} : opener.kind = .interpolationOpener → key.kind = .literal →
      Formatting formatting format? → Closing .interpolationCloser opener.stop closing stop →
      Form (opener :: key :: (formatting ++ closing))
        (.interpolation { opener with stop } key format?)
  | nesting {opener key : Token} {closing : List Token} {stop : Nat} :
      opener.kind = .nestingOpener → key.kind = .literal →
      Closing .nestingCloser opener.stop closing stop →
      Form (opener :: key :: closing) (.nesting { opener with stop } key none)
  | nestingWith {opener key separator closer argument : Token} {run : List Token} :
      opener.kind = .nestingOpener → key.kind = .literal → isSeparator separator.kind = true →
      Argument run argument → closer.kind = .nestingCloser →
      Form (opener :: key :: separator :: (run ++ [closer]))
        (.nesting { opener with stop := closer.stop } key (some argument))

def Derivation : List Token → List Segment → Prop
  | tokens, [] => tokens = []
  | tokens, segment :: rest => ∃ run behind,
      tokens = run ++ behind ∧ Form run segment ∧ Derivation behind rest

def untilEnd (tokens : List Token) : List Token :=
  tokens.takeWhile fun token => token.kind ≠ .endOfText

def Spoken (tokens : List Token) : Prop := ∀ token ∈ tokens, token.kind ≠ .endOfText

@[simp] theorem spoken_nil : Spoken [] := nofun

@[simp] theorem spoken_cons {token : Token} {tokens : List Token} :
    Spoken (token :: tokens) ↔ token.kind ≠ .endOfText ∧ Spoken tokens :=
  List.forall_mem_cons

@[simp] theorem spoken_append {tokens others : List Token} :
    Spoken (tokens ++ others) ↔ Spoken tokens ∧ Spoken others :=
  List.forall_mem_append

theorem untilEnd_append {run rest : List Token} (spoken : Spoken run) :
    untilEnd (run ++ rest) = run ++ untilEnd rest :=
  List.takeWhile_append_of_pos fun token member => by simpa using spoken token member

theorem Closing.spoken {closer : TokenKind} {stop stop' : Nat} {run : List Token}
    (closing : Closing closer stop run stop') (marker : closer ≠ .endOfText) : Spoken run := by
  cases closing with
  | missing => exact spoken_nil
  | present closes => simpa [closes] using marker

theorem Formatting.spoken {run : List Token} {format? : Option Token}
    (formatting : Formatting run format?) : Spoken run := by
  cases formatting with
  | missing => exact spoken_nil
  | present separates literal => simp [separates, literal]

theorem Argument.singleton {token : Token} (literal : token.kind = .literal) :
    Argument [token] token := by
  have others : ∀ other ∈ [token], other.kind ≠ .nestingCloser ∧ other.kind ≠ .endOfText := by
    simp [literal]
  have argues := Argument.intro (by rw [literal]; rfl) others
  have joined : (⟨.literal, String.join ([token].map (·.text)), token.start, token.stop⟩ : Token) =
      token := by
    simp [← literal]
  rwa [List.getLast_singleton, joined] at argues

theorem Argument.spoken {run : List Token} {argument : Token} (argues : Argument run argument) :
    Spoken run := by
  cases argues with
  | intro _ others => exact fun token member => (others token member).2

theorem ne_endOfText_of_isSeparator {kind : TokenKind} (separates : isSeparator kind = true) :
    kind ≠ .endOfText := by
  rintro rfl
  cases separates

theorem Form.spoken {run : List Token} {segment : Segment} (form : Form run segment) :
    Spoken run := by
  cases form with
  | literal literal => simp [literal]
  | interpolation opens literal formatting closing =>
    simp [opens, literal, formatting.spoken, closing.spoken nofun]
  | nesting opens literal closing => simp [opens, literal, closing.spoken nofun]
  | nestingWith opens literal separates argues closes =>
    simp [opens, literal, ne_endOfText_of_isSeparator separates, argues.spoken, closes]

theorem Derivation.spoken {tokens : List Token} {segments : List Segment}
    (derivation : Derivation tokens segments) : Spoken tokens := by
  induction segments generalizing tokens with
  | nil =>
    obtain rfl : tokens = [] := derivation
    exact spoken_nil
  | cons segment rest ih =>
    obtain ⟨run, behind, rfl, form, derivation⟩ := derivation
    exact spoken_append.2 ⟨form.spoken, ih derivation⟩

theorem Derivation.append {tokens others : List Token} {segments more : List Segment}
    (derivation : Derivation tokens segments) (further : Derivation others more) :
    Derivation (tokens ++ others) (segments ++ more) := by
  induction segments generalizing tokens with
  | nil =>
    obtain rfl : tokens = [] := derivation
    exact further
  | cons segment rest ih =>
    obtain ⟨run, behind, rfl, form, derivation⟩ := derivation
    exact ⟨run, behind ++ others, List.append_assoc .., form, ih derivation⟩

theorem Form.derivation {run : List Token} {segment : Segment} (form : Form run segment) :
    Derivation run [segment] :=
  ⟨run, [], (List.append_nil run).symm, form, rfl⟩

theorem Form.exists_key {run : List Token} {segment : Segment} (form : Form run segment)
    (composite : segment.token.kind ≠ .literal) : ∃ key ∈ segment.key?, key.kind = .literal := by
  cases form with
  | literal literal => exact absurd literal composite
  | interpolation _ literal _ _ => exact ⟨_, rfl, literal⟩
  | nesting _ literal _ => exact ⟨_, rfl, literal⟩
  | nestingWith _ literal _ _ _ => exact ⟨_, rfl, literal⟩

theorem Derivation.exists_form {tokens : List Token} {segments : List Segment}
    {segment : Segment} (derivation : Derivation tokens segments) (member : segment ∈ segments) :
    ∃ run, Form run segment := by
  induction segments generalizing tokens with
  | nil => cases member
  | cons first rest ih =>
    obtain ⟨run, behind, -, form, derivation⟩ := derivation
    rcases List.mem_cons.1 member with rfl | later
    · exact ⟨run, form⟩
    · exact ih derivation later

/-! ## What may follow -/

section Following

variable {tokens rest : List Token}

def continues (kind : TokenKind) : Bool :=
  isSeparator kind || kind = .interpolationCloser || kind = .nestingCloser

def Follows (tokens : List Token) : Prop := ∀ next ∈ tokens.head?, continues next.kind = false

theorem Follows.ne {kind : TokenKind} (follows : Follows tokens)
    (continuing : continues kind = true) : ∀ next ∈ tokens.head?, next.kind ≠ kind := by
  rintro next member rfl
  rw [follows next member] at continuing
  cases continuing

theorem Form.exists_cons {run : List Token} {segment : Segment} (form : Form run segment) :
    ∃ token more, run = token :: more ∧ continues token.kind = false := by
  cases form with
  | literal kind | interpolation kind | nesting kind | nestingWith kind =>
    refine ⟨_, _, rfl, ?_⟩
    rw [kind]
    rfl

theorem Form.follows {run : List Token} {segment : Segment} (form : Form run segment)
    (rest : List Token) : Follows (run ++ rest) := by
  obtain ⟨token, more, rfl, begins⟩ := form.exists_cons
  intro next member
  obtain rfl : token = next := Option.some.inj member
  exact begins

theorem Closing.follows {closer : TokenKind} {stop stop' : Nat} {closing : List Token}
    (closes : Closing closer stop closing stop') (follows : Follows rest)
    {kind : TokenKind} (continuing : continues kind = true) (other : closer ≠ kind) :
    ∀ next ∈ (closing ++ rest).head?, next.kind ≠ kind := by
  cases closes with
  | missing => exact follows.ne continuing
  | present closes =>
    intro next member
    obtain rfl := Option.some.inj member
    rwa [closes]

end Following

theorem Derivation.follows {tokens behind : List Token} {segments : List Segment}
    (derivation : Derivation tokens segments) (follows : Follows behind) :
    Follows (tokens ++ behind) := by
  cases segments with
  | nil =>
    obtain rfl : tokens = [] := derivation
    exact follows
  | cons segment rest =>
    obtain ⟨run, others, rfl, form, -⟩ := derivation
    rw [List.append_assoc]
    exact form.follows _

end Segment

end Phrasebook
