import Mathlib.Data.List.TakeWhile
import Phrasebook.Proofs.Message.Grammar

namespace Phrasebook

namespace Segment

/-! ## Each step takes a form -/

section Steps

variable {finish opener : Token} {tokens rest : List Token}

theorem takeLiteral_eq_ok_iff {after : TokenKind} {token : Token}
    (ended : finish.kind = .endOfText) :
    takeLiteral finish after tokens = .ok (token, rest) ↔
      tokens = token :: rest ∧ token.kind = .literal := by
  cases tokens with
  | nil => simp [takeLiteral, ended]
  | cons next behind =>
    by_cases literal : next.kind = .literal
    · simp only [takeLiteral, List.headD_cons, literal, if_true, List.tail_cons, Except.ok.injEq,
        Prod.mk.injEq, List.cons.injEq]
      constructor
      · rintro ⟨rfl, rfl⟩
        exact ⟨⟨rfl, rfl⟩, literal⟩
      · exact And.left
    · simp only [takeLiteral, List.headD_cons, literal, if_false, reduceCtorEq, List.cons.injEq,
        false_iff]
      rintro ⟨⟨rfl, -⟩, literal'⟩
      exact literal literal'

theorem takeCloser_sound {closer : TokenKind} {stop stop' : Nat}
    (taken : takeCloser closer stop tokens = (stop', rest)) :
    ∃ run, tokens = run ++ rest ∧ Closing closer stop run stop' := by
  cases tokens with
  | nil =>
    cases taken
    exact ⟨[], rfl, .missing⟩
  | cons next behind =>
    rw [takeCloser] at taken
    split at taken
    · rename_i closes
      cases taken
      exact ⟨[next], rfl, .present closes⟩
    · cases taken
      exact ⟨[], rfl, .missing⟩

theorem takeCloser_complete {closer : TokenKind} {stop stop' : Nat} {run : List Token}
    (closing : Closing closer stop run stop') (follows : ∀ next ∈ rest.head?, next.kind ≠ closer) :
    takeCloser closer stop (run ++ rest) = (stop', rest) := by
  cases closing with
  | missing =>
    cases rest with
    | nil => rfl
    | cons next rest => exact if_neg (follows next rfl)
  | present closes => exact if_pos closes

theorem takeFormat?_sound {format? : Option Token} (ended : finish.kind = .endOfText)
    (taken : takeFormat? finish tokens = .ok (format?, rest)) :
    ∃ run, tokens = run ++ rest ∧ Formatting run format? := by
  cases tokens with
  | nil =>
    cases taken
    exact ⟨[], rfl, .missing⟩
  | cons next behind =>
    rw [takeFormat?] at taken
    split at taken
    · rename_i separates
      obtain ⟨⟨format, behindFormat⟩, atFormat, taken⟩ := exists_of_bind_eq_ok taken
      cases taken
      obtain ⟨rfl, literal⟩ := (takeLiteral_eq_ok_iff ended).1 atFormat
      exact ⟨[next, format], rfl, .present separates literal⟩
    · cases taken
      exact ⟨[], rfl, .missing⟩

theorem takeFormat?_complete {format? : Option Token} {run : List Token}
    (ended : finish.kind = .endOfText) (formatting : Formatting run format?)
    (follows : ∀ next ∈ rest.head?, next.kind ≠ .formatSeparator) :
    takeFormat? finish (run ++ rest) = .ok (format?, rest) := by
  cases formatting with
  | missing =>
    cases rest with
    | nil => rfl
    | cons next rest => exact if_neg (follows next rfl)
  | @present separator format separates literal =>
    have taken : takeLiteral finish .formatSeparator (format :: rest) = .ok (format, rest) :=
      (takeLiteral_eq_ok_iff ended).2 ⟨rfl, literal⟩
    simp [takeFormat?, separates, taken, bind, Except.bind]

theorem joinArgument_cons (first : Token) (more : List Token) : joinArgument first (first :: more) =
    { kind := .literal
      text := String.join ((first :: more).map (·.text))
      start := first.start
      stop := ((first :: more).getLast (List.cons_ne_nil first more)).stop } := by
  rw [joinArgument, List.getLast?_eq_some_getLast (List.cons_ne_nil first more)]
  rfl

theorem isArgument_iff {token : Token} : isArgument token = true ↔
    token.kind ≠ .nestingCloser ∧ token.kind ≠ .endOfText := by
  simp [isArgument]

theorem exists_closer (ended : finish.kind = .endOfText)
    (closes : (tokens.headD finish).kind = .nestingCloser) :
    ∃ closer behind, tokens = closer :: behind ∧ closer.kind = .nestingCloser := by
  cases tokens with
  | nil =>
    rw [List.headD_nil, ended] at closes
    cases closes
  | cons closer behind => exact ⟨closer, behind, rfl, closes⟩

theorem argument_takeWhile {following behind : List Token} {closer : Token}
    (notSeparator : isSeparator (following.headD finish).kind = false)
    (notCloser : (following.headD finish).kind ≠ .nestingCloser)
    (split : following.dropWhile isArgument = closer :: behind)
    (closes : closer.kind = .nestingCloser) :
    following = following.takeWhile isArgument ++ closer :: behind ∧
      Argument (following.takeWhile isArgument)
        (joinArgument (following.headD finish) (following.takeWhile isArgument)) := by
  constructor
  · rw [← split, List.takeWhile_append_dropWhile]
  · cases following with
    | nil => cases split
    | cons first more =>
      rw [List.headD_cons] at notSeparator notCloser ⊢
      have inside : isArgument first = true := by
        by_contra outside
        rw [List.dropWhile_cons_of_neg outside] at split
        obtain ⟨rfl, -⟩ := List.cons.inj split
        exact notCloser closes
      have others : ∀ token ∈ first :: more.takeWhile isArgument,
          token.kind ≠ .nestingCloser ∧ token.kind ≠ .endOfText := by
        intro token member
        rw [← List.takeWhile_cons_of_pos inside] at member
        exact isArgument_iff.1 (List.mem_takeWhile_imp member)
      rw [List.takeWhile_cons_of_pos inside, joinArgument_cons]
      exact .intro notSeparator others

theorem takeArgument?_sound {argument? : Option Token} (ended : finish.kind = .endOfText)
    (taken : takeArgument? finish opener tokens = .ok (argument?, rest)) :
    (argument? = none ∧ rest = tokens) ∨ ∃ separator run argument closer behind,
      argument? = some argument ∧ rest = closer :: behind ∧
        tokens = separator :: (run ++ closer :: behind) ∧ isSeparator separator.kind = true ∧
        Argument run argument ∧ closer.kind = .nestingCloser := by
  cases tokens with
  | nil =>
    cases taken
    exact .inl ⟨rfl, rfl⟩
  | cons separator following =>
    simp only [takeArgument?] at taken
    split at taken
    · rename_i separates
      split at taken
      · cases taken
      · rename_i begins
        split at taken
        · rename_i closes
          cases taken
          simp only [Bool.or_eq_true, decide_eq_true_eq, not_or, Bool.not_eq_true] at begins
          obtain ⟨closer, behind, split, closes⟩ := exists_closer ended closes
          obtain ⟨whole, argues⟩ := argument_takeWhile begins.1 begins.2 split closes
          exact .inr ⟨separator, _, _, closer, behind, rfl, split, by rw [← whole], separates,
            argues, closes⟩
        · cases taken
    · cases taken
      exact .inl ⟨rfl, rfl⟩

theorem takeArgument?_complete {separator closer argument : Token} {run : List Token}
    (separates : isSeparator separator.kind = true) (argues : Argument run argument)
    (closes : closer.kind = .nestingCloser) :
    takeArgument? finish opener (separator :: (run ++ closer :: rest)) =
      .ok (some argument, closer :: rest) := by
  cases argues with
  | @intro first more notSeparator others =>
    have inside : ∀ token ∈ first :: more, isArgument token = true :=
      fun token member => isArgument_iff.2 (others token member)
    have outside : ¬isArgument closer = true := fun other => (isArgument_iff.1 other).1 closes
    have notCloser : first.kind ≠ .nestingCloser := (others first List.mem_cons_self).1
    have behind : (first :: more ++ closer :: rest).dropWhile isArgument = closer :: rest := by
      rw [List.dropWhile_append_of_pos inside, List.dropWhile_cons_of_neg outside]
    have run : (first :: more ++ closer :: rest).takeWhile isArgument = first :: more := by
      rw [List.takeWhile_append_of_pos inside, List.takeWhile_cons_of_neg outside,
        List.append_nil]
    rw [List.cons_append] at behind run ⊢
    rw [← joinArgument_cons, takeArgument?, if_pos separates]
    simp [behind, run, notSeparator, notCloser, closes]

theorem takeArgument?_of_follows
    (follows : ∀ next ∈ tokens.head?, isSeparator next.kind = false) :
    takeArgument? finish opener tokens = .ok (none, tokens) := by
  cases tokens with
  | nil => rfl
  | cons next rest => exact if_neg (Bool.eq_false_iff.1 (follows next rfl))

theorem takeInterpolation_eq_ok_iff {segment : Segment} :
    takeInterpolation finish opener tokens = .ok (segment, rest) ↔
      ∃ key behindKey format? behindFormat stop,
        takeLiteral finish opener.kind tokens = .ok (key, behindKey) ∧
        takeFormat? finish behindKey = .ok (format?, behindFormat) ∧
        takeCloser .interpolationCloser opener.stop behindFormat = (stop, rest) ∧
        segment = .interpolation { opener with stop } key format? := by
  constructor
  · intro taken
    obtain ⟨⟨key, behindKey⟩, atKey, taken⟩ := exists_of_bind_eq_ok taken
    obtain ⟨⟨format?, behindFormat⟩, atFormat, taken⟩ := exists_of_bind_eq_ok taken
    cases taken
    exact ⟨key, behindKey, format?, behindFormat, _, atKey, atFormat, rfl, rfl⟩
  · rintro ⟨key, behindKey, format?, behindFormat, stop, atKey, atFormat, closed, rfl⟩
    simp [takeInterpolation, atKey, atFormat, closed, bind, Except.bind]

theorem takeNesting_eq_ok_iff {segment : Segment} :
    takeNesting finish opener tokens = .ok (segment, rest) ↔
      ∃ key behindKey argument? behindArgument stop,
        takeLiteral finish opener.kind tokens = .ok (key, behindKey) ∧
        takeArgument? finish opener behindKey = .ok (argument?, behindArgument) ∧
        takeCloser .nestingCloser opener.stop behindArgument = (stop, rest) ∧
        segment = .nesting { opener with stop } key argument? := by
  constructor
  · intro taken
    obtain ⟨⟨key, behindKey⟩, atKey, taken⟩ := exists_of_bind_eq_ok taken
    obtain ⟨⟨argument?, behindArgument⟩, atArgument, taken⟩ := exists_of_bind_eq_ok taken
    cases taken
    exact ⟨key, behindKey, argument?, behindArgument, _, atKey, atArgument, rfl, rfl⟩
  · rintro ⟨key, behindKey, argument?, behindArgument, stop, atKey, atArgument, closed, rfl⟩
    simp [takeNesting, atKey, atArgument, closed, bind, Except.bind]

theorem takeInterpolation_sound {segment : Segment} (ended : finish.kind = .endOfText)
    (opens : opener.kind = .interpolationOpener)
    (taken : takeInterpolation finish opener tokens = .ok (segment, rest)) :
    ∃ run, tokens = run ++ rest ∧ Form (opener :: run) segment := by
  obtain ⟨key, behindKey, format?, behindFormat, stop, atKey, atFormat, closed, rfl⟩ :=
    takeInterpolation_eq_ok_iff.1 taken
  obtain ⟨rfl, literal⟩ := (takeLiteral_eq_ok_iff ended).1 atKey
  obtain ⟨formatting, rfl, formats⟩ := takeFormat?_sound ended atFormat
  obtain ⟨closing, rfl, closes⟩ := takeCloser_sound closed
  exact ⟨key :: (formatting ++ closing), by simp, .interpolation opens literal formats closes⟩

theorem takeNesting_sound {segment : Segment} (ended : finish.kind = .endOfText)
    (opens : opener.kind = .nestingOpener)
    (taken : takeNesting finish opener tokens = .ok (segment, rest)) :
    ∃ run, tokens = run ++ rest ∧ Form (opener :: run) segment := by
  obtain ⟨key, behindKey, argument?, behindArgument, stop, atKey, atArgument, closed, rfl⟩ :=
    takeNesting_eq_ok_iff.1 taken
  obtain ⟨rfl, literal⟩ := (takeLiteral_eq_ok_iff ended).1 atKey
  rcases takeArgument?_sound ended atArgument with ⟨rfl, rfl⟩ |
    ⟨separator, run, argument, closer, behind, rfl, rfl, rfl, separates, argues, closes⟩
  · obtain ⟨closing, rfl, closes⟩ := takeCloser_sound closed
    exact ⟨key :: closing, rfl, .nesting opens literal closes⟩
  · rw [takeCloser, if_pos closes] at closed
    obtain ⟨rfl, rfl⟩ := Prod.mk.inj closed
    refine ⟨key :: separator :: (run ++ [closer]), by simp, ?_⟩
    exact .nestingWith opens literal separates argues closes

theorem takeSegment_sound {source : String} {previous? : Option TokenKind} {token : Token}
    {segment : Segment} (taken : takeSegment source previous? token tokens = .ok (segment, rest)) :
    ∃ run, token :: tokens = run ++ rest ∧ Form run segment := by
  unfold takeSegment at taken
  simp only at taken
  split at taken
  · rename_i literal
    cases taken
    exact ⟨[token], rfl, .literal literal⟩
  · rename_i opens
    obtain ⟨run, rfl, form⟩ := takeInterpolation_sound rfl opens taken
    exact ⟨token :: run, rfl, form⟩
  · rename_i opens
    obtain ⟨run, rfl, form⟩ := takeNesting_sound rfl opens taken
    exact ⟨token :: run, rfl, form⟩
  · cases taken

/-! ## Each form is taken -/

theorem takeSegment_of_interpolation {source : String} {previous? : Option TokenKind}
    (opens : opener.kind = .interpolationOpener) (tokens : List Token) :
    takeSegment source previous? opener tokens =
      takeInterpolation (Token.endAt (Text.byteLength source.toList)) opener tokens := by
  simp only [takeSegment, opens]

theorem takeSegment_of_nesting {source : String} {previous? : Option TokenKind}
    (opens : opener.kind = .nestingOpener) (tokens : List Token) :
    takeSegment source previous? opener tokens =
      takeNesting (Token.endAt (Text.byteLength source.toList)) opener tokens := by
  simp only [takeSegment, opens]

theorem takeSegment_complete {source : String} {previous? : Option TokenKind} {token : Token}
    {run : List Token} {segment : Segment} (form : Form (token :: run) segment)
    (follows : Follows rest) :
    takeSegment source previous? token (run ++ rest) = .ok (segment, rest) := by
  have ended : (Token.endAt (Text.byteLength source.toList)).kind = .endOfText := rfl
  cases form with
  | literal literal => simp [takeSegment, literal]
  | @interpolation _ key formatting closing format? stop opens literal formats closes =>
    rw [takeSegment_of_interpolation opens, takeInterpolation_eq_ok_iff]
    refine ⟨key, formatting ++ (closing ++ rest), format?, closing ++ rest, stop, ?_, ?_, ?_, rfl⟩
    · exact (takeLiteral_eq_ok_iff ended).2 ⟨by simp, literal⟩
    · exact takeFormat?_complete ended formats (closes.follows follows rfl nofun)
    · exact takeCloser_complete closes (follows.ne rfl)
  | @nesting _ key closing stop opens literal closes =>
    rw [takeSegment_of_nesting opens, takeNesting_eq_ok_iff]
    have notNesting : ∀ next ∈ (closing ++ rest).head?, next.kind ≠ .nestingSeparator :=
      closes.follows follows rfl nofun
    have notFormat : ∀ next ∈ (closing ++ rest).head?, next.kind ≠ .formatSeparator :=
      closes.follows follows rfl nofun
    refine ⟨key, closing ++ rest, none, closing ++ rest, stop, ?_, ?_, ?_, rfl⟩
    · exact (takeLiteral_eq_ok_iff ended).2 ⟨by simp, literal⟩
    · refine takeArgument?_of_follows fun next member => ?_
      simp [isSeparator, notNesting next member, notFormat next member]
    · exact takeCloser_complete closes (follows.ne rfl)
  | @nestingWith _ key separator closer argument run opens literal separates argues closes =>
    rw [takeSegment_of_nesting opens, takeNesting_eq_ok_iff]
    refine ⟨key, separator :: (run ++ closer :: rest), some argument, closer :: rest, closer.stop,
      ?_, ?_, ?_, rfl⟩
    · exact (takeLiteral_eq_ok_iff ended).2 ⟨by simp, literal⟩
    · exact takeArgument?_complete separates argues closes
    · exact if_pos closes

end Steps

/-! ## Behind the end -/

section Unread

variable {finish opener : Token} {tokens : List Token}

def leaving {α : Type} (behind : List Token) (taken : α × List Token) : α × List Token :=
  (taken.1, taken.2 ++ behind)

theorem exists_cons_of_ended (ended : ¬Spoken tokens) : ∃ next rest, tokens = next :: rest := by
  cases tokens with
  | nil => exact absurd spoken_nil ended
  | cons next rest => exact ⟨next, rest, rfl⟩

theorem not_spoken_of_append {run rest : List Token} (ended : ¬Spoken (run ++ rest))
    (spoken : Spoken run) : ¬Spoken rest :=
  fun others => ended (spoken_append.2 ⟨spoken, others⟩)

theorem takeLiteral_append {after : TokenKind} (behind : List Token) (ended : ¬Spoken tokens) :
    takeLiteral finish after (tokens ++ behind) =
      (takeLiteral finish after tokens).map (leaving behind) := by
  obtain ⟨next, rest, rfl⟩ := exists_cons_of_ended ended
  by_cases literal : next.kind = .literal <;> simp [takeLiteral, literal, Except.map, leaving]

theorem takeCloser_append {closer : TokenKind} {stop : Nat} (behind : List Token)
    (ended : ¬Spoken tokens) : takeCloser closer stop (tokens ++ behind) =
      leaving behind (takeCloser closer stop tokens) := by
  obtain ⟨next, rest, rfl⟩ := exists_cons_of_ended ended
  by_cases closes : next.kind = closer <;> simp [takeCloser, closes, leaving]

theorem takeFormat?_append (behind : List Token) (ended : ¬Spoken tokens) :
    takeFormat? finish (tokens ++ behind) = (takeFormat? finish tokens).map (leaving behind) := by
  obtain ⟨next, rest, rfl⟩ := exists_cons_of_ended ended
  by_cases separates : next.kind = .formatSeparator
  · have restEnded : ¬Spoken rest := by simpa [separates] using ended
    simp only [takeFormat?, List.cons_append, separates, if_true,
      takeLiteral_append behind restEnded]
    cases takeLiteral finish .formatSeparator rest <;> rfl
  · simp [takeFormat?, separates, Except.map, leaving]

theorem takeArgument?_append (behind : List Token) (ended : ¬Spoken tokens) :
    takeArgument? finish opener (tokens ++ behind) =
      (takeArgument? finish opener tokens).map (leaving behind) := by
  obtain ⟨next, rest, rfl⟩ := exists_cons_of_ended ended
  cases separates : isSeparator next.kind with
  | false => simp [takeArgument?, separates, Except.map, leaving]
  | true =>
    have restEnded : ¬Spoken rest := by
      simpa [ne_endOfText_of_isSeparator separates] using ended
    have head : (rest ++ behind).headD finish = rest.headD finish := by
      obtain ⟨first, more, rfl⟩ := exists_cons_of_ended restEnded
      rfl
    -- An end is no part of an argument, so that the argument ends in front of `behind`.
    have unread : rest.dropWhile isArgument ≠ [] := by
      intro whole
      have spoken := List.dropWhile_eq_nil_iff.1 whole
      exact restEnded fun token member => (isArgument_iff.1 (spoken token member)).2
    obtain ⟨closer, others, split⟩ := List.exists_cons_of_ne_nil unread
    have dropped : (rest ++ behind).dropWhile isArgument = closer :: (others ++ behind) := by
      simp [List.dropWhile_append, split]
    have taken : (rest ++ behind).takeWhile isArgument = rest.takeWhile isArgument := by
      have whole : rest.takeWhile isArgument ++ rest.dropWhile isArgument = rest :=
        List.takeWhile_append_dropWhile
      have size := congrArg List.length whole
      rw [split, List.length_append, List.length_cons] at size
      rw [List.takeWhile_append, if_neg (by omega)]
    simp only [takeArgument?, List.cons_append, separates, if_true, head, dropped, taken, split,
      List.headD_cons]
    split
    · rfl
    · split <;> rfl

/-- A step that stays in front of an end: it takes no end, and never looks behind one. -/
structure Bounded {α : Type} (step : List Token → Except MessageFault (α × List Token)) :
    Prop where
  append : ∀ {tokens : List Token} (behind : List Token), ¬Spoken tokens →
    step (tokens ++ behind) = (step tokens).map (leaving behind)
  leaves : ∀ {tokens rest : List Token} {value : α}, ¬Spoken tokens →
    step tokens = .ok (value, rest) → ¬Spoken rest

theorem Bounded.bind {α β : Type} {first : List Token → Except MessageFault (α × List Token)}
    {second : α → List Token → Except MessageFault (β × List Token)} (bounded : Bounded first)
    (others : ∀ value, Bounded (second value)) :
    Bounded fun tokens => first tokens >>= fun taken => second taken.1 taken.2 where
  append {tokens} behind ended := by
    simp only [bounded.append behind ended]
    cases atFirst : first tokens with
    | error fault => rfl
    | ok taken => exact (others taken.1).append behind (bounded.leaves ended atFirst)
  leaves {tokens rest value} ended taken := by
    obtain ⟨taken, atFirst, atSecond⟩ := exists_of_bind_eq_ok taken
    exact (others taken.1).leaves (bounded.leaves ended atFirst) atSecond

theorem bounded_takeLiteral (ends : finish.kind = .endOfText) (after : TokenKind) :
    Bounded (takeLiteral finish after) where
  append := takeLiteral_append
  leaves ended taken := by
    obtain ⟨rfl, literal⟩ := (takeLiteral_eq_ok_iff ends).1 taken
    simpa [literal] using ended

theorem bounded_takeFormat? (ends : finish.kind = .endOfText) : Bounded (takeFormat? finish) where
  append := takeFormat?_append
  leaves ended taken := by
    obtain ⟨run, rfl, formats⟩ := takeFormat?_sound ends taken
    exact not_spoken_of_append ended formats.spoken

theorem bounded_takeArgument? (ends : finish.kind = .endOfText) (opener : Token) :
    Bounded (takeArgument? finish opener) where
  append := takeArgument?_append
  leaves ended taken := by
    rcases takeArgument?_sound ends taken with ⟨-, rfl⟩ |
      ⟨separator, run, _, closer, others, -, rfl, rfl, separates, argues, -⟩
    · exact ended
    · have runEnded : ¬Spoken (run ++ closer :: others) := by
        simpa [ne_endOfText_of_isSeparator separates] using ended
      exact not_spoken_of_append runEnded argues.spoken

theorem bounded_takeCloser (closer : TokenKind) (marker : closer ≠ .endOfText) (stop : Nat)
    (closed : Nat → Segment) : Bounded fun tokens =>
      .ok (closed (takeCloser closer stop tokens).1, (takeCloser closer stop tokens).2) where
  append behind ended := by
    rw [takeCloser_append behind ended]
    rfl
  leaves {tokens _ _} ended taken := by
    cases taken
    obtain ⟨run, split, closing⟩ :=
      takeCloser_sound (Prod.eta (takeCloser closer stop tokens)).symm
    rw [split] at ended
    exact not_spoken_of_append ended (closing.spoken marker)

theorem bounded_takeInterpolation (ends : finish.kind = .endOfText) :
    Bounded (takeInterpolation finish opener) := by
  have closing (key : Token) (format? : Option Token) :=
    bounded_takeCloser .interpolationCloser nofun opener.stop fun stop =>
      .interpolation { opener with stop } key format?
  have formatting (key : Token) := (bounded_takeFormat? ends).bind (closing key)
  exact (bounded_takeLiteral ends opener.kind).bind formatting

theorem bounded_takeNesting (ends : finish.kind = .endOfText) :
    Bounded (takeNesting finish opener) := by
  have closing (key : Token) (argument? : Option Token) :=
    bounded_takeCloser .nestingCloser nofun opener.stop fun stop =>
      .nesting { opener with stop } key argument?
  have arguing (key : Token) := (bounded_takeArgument? ends opener).bind (closing key)
  exact (bounded_takeLiteral ends opener.kind).bind arguing

theorem takeSegment_append {source : String} {previous? : Option TokenKind} {token : Token}
    (behind : List Token) (ended : ¬Spoken tokens) :
    takeSegment source previous? token (tokens ++ behind) =
      (takeSegment source previous? token tokens).map (leaving behind) := by
  unfold takeSegment
  simp only
  split
  · rfl
  · exact (bounded_takeInterpolation rfl).append behind ended
  · exact (bounded_takeNesting rfl).append behind ended
  · rfl

end Unread

end Segment

end Phrasebook
