import Phrasebook.Proofs.Message.Reading

/-!
# Where reading fails

Reading fails at the first token that no message goes on with (`segments_fails_at_impossible`).
What stands in front of it can be completed to a message: it is some segments and the beginning of
one more (`Halted.exists_completion`). A list that begins with these tokens and this one fails in
the same way whatever follows, since each step looks at no more than the token behind what it takes
(`Local`) and stops at the first token that breaks a segment (`Broken.takeSegment`).
-/

namespace Phrasebook

namespace Segment

/-! ## Broken segments -/

section Broken

structure Unclosed (opener key separator : Token) (run : List Token) : Prop where
  opens : opener.kind = .nestingOpener
  keyed : key.kind = .literal
  separates : isSeparator separator.kind = true
  inside : ∀ token ∈ run, isArgument token = true
  begins : ∀ first ∈ run.head?, isSeparator first.kind = false

inductive Broken : List Token → Token → MessageFault → Prop
  | key {opener next : Token} :
      opener.kind = .interpolationOpener ∨ opener.kind = .nestingOpener → next.kind ≠ .literal →
      Broken [opener] next (.expectedLiteral opener.kind next.kind next.start next.stop)
  | format {opener key separator next : Token} : opener.kind = .interpolationOpener →
      key.kind = .literal → separator.kind = .formatSeparator → next.kind ≠ .literal →
      Broken [opener, key, separator] next
        (.expectedLiteral .formatSeparator next.kind next.start next.stop)
  | argument {opener key separator next : Token} : opener.kind = .nestingOpener →
      key.kind = .literal → isSeparator separator.kind = true →
      isSeparator next.kind = true ∨ next.kind = .nestingCloser →
      Broken [opener, key, separator] next
        (.expectedLiteral separator.kind next.kind next.start next.stop)
  | unclosed {opener key separator next : Token} {run : List Token} :
      Unclosed opener key separator run → next.kind = .endOfText →
      Broken (opener :: key :: separator :: run) next
        (.unterminatedNesting opener.start next.stop)

variable {finish opener next : Token} {tokens begun : List Token} {fault : MessageFault}

theorem eq_error_of_bind_eq_error {ε α β : Type} {first : Except ε α} {second : α → Except ε β}
    {fault : ε} (failed : first >>= second = .error fault) :
    first = .error fault ∨ ∃ value, first = .ok value ∧ second value = .error fault := by
  cases first with
  | error other =>
    cases failed
    exact .inl rfl
  | ok value => exact .inr ⟨value, rfl, failed⟩

theorem exists_append_eq_headD_cons (finish : Token) (tokens : List Token) :
    ∃ behind, tokens ++ [finish] = tokens.headD finish :: behind := by
  cases tokens with
  | nil => exact ⟨[], rfl⟩
  | cons next rest => exact ⟨rest ++ [finish], rfl⟩

theorem takeLiteral_eq_error {after : TokenKind}
    (failed : takeLiteral finish after tokens = .error fault) :
    ∃ next behind, tokens ++ [finish] = next :: behind ∧ next.kind ≠ .literal ∧
      fault = .expectedLiteral after next.kind next.start next.stop := by
  obtain ⟨behind, split⟩ := exists_append_eq_headD_cons finish tokens
  simp only [takeLiteral] at failed
  split at failed
  · cases failed
  · rename_i broken
    cases failed
    exact ⟨_, behind, split, broken, rfl⟩

theorem takeFormat?_eq_error (failed : takeFormat? finish tokens = .error fault) :
    ∃ separator next behind, tokens ++ [finish] = separator :: next :: behind ∧
      separator.kind = .formatSeparator ∧ next.kind ≠ .literal ∧
      fault = .expectedLiteral .formatSeparator next.kind next.start next.stop := by
  cases tokens with
  | nil => cases failed
  | cons separator rest =>
    rw [takeFormat?] at failed
    split at failed
    · rename_i separates
      rcases eq_error_of_bind_eq_error failed with failed | ⟨taken, -, failed⟩
      · obtain ⟨next, behind, split, broken, rfl⟩ := takeLiteral_eq_error failed
        exact ⟨separator, next, behind, congrArg (separator :: ·) split, separates, broken, rfl⟩
      · cases failed
    · cases failed

theorem kind_headD_dropWhile (ended : finish.kind = .endOfText) :
    ((tokens.dropWhile isArgument).headD finish).kind = .nestingCloser ∨
      ((tokens.dropWhile isArgument).headD finish).kind = .endOfText := by
  cases left : tokens.dropWhile isArgument with
  | nil => exact .inr ended
  | cons next rest =>
    have stops := List.head?_dropWhile_not isArgument tokens
    rw [left] at stops
    simpa [isArgument, imp_iff_not_or] using stops

theorem takeArgument?_eq_error {key : Token} (ended : finish.kind = .endOfText)
    (opens : opener.kind = .nestingOpener) (keyed : key.kind = .literal)
    (failed : takeArgument? finish opener tokens = .error fault) :
    ∃ begun next behind, tokens ++ [finish] = begun ++ next :: behind ∧
      Broken (opener :: key :: begun) next fault := by
  cases tokens with
  | nil => cases failed
  | cons separator rest =>
    simp only [takeArgument?] at failed
    split at failed
    · rename_i separates
      split at failed
      · rename_i marker
        rw [Bool.or_eq_true, decide_eq_true_eq] at marker
        cases failed
        obtain ⟨behind, split⟩ := exists_append_eq_headD_cons finish rest
        exact ⟨[separator], _, behind, congrArg (separator :: ·) split,
          .argument opens keyed separates marker⟩
      · rename_i begins
        split at failed
        · cases failed
        · rename_i unclosed
          cases failed
          -- The run stops in front of an end, since it stops and no closing marker stands there.
          obtain ⟨behind, split⟩ :=
            exists_append_eq_headD_cons finish (rest.dropWhile isArgument)
          have whole : rest ++ [finish] = rest.takeWhile isArgument ++
              (rest.dropWhile isArgument).headD finish :: behind := by
            rw [← split, ← List.append_assoc, List.takeWhile_append_dropWhile]
          have argues : Unclosed opener key separator (rest.takeWhile isArgument) := by
            refine ⟨opens, keyed, separates, fun token => List.mem_takeWhile_imp, ?_⟩
            intro first member
            cases rest with
            | nil => cases member
            | cons next more =>
              rw [List.head?_takeWhile, Option.mem_def, Option.filter_eq_some_iff] at member
              obtain ⟨⟨⟩, -⟩ := member
              simp_all
          exact ⟨separator :: rest.takeWhile isArgument, _, behind,
            congrArg (separator :: ·) whole,
            .unclosed argues ((kind_headD_dropWhile ended).resolve_left unclosed)⟩
    · cases failed

theorem broken_of_takeInterpolation (ended : finish.kind = .endOfText)
    (opens : opener.kind = .interpolationOpener)
    (failed : takeInterpolation finish opener tokens = .error fault) :
    ∃ begun next behind, tokens ++ [finish] = begun ++ next :: behind ∧
      Broken (opener :: begun) next fault := by
  rcases eq_error_of_bind_eq_error failed with failed | ⟨⟨key, rest⟩, atKey, behindKey⟩
  · obtain ⟨next, behind, split, broken, rfl⟩ := takeLiteral_eq_error failed
    exact ⟨[], next, behind, split, .key (.inl opens) broken⟩
  · obtain ⟨rfl, keyed⟩ := (takeLiteral_eq_ok_iff ended).1 atKey
    rcases eq_error_of_bind_eq_error behindKey with failed | ⟨taken, -, failed⟩
    · obtain ⟨separator, next, behind, split, separates, broken, rfl⟩ :=
        takeFormat?_eq_error failed
      exact ⟨[key, separator], next, behind, congrArg (key :: ·) split,
        .format opens keyed separates broken⟩
    · cases failed

theorem broken_of_takeNesting (ended : finish.kind = .endOfText)
    (opens : opener.kind = .nestingOpener)
    (failed : takeNesting finish opener tokens = .error fault) :
    ∃ begun next behind, tokens ++ [finish] = begun ++ next :: behind ∧
      Broken (opener :: begun) next fault := by
  rcases eq_error_of_bind_eq_error failed with failed | ⟨⟨key, rest⟩, atKey, behindKey⟩
  · obtain ⟨next, behind, split, broken, rfl⟩ := takeLiteral_eq_error failed
    exact ⟨[], next, behind, split, .key (.inr opens) broken⟩
  · obtain ⟨rfl, keyed⟩ := (takeLiteral_eq_ok_iff ended).1 atKey
    rcases eq_error_of_bind_eq_error behindKey with failed | ⟨taken, -, failed⟩
    · obtain ⟨begun, next, behind, split, broken⟩ :=
        takeArgument?_eq_error ended opens keyed failed
      exact ⟨key :: begun, next, behind, congrArg (key :: ·) split, broken⟩
    · cases failed

theorem Unclosed.takeArgument? {key separator : Token} {run : List Token}
    (argues : Unclosed opener key separator run) (ends : next.kind = .endOfText)
    (behind : List Token) :
    takeArgument? finish opener (separator :: (run ++ next :: behind)) =
      .error (.unterminatedNesting opener.start next.stop) := by
  have outside : ¬isArgument next = true := by simp [isArgument, ends]
  have stops : (run ++ next :: behind).dropWhile isArgument = next :: behind := by
    rw [List.dropWhile_append_of_pos argues.inside, List.dropWhile_cons_of_neg outside]
  have begins : ¬(isSeparator ((run ++ next :: behind).headD finish).kind ||
      ((run ++ next :: behind).headD finish).kind = .nestingCloser) = true := by
    cases run with
    | nil => simp [ends, isSeparator]
    | cons first more =>
      have inside := isArgument_iff.1 (argues.inside first List.mem_cons_self)
      simp [argues.begins first rfl, inside.1]
  rw [Segment.takeArgument?, if_pos argues.separates]
  simp only [if_neg begins, stops, List.headD_cons, ends, reduceCtorEq, if_false]

theorem Broken.takeSegment {source : String} {previous? : Option TokenKind}
    (broken : Broken (opener :: begun) next fault) (behind : List Token) :
    takeSegment source previous? opener (begun ++ next :: behind) = .error fault := by
  cases broken with
  | key opens broken =>
    rcases opens with opens | opens
    · simp [takeSegment_of_interpolation opens, takeInterpolation, takeLiteral, broken, bind,
        Except.bind]
    · simp [takeSegment_of_nesting opens, takeNesting, takeLiteral, broken, bind, Except.bind]
  | format opens keyed separates broken =>
    simp [takeSegment_of_interpolation opens, takeInterpolation, takeLiteral, takeFormat?, keyed,
      separates, broken, bind, Except.bind]
  | argument opens keyed separates marker =>
    simp [takeSegment_of_nesting opens, takeNesting, takeLiteral, Segment.takeArgument?, keyed,
      separates, marker, bind, Except.bind]
  | unclosed argues ends =>
    simp [takeSegment_of_nesting argues.opens, takeNesting, takeLiteral, argues.keyed,
      argues.takeArgument? ends, bind, Except.bind]

theorem Broken.exists_form (broken : Broken begun next fault) :
    ∃ more segment, Form (begun ++ more) segment := by
  let word : Token := ⟨.literal, "", 0, 0⟩
  let closer : Token := ⟨.nestingCloser, "", 0, 0⟩
  cases broken with
  | key opens =>
    rcases opens with opens | opens
    · exact ⟨[word], _, .interpolation opens rfl .missing .missing⟩
    · exact ⟨[word], _, .nesting opens rfl .missing⟩
  | @format opener key separator _ opens keyed separates =>
    have formats : Formatting [separator, word] _ := .present separates rfl
    have form : Form (opener :: key :: ([separator, word] ++ [])) _ :=
      .interpolation opens keyed formats .missing
    exact ⟨[word], _, form⟩
  | argument opens keyed separates =>
    have argues : Argument [word] _ := .intro rfl (by simp [word])
    exact ⟨[word, closer], _, .nestingWith opens keyed separates argues rfl⟩
  | @unclosed opener key separator next run argues =>
    obtain ⟨opens, keyed, separates, inside, begins⟩ := argues
    cases run with
    | nil =>
      have argues : Argument [word] _ := .intro rfl (by simp [word])
      exact ⟨[word, closer], _, .nestingWith opens keyed separates argues rfl⟩
    | cons first more =>
      have argues : Argument (first :: more) _ :=
        .intro (begins first rfl) fun token member => isArgument_iff.1 (inside token member)
      exact ⟨[closer], _, .nestingWith opens keyed separates argues rfl⟩

theorem Broken.spoken (broken : Broken begun next fault) : Spoken begun := by
  cases broken with
  | key opens => rcases opens with opens | opens <;> simp [opens]
  | format opens keyed separates => simp [opens, keyed, separates]
  | argument opens keyed separates =>
    simp [opens, keyed, ne_endOfText_of_isSeparator separates]
  | unclosed argues =>
    have spoken : Spoken _ := fun token member => (isArgument_iff.1 (argues.inside token member)).2
    simp [argues.opens, argues.keyed, ne_endOfText_of_isSeparator argues.separates, spoken]

end Broken

/-! ## Looking ahead -/

section Local

variable {finish opener : Token} {tokens rest other : List Token}

/-- A step that looks at no more than the token behind what it takes. -/
structure Local {α : Type} (step : List Token → Except MessageFault (α × List Token)) : Prop where
  split : ∀ {tokens rest : List Token} {value : α}, step tokens = .ok (value, rest) →
    ∃ run, tokens = run ++ rest
  again : ∀ {run rest other : List Token} {value : α}, step (run ++ rest) = .ok (value, rest) →
    rest.head? = other.head? → step (run ++ other) = .ok (value, other)

theorem Local.bind {α β : Type} {first : List Token → Except MessageFault (α × List Token)}
    {second : α → List Token → Except MessageFault (β × List Token)} (near : Local first)
    (others : ∀ value, Local (second value)) :
    Local fun tokens => first tokens >>= fun taken => second taken.1 taken.2 where
  split taken := by
    obtain ⟨⟨value, left⟩, atFirst, atSecond⟩ := exists_of_bind_eq_ok taken
    obtain ⟨run, rfl⟩ := near.split atFirst
    obtain ⟨run', rfl⟩ := (others value).split atSecond
    exact ⟨run ++ run', (List.append_assoc ..).symm⟩
  again {run rest other result} taken same := by
    obtain ⟨⟨value, left⟩, atFirst, atSecond⟩ := exists_of_bind_eq_ok taken
    obtain ⟨run', rfl⟩ := (others value).split atSecond
    obtain ⟨front, split⟩ := near.split atFirst
    obtain rfl : run = front ++ run' := by
      rw [← List.append_assoc] at split
      exact List.append_cancel_right split
    rw [List.append_assoc] at atFirst ⊢
    have ahead : (run' ++ rest).head? = (run' ++ other).head? := by simp [List.head?_append, same]
    simp only [near.again atFirst ahead]
    exact (others value).again atSecond same

theorem local_takeLiteral (ends : finish.kind = .endOfText) (after : TokenKind) :
    Local (takeLiteral finish after) where
  split taken := by
    obtain ⟨rfl, -⟩ := (takeLiteral_eq_ok_iff ends).1 taken
    exact ⟨[_], rfl⟩
  again taken same := by
    obtain ⟨split, literal⟩ := (takeLiteral_eq_ok_iff ends).1 taken
    rw [← List.singleton_append] at split
    obtain rfl := List.append_cancel_right split
    exact (takeLiteral_eq_ok_iff ends).2 ⟨rfl, literal⟩

theorem follows_of_takeFormat? (taken : takeFormat? finish tokens = .ok (none, tokens)) :
    ∀ next ∈ tokens.head?, next.kind ≠ .formatSeparator := by
  intro next member separates
  obtain ⟨behind, rfl⟩ := List.head?_eq_some_iff.1 member
  rw [takeFormat?, if_pos separates] at taken
  obtain ⟨format, -, taken⟩ := exists_of_bind_eq_ok taken
  cases taken

theorem local_takeFormat? (ends : finish.kind = .endOfText) : Local (takeFormat? finish) where
  split taken := by
    obtain ⟨run, split, -⟩ := takeFormat?_sound ends taken
    exact ⟨run, split⟩
  again {run rest other _} taken same := by
    obtain ⟨run', split, formats⟩ := takeFormat?_sound ends taken
    obtain rfl := List.append_cancel_right split
    cases formats with
    | missing =>
      have follows : ∀ next ∈ rest.head?, next.kind ≠ .formatSeparator :=
        follows_of_takeFormat? taken
      rw [same] at follows
      exact takeFormat?_complete ends .missing follows
    | @present separator format separates literal =>
      have atFormat : takeLiteral finish .formatSeparator (format :: other) = .ok (format, other) :=
        (takeLiteral_eq_ok_iff ends).2 ⟨rfl, literal⟩
      simp [takeFormat?, separates, atFormat, bind, Except.bind]

theorem follows_of_takeArgument?
    (taken : takeArgument? finish opener tokens = .ok (none, tokens)) :
    ∀ next ∈ tokens.head?, isSeparator next.kind = false := by
  intro next member
  obtain ⟨behind, rfl⟩ := List.head?_eq_some_iff.1 member
  by_contra separates
  rw [takeArgument?, if_pos (by simpa using separates)] at taken
  simp only at taken
  split at taken
  · cases taken
  · split at taken <;> cases taken

theorem local_takeArgument? (ends : finish.kind = .endOfText) (opener : Token) :
    Local (takeArgument? finish opener) where
  split taken := by
    rcases takeArgument?_sound ends taken with ⟨-, rfl⟩ |
      ⟨separator, run, _, closer, behind, -, rfl, rfl, -⟩
    · exact ⟨[], rfl⟩
    · exact ⟨separator :: run, rfl⟩
  again {run rest other _} taken same := by
    rcases takeArgument?_sound ends taken with ⟨rfl, whole⟩ |
      ⟨separator, argument, _, closer, behind, rfl, rfl, split, separates, argues, closes⟩
    · obtain rfl : run = [] := List.append_left_eq_self.1 whole.symm
      have follows : ∀ next ∈ rest.head?, isSeparator next.kind = false :=
        follows_of_takeArgument? taken
      rw [same] at follows
      exact takeArgument?_of_follows follows
    · rw [← List.cons_append] at split
      obtain rfl := List.append_cancel_right split
      obtain ⟨more, rfl⟩ := List.head?_eq_some_iff.1 same.symm
      exact takeArgument?_complete separates argues closes

theorem follows_of_takeCloser {closer : TokenKind} {stop stop' : Nat}
    (taken : takeCloser closer stop tokens = (stop', tokens)) :
    ∀ next ∈ tokens.head?, next.kind ≠ closer := by
  intro next member closes
  obtain ⟨behind, rfl⟩ := List.head?_eq_some_iff.1 member
  rw [takeCloser, if_pos closes] at taken
  exact List.cons_ne_self next behind (Prod.mk.inj taken).2.symm

theorem takeCloser_again {closer : TokenKind} {stop stop' : Nat} {run : List Token}
    (taken : takeCloser closer stop (run ++ rest) = (stop', rest))
    (same : rest.head? = other.head?) :
    takeCloser closer stop (run ++ other) = (stop', other) := by
  obtain ⟨run', split, closing⟩ := takeCloser_sound taken
  obtain rfl := List.append_cancel_right split
  cases closing with
  | missing =>
    have follows : ∀ next ∈ rest.head?, next.kind ≠ closer := follows_of_takeCloser taken
    rw [same] at follows
    exact takeCloser_complete .missing follows
  | present closes => exact if_pos closes

theorem local_takeCloser (closer : TokenKind) (stop : Nat) (closed : Nat → Segment) :
    Local fun tokens =>
      .ok (closed (takeCloser closer stop tokens).1, (takeCloser closer stop tokens).2) where
  split {tokens _ _} taken := by
    cases taken
    obtain ⟨run, split, -⟩ := takeCloser_sound (Prod.eta (takeCloser closer stop tokens)).symm
    exact ⟨run, split⟩
  again {run rest other _} taken same := by
    obtain ⟨rfl, left⟩ := Prod.mk.inj (Except.ok.inj taken)
    have taken : takeCloser closer stop (run ++ rest) =
        ((takeCloser closer stop (run ++ rest)).1, rest) := Prod.ext rfl left
    rw [takeCloser_again taken same]

theorem local_takeInterpolation (ends : finish.kind = .endOfText) :
    Local (takeInterpolation finish opener) := by
  have closing (key : Token) (format? : Option Token) :=
    local_takeCloser .interpolationCloser opener.stop fun stop =>
      .interpolation { opener with stop } key format?
  have formatting (key : Token) := (local_takeFormat? ends).bind (closing key)
  exact (local_takeLiteral ends opener.kind).bind formatting

theorem local_takeNesting (ends : finish.kind = .endOfText) :
    Local (takeNesting finish opener) := by
  have closing (key : Token) (argument? : Option Token) :=
    local_takeCloser .nestingCloser opener.stop fun stop =>
      .nesting { opener with stop } key argument?
  have arguing (key : Token) := (local_takeArgument? ends opener).bind (closing key)
  exact (local_takeLiteral ends opener.kind).bind arguing

theorem local_takeSegment (source : String) (previous? : Option TokenKind) (token : Token) :
    Local (takeSegment source previous? token) := by
  unfold takeSegment
  simp only
  split
  · constructor
    · intro tokens rest segment taken
      cases taken
      exact ⟨[], rfl⟩
    · intro run rest other segment taken same
      obtain ⟨rfl, whole⟩ := Prod.mk.inj (Except.ok.inj taken)
      obtain rfl : run = [] := List.append_left_eq_self.1 whole
      rfl
  · exact local_takeInterpolation rfl
  · exact local_takeNesting rfl
  · constructor <;>
    · intros
      contradiction

end Local

/-! ## Whole messages -/

/-- Reading that found `count` segments stops in front of a token: no further segment is allowed,
none begins with this token, or one has begun that the token breaks. -/
inductive Halted (count : Nat) : List Token → Token → MessageFault → Prop
  | full {next : Token} : count = limit → next.kind ≠ .endOfText →
      Halted count [] next (.tooManySegments limit next.kind next.start next.stop)
  | stray {next : Token} {previous? : Option TokenKind} {excerpt : String} : count < limit →
      Halted count [] next
        (.unexpectedToken next.kind next.text previous? excerpt next.start next.stop)
  | broken {begun : List Token} {next : Token} {fault : MessageFault} : count < limit →
      Broken begun next fault → Halted count begun next fault

variable {count : Nat} {begun : List Token} {next : Token} {fault : MessageFault}

theorem Halted.spoken (halted : Halted count begun next fault) : Spoken begun := by
  cases halted with
  | full | stray => exact spoken_nil
  | broken _ broken => exact broken.spoken

theorem Halted.found (halted : Halted count begun next fault) : fault.found = next.kind := by
  cases halted with
  | full | stray => rfl
  | broken _ broken =>
    cases broken with
    | key | format | argument => rfl
    | unclosed _ ends => exact ends.symm

theorem Halted.exists_completion (halted : Halted count begun next fault) :
    ∃ more segments, Derivation (begun ++ more) segments ∧ count + segments.length ≤ limit := by
  cases halted with
  | full full => exact ⟨[], [], rfl, Nat.le_of_eq full⟩
  | stray room => exact ⟨[], [], rfl, Nat.le_of_lt room⟩
  | broken room broken =>
    obtain ⟨more, segment, form⟩ := broken.exists_form
    exact ⟨more, [segment], form.derivation, room⟩

theorem exists_halted_of_takeSegment {source : String} {previous? : Option TokenKind}
    {token : Token} {tokens : List Token} (room : count < limit)
    (failed : takeSegment source previous? token tokens = .error fault) :
    ∃ begun next behind,
      token :: tokens ++ [Token.endAt (Text.byteLength source.toList)] = begun ++ next :: behind ∧
      Halted count begun next fault ∧ ∀ more, ∃ rest, begun ++ next :: more = token :: rest ∧
        takeSegment source previous? token rest = .error fault := by
  have stuck {begun : List Token} {next : Token} (broken : Broken (token :: begun) next fault)
      (more : List Token) : ∃ rest, token :: begun ++ next :: more = token :: rest ∧
        takeSegment source previous? token rest = .error fault :=
    ⟨begun ++ next :: more, rfl, broken.takeSegment more⟩
  cases kind : token.kind with
  | literal => simp [takeSegment, kind] at failed
  | interpolationOpener =>
    rw [takeSegment_of_interpolation kind] at failed
    obtain ⟨begun, next, behind, split, broken⟩ := broken_of_takeInterpolation rfl kind failed
    exact ⟨token :: begun, next, behind, congrArg (token :: ·) split, .broken room broken,
      stuck broken⟩
  | nestingOpener =>
    rw [takeSegment_of_nesting kind] at failed
    obtain ⟨begun, next, behind, split, broken⟩ := broken_of_takeNesting rfl kind failed
    exact ⟨token :: begun, next, behind, congrArg (token :: ·) split, .broken room broken,
      stuck broken⟩
  | endOfText | interpolationCloser | nestingCloser | formatSeparator | nestingSeparator =>
    have anywhere (rest : List Token) :
        takeSegment source previous? token rest = .error (.unexpectedToken token.kind token.text
          previous? (excerpt source token.start token.stop) token.start token.stop) := by
      simp [takeSegment, kind]
    obtain rfl := Except.error.inj (failed.symm.trans (anywhere tokens))
    exact ⟨[], token, tokens ++ [_], rfl, .stray room, fun more => ⟨more, rfl, anywhere more⟩⟩

theorem segmentsFrom_eq_error {source : String} {previous? : Option TokenKind}
    {tokens : List Token} (within : count ≤ limit)
    (failed : segmentsFrom source count previous? tokens = .error fault) :
    ∃ done result begun next behind,
      tokens ++ [Token.endAt (Text.byteLength source.toList)] =
        done ++ (begun ++ next :: behind) ∧
      Derivation done result ∧ Halted (count + result.length) begun next fault ∧
      ∀ more, segmentsFrom source count previous? (done ++ (begun ++ next :: more)) =
        .error fault := by
  fun_induction segmentsFrom source count previous? tokens with
  | case1 => cases failed
  | case2 => cases failed
  | case3 count previous? token rest spoken full =>
    cases failed
    refine ⟨[], [], [], token, rest ++ [_], rfl, rfl, .full ?_ spoken, fun more => ?_⟩
    · exact Nat.le_antisymm within full
    · simp [segmentsFrom, spoken, full]
  | case4 count previous? token rest spoken room fault stuck =>
    cases failed
    obtain ⟨begun, next, behind, split, halted, again⟩ :=
      exists_halted_of_takeSegment (Nat.not_le.1 room) stuck
    refine ⟨[], [], begun, next, behind, split, rfl, halted, fun more => ?_⟩
    obtain ⟨others, same, stuck⟩ := again more
    rw [List.nil_append, same, segmentsFrom_cons spoken (Nat.not_le.1 room), stuck]
    rfl
  | case5 count previous? token rest spoken room segment rest' taken ih =>
    obtain ⟨run, split, form⟩ := takeSegment_sound taken
    obtain ⟨_, more, rfl, -⟩ := form.exists_cons
    obtain ⟨rfl, rfl : rest = more ++ rest'⟩ := List.cons.inj split
    cases others : segmentsFrom source (count + 1) (some segment.token.kind) rest' with
    | ok segments =>
      rw [others] at failed
      cases failed
    | error other =>
      rw [others] at failed
      cases failed
      obtain ⟨done, result, begun, next, behind, split, derivation, halted, again⟩ :=
        ih (by omega) others
      refine ⟨token :: more ++ done, segment :: result, begun, next, behind, ?_,
        ⟨token :: more, done, rfl, form, derivation⟩, ?_, fun behind' => ?_⟩
      · rw [← List.cons_append, List.append_assoc, split, List.append_assoc]
      · rw [List.length_cons, Nat.add_comm result.length, ← Nat.add_assoc]
        exact halted
      · -- The token behind the segment is the same, so that the segment is taken again.
        have same : rest'.head? = (done ++ (begun ++ next :: behind')).head? := by
          have ahead := congrArg List.head? split
          cases rest' with
          | nil => simp [segmentsFrom] at others
          | cons first rest => simpa [List.head?_append] using ahead
        have taken := (local_takeSegment source previous? token).again taken same
        rw [List.append_assoc, List.cons_append, segmentsFrom_cons spoken (Nat.not_le.1 room),
          taken]
        simp [bind, Except.bind, again, Except.map]

end Segment

/-! ## Where the fault points -/

namespace Segment

def withEnd (source : String) (tokens : List Token) : List Token :=
  if tokens.any (·.kind = .endOfText) then tokens
  else tokens ++ [Token.endAt (Text.byteLength source.toList)]

end Segment

namespace MessageFault

def PointsAt (fault : MessageFault) (before : List Token) (token : Token) : Prop :=
  match fault with
  | unterminatedNesting start stop => stop = token.stop ∧
      ∃ done result opener key separator run, Segment.Derivation done result ∧
        Segment.Unclosed opener key separator run ∧
        before = done ++ opener :: key :: separator :: run ∧ start = opener.start
  | fault => fault.span = (token.start, token.stop)

end MessageFault

namespace Segment

theorem Halted.pointsAt {count : Nat} {done begun : List Token} {result : List Segment}
    {next : Token} {fault : MessageFault} (halted : Halted count begun next fault)
    (derivation : Derivation done result) : fault.PointsAt (done ++ begun) next := by
  cases halted with
  | full | stray => rfl
  | broken _ broken =>
    cases broken with
    | key | format | argument => rfl
    | unclosed argues =>
      exact ⟨rfl, done, result, _, _, _, _, derivation, argues, rfl, rfl⟩

theorem exists_withEnd_eq {source : String} {tokens before behind : List Token} {token : Token}
    (split : tokens ++ [Token.endAt (Text.byteLength source.toList)] = before ++ token :: behind)
    (spoken : Spoken before) : ∃ behind, withEnd source tokens = before ++ token :: behind := by
  unfold withEnd
  split
  · rename_i ended
    have unspoken : ¬Spoken tokens := by simpa [Spoken] using ended
    rcases List.append_eq_append_iff.1 split with ⟨more, rfl, -⟩ | ⟨rest, rfl, last⟩
    · exact absurd (spoken_append.1 spoken).1 unspoken
    · cases rest with
      | nil => exact absurd (by simpa using spoken) unspoken
      | cons first rest =>
        obtain ⟨rfl, -⟩ := List.cons.inj last
        exact ⟨rest, rfl⟩
  · exact ⟨behind, split⟩

end Segment

/-- Reading fails at the first token that no message goes on with: what stands in front of it is no
end and can be continued to a list that is read, and a list that goes on with it fails in the same
way whatever follows. The fault tells the kind of this token and its place, or, for a nesting that
is open at the first end, the place from its opening marker to this end. -/
theorem segments_fails_at_impossible {source : String} {tokens : List Token}
    {fault : MessageFault} (failed : segments source tokens = .error fault) :
    ∃ before token behind, Segment.withEnd source tokens = before ++ token :: behind ∧
      fault.found = token.kind ∧ fault.PointsAt before token ∧ Segment.Spoken before ∧
      (∃ more result, segments source (before ++ more) = .ok result) ∧
      ∀ more, segments source (before ++ token :: more) = .error fault := by
  obtain ⟨done, result, begun, next, behind, split, derivation, halted, again⟩ :=
    Segment.segmentsFrom_eq_error (Nat.zero_le _) failed
  rw [Nat.zero_add] at halted
  rw [← List.append_assoc] at split
  have spoken : Segment.Spoken (done ++ begun) :=
    Segment.spoken_append.2 ⟨derivation.spoken, halted.spoken⟩
  obtain ⟨behind, whole⟩ := Segment.exists_withEnd_eq split spoken
  refine ⟨done ++ begun, next, behind, whole, halted.found, halted.pointsAt derivation, spoken,
    ?_, fun more => ?_⟩
  · obtain ⟨more, segments, completed, room⟩ := halted.exists_completion
    have message := derivation.append completed
    refine ⟨more, result ++ segments, segments_eq_ok_iff.2 ⟨?_, ?_⟩⟩
    · rw [List.append_assoc, Segment.untilEnd, List.takeWhile_eq_self_iff.2]
      · exact message
      · exact fun token member => by simpa using message.spoken token member
    · rwa [List.length_append]
  · rw [List.append_assoc]
    exact again more

theorem openNesting_fails_at_impossible :
    let source := "Hi $t(a, \x7b\x7b"
    let tokens := [⟨.literal, "Hi ", 0, 3⟩, ⟨.nestingOpener, "$t(", 3, 6⟩, ⟨.literal, "a", 6, 7⟩,
      ⟨.formatSeparator, ",", 7, 8⟩, ⟨.literal, " ", 8, 9⟩,
      ⟨.interpolationOpener, "\x7b\x7b", 9, 11⟩]
    let fault := MessageFault.unterminatedNesting 3 11
    segments source tokens = .error fault ∧
      ∃ before token behind, Segment.withEnd source tokens = before ++ token :: behind ∧
        fault.found = token.kind ∧ fault.PointsAt before token ∧ Segment.Spoken before ∧
        (∃ more result, segments source (before ++ more) = .ok result) ∧
        ∀ more, segments source (before ++ token :: more) = .error fault := by
  intro source tokens fault
  have failed : segments source tokens = .error fault := by
    have stuck : Segment.takeSegment source (some .literal) ⟨.nestingOpener, "$t(", 3, 6⟩
        (tokens.drop 2) = .error fault := by decide
    rw [segments, Segment.segmentsFrom_cons (by decide) (by decide)]
    change (Segment.segmentsFrom source 1 (some .literal) (_ :: tokens.drop 2)).map _ = _
    rw [Segment.segmentsFrom_cons (by decide) (by decide), stuck]
    rfl
  exact ⟨failed, segments_fails_at_impossible failed⟩

end Phrasebook
