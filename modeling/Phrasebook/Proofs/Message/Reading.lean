import Phrasebook.Proofs.Message.Steps

namespace Phrasebook

namespace Segment

theorem Derivation.unique {tokens : List Token} {segments others : List Segment}
    (derivation : Derivation tokens segments) (otherwise : Derivation tokens others) :
    segments = others := by
  induction segments generalizing tokens others with
  | nil =>
    obtain rfl : tokens = [] := derivation
    cases others with
    | nil => rfl
    | cons other rest =>
      obtain ⟨run, behind, split, form, -⟩ := otherwise
      obtain ⟨token, more, rfl, -⟩ := form.exists_cons
      cases split
  | cons segment rest ih =>
    obtain ⟨run, behind, rfl, form, derivation⟩ := derivation
    obtain ⟨token, more, rfl, -⟩ := form.exists_cons
    cases others with
    | nil => cases otherwise
    | cons other otherRest =>
      obtain ⟨otherRun, otherBehind, split, otherForm, otherwise⟩ := otherwise
      obtain ⟨head, otherMore, rfl, -⟩ := otherForm.exists_cons
      obtain ⟨rfl, same⟩ : token = head ∧ more ++ behind = otherMore ++ otherBehind :=
        List.cons.inj split
      -- Both forms are what is taken from the same tokens.
      have ended : Follows [] := nofun
      have follows := derivation.follows ended
      have otherFollows := otherwise.follows ended
      rw [List.append_nil] at follows otherFollows
      have taken : takeSegment "" none token (more ++ behind) = .ok (segment, behind) :=
        takeSegment_complete form follows
      rw [same, takeSegment_complete otherForm otherFollows] at taken
      obtain ⟨rfl, rfl⟩ := Prod.mk.inj (Except.ok.inj taken)
      rw [ih derivation otherwise]

theorem segmentsFrom_cons {source : String} {count : Nat} {previous? : Option TokenKind}
    {token : Token} {tokens : List Token} (spoken : token.kind ≠ .endOfText)
    (room : count < limit) : segmentsFrom source count previous? (token :: tokens) =
      takeSegment source previous? token tokens >>= fun taken =>
        (segmentsFrom source (count + 1) (some taken.1.token.kind) taken.2).map
          (taken.1 :: ·) := by
  rw [segmentsFrom, if_neg spoken, if_neg (Nat.not_le.2 room)]
  split
  · rename_i failed
    rw [failed]
    rfl
  · rename_i taken
    rw [taken]
    rfl

theorem segmentsFrom_sound {source : String} {count : Nat} {previous? : Option TokenKind}
    {tokens : List Token} {result : List Segment} (within : count ≤ limit)
    (read : segmentsFrom source count previous? tokens = .ok result) :
    Derivation (untilEnd tokens) result ∧ count + result.length ≤ limit := by
  fun_induction segmentsFrom source count previous? tokens generalizing result with
  | case1 =>
    cases read
    exact ⟨rfl, within⟩
  | case2 count previous? token rest ended =>
    cases read
    exact ⟨by simp [Derivation, untilEnd, ended], within⟩
  | case3 => cases read
  | case4 => cases read
  | case5 count previous? token rest spoken room segment rest' taken ih =>
    obtain ⟨run, split, form⟩ := takeSegment_sound taken
    cases others : segmentsFrom source (count + 1) (some segment.token.kind) rest' with
    | error fault =>
      rw [others] at read
      cases read
    | ok segments =>
      rw [others] at read
      cases read
      obtain ⟨derivation, size⟩ := ih (by omega) others
      rw [split, untilEnd_append form.spoken]
      exact ⟨⟨run, untilEnd rest', rfl, form, derivation⟩, by rw [List.length_cons]; omega⟩

theorem segmentsFrom_complete {source : String} {count : Nat} {previous? : Option TokenKind}
    {tokens behind : List Token} {result : List Segment} (derivation : Derivation tokens result)
    (ended : ∀ next ∈ behind.head?, next.kind = .endOfText)
    (room : count + result.length ≤ limit) :
    segmentsFrom source count previous? (tokens ++ behind) = .ok result := by
  induction result generalizing count previous? tokens with
  | nil =>
    obtain rfl : tokens = [] := derivation
    cases behind with
    | nil => simp [segmentsFrom]
    | cons next rest => simp [segmentsFrom, ended next rfl]
  | cons segment rest ih =>
    obtain ⟨run, others, rfl, form, derivation⟩ := derivation
    obtain ⟨token, more, rfl, -⟩ := form.exists_cons
    have follows : Follows behind := by
      intro next member
      rw [ended next member]
      rfl
    have taken : takeSegment source previous? token (more ++ (others ++ behind)) =
        .ok (segment, others ++ behind) :=
      takeSegment_complete form (derivation.follows follows)
    have spoken := (spoken_cons.1 form.spoken).1
    rw [List.length_cons] at room
    have read : segmentsFrom source (count + 1) (some segment.token.kind) (others ++ behind) =
        .ok rest := ih derivation (by omega)
    rw [List.append_assoc, List.cons_append, segmentsFrom_cons spoken (by omega), taken]
    simp [bind, Except.bind, read, Except.map]

theorem segmentsFrom_append {source : String} {count : Nat} {previous? : Option TokenKind}
    {tokens : List Token} (behind : List Token) (ended : ¬Spoken tokens) :
    segmentsFrom source count previous? (tokens ++ behind) =
      segmentsFrom source count previous? tokens := by
  fun_induction segmentsFrom source count previous? tokens with
  | case1 => exact absurd spoken_nil ended
  | case2 count previous? token rest ends => simp [segmentsFrom, ends]
  | case3 count previous? token rest spoken full => simp [segmentsFrom, spoken, full]
  | case4 count previous? token rest spoken room fault failed =>
    have restEnded : ¬Spoken rest := by simpa [spoken] using ended
    rw [List.cons_append, segmentsFrom_cons spoken (Nat.not_le.1 room),
      takeSegment_append behind restEnded, failed]
    rfl
  | case5 count previous? token rest spoken room segment rest' taken ih =>
    have restEnded : ¬Spoken rest := by simpa [spoken] using ended
    obtain ⟨run, split, form⟩ := takeSegment_sound taken
    have leftEnded : ¬Spoken rest' := not_spoken_of_append (split ▸ ended) form.spoken
    rw [List.cons_append, segmentsFrom_cons spoken (Nat.not_le.1 room),
      takeSegment_append behind restEnded, taken]
    simp [bind, Except.bind, Except.map, leaving, ih leftEnded]

end Segment

theorem segments_eq_ok_iff {source : String} {tokens : List Token} {result : List Segment} :
    segments source tokens = .ok result ↔
      Segment.Derivation (Segment.untilEnd tokens) result ∧ result.length ≤ Segment.limit := by
  constructor
  · intro read
    have sound := Segment.segmentsFrom_sound (Nat.zero_le _) read
    rwa [Nat.zero_add] at sound
  · rintro ⟨derivation, size⟩
    have ended : ∀ next ∈ (tokens.dropWhile fun token => token.kind ≠ .endOfText).head?,
        next.kind = .endOfText := by
      intro next member
      have stops := List.head?_dropWhile_not (fun token : Token => token.kind ≠ .endOfText) tokens
      rw [Option.mem_def.1 member] at stops
      simpa using stops
    have read : Segment.segmentsFrom source 0 none (Segment.untilEnd tokens ++
        tokens.dropWhile fun token => token.kind ≠ .endOfText) = .ok result :=
      Segment.segmentsFrom_complete derivation ended (by rwa [Nat.zero_add])
    rwa [Segment.untilEnd, List.takeWhile_append_dropWhile] at read

/-- Reading gives the segments that the tokens in front of the first end derive, if they are at
most a hundred, and nothing behind an end plays a part. -/
theorem segments_grammar (source : String) (tokens : List Token) :
    (∀ result, segments source tokens = .ok result ↔
      Segment.Derivation (Segment.untilEnd tokens) result ∧ result.length ≤ 100) ∧
    (∀ result other, Segment.Derivation (Segment.untilEnd tokens) result →
      Segment.Derivation (Segment.untilEnd tokens) other → result = other) ∧
    ∀ finish behind, finish.kind = .endOfText →
      segments source (tokens ++ finish :: behind) = segments source (tokens ++ [finish]) := by
  refine ⟨fun result => segments_eq_ok_iff, fun _ _ derivation => derivation.unique, ?_⟩
  intro finish behind ends
  have ended : ¬Segment.Spoken (tokens ++ [finish]) := by simp [ends]
  have unread : Segment.segmentsFrom source 0 none ((tokens ++ [finish]) ++ behind) =
      Segment.segmentsFrom source 0 none (tokens ++ [finish]) :=
    Segment.segmentsFrom_append behind ended
  rwa [List.append_assoc, List.singleton_append] at unread

theorem argument_segments_grammar :
    let tokens := [⟨.nestingOpener, "$t(", 0, 3⟩, ⟨.literal, "key", 3, 6⟩,
      ⟨.formatSeparator, ",", 6, 7⟩, ⟨.literal, " a", 7, 9⟩, ⟨.formatSeparator, ",", 9, 10⟩,
      ⟨.nestingCloser, ")", 10, 11⟩]
    let result := [.nesting ⟨.nestingOpener, "$t(", 0, 11⟩ ⟨.literal, "key", 3, 6⟩
      (some ⟨.literal, " a,", 7, 10⟩)]
    segments "" tokens = .ok result ∧ Segment.Derivation (Segment.untilEnd tokens) result ∧
      (∀ other, Segment.Derivation (Segment.untilEnd tokens) other → result = other) ∧
      segments "" (tokens ++ Token.endAt 11 :: tokens) =
        segments "" (tokens ++ [Token.endAt 11]) := by
  intro tokens result
  have argues : Segment.Argument [⟨.literal, " a", 7, 9⟩, ⟨.formatSeparator, ",", 9, 10⟩]
      ⟨.literal, " a,", 7, 10⟩ := .intro rfl (by decide)
  have derivation : Segment.Derivation (Segment.untilEnd tokens) result :=
    ⟨tokens, [], rfl, .nestingWith rfl rfl rfl argues rfl, rfl⟩
  obtain ⟨reads, unique, unread⟩ := segments_grammar "" tokens
  exact ⟨(reads result).2 ⟨derivation, by decide⟩, derivation,
    fun other => unique result other derivation, unread (Token.endAt 11) tokens rfl⟩

end Phrasebook
