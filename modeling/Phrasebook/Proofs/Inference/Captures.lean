import Mathlib.Data.List.TakeWhile
import Phrasebook.Proofs.Inference.Backtracking
import Phrasebook.Proofs.Text.Positions

namespace Phrasebook

namespace Text

def StandsAt (part text : List Char) (position : Nat) : Prop :=
  ∃ front behind, text = front ++ (part ++ behind) ∧ byteLength front = position

theorem exists_append_of_byteLength_le {front other rest others : List Char}
    (same : front ++ rest = other ++ others) (before : byteLength front ≤ byteLength other) :
    ∃ added, other = front ++ added ∧ rest = added ++ others := by
  rcases List.append_eq_append_iff.1 same with split | ⟨added, rfl, rfl⟩
  · exact split
  · rw [byteLength_append] at before
    obtain rfl : added = [] := byteLength_eq_zero_iff.1 (by omega)
    exact ⟨[], by simp, by simp⟩

theorem not_mem_iff_not_standsAt {text front part behind : List Char} {char : Char}
    (split : text = front ++ (part ++ behind)) :
    char ∉ part ↔ ∀ position, byteLength front ≤ position →
      position < byteLength (front ++ part) → ¬StandsAt [char] text position := by
  constructor
  · rintro absent position from' before ⟨other, rest, otherSplit, rfl⟩
    rw [split] at otherSplit
    obtain ⟨added, rfl, inside⟩ := exists_append_of_byteLength_le otherSplit from'
    simp only [byteLength_append] at before
    obtain ⟨more, rfl, last⟩ := exists_append_of_byteLength_le inside.symm (by omega)
    cases more with
    | nil =>
      rw [List.append_nil] at before
      omega
    | cons first more =>
      obtain ⟨rfl, -⟩ := List.cons.inj last
      exact absent (by simp)
  · intro none member
    obtain ⟨before, more, rfl⟩ := List.append_of_mem member
    apply none (byteLength (front ++ before))
    · rw [byteLength_append]
      exact Nat.le_add_right _ _
    · have positive : 0 < char.utf8Size := char.utf8Size_pos
      simp only [byteLength_append, byteLength_cons]
      omega
    · exact ⟨front ++ before, more ++ behind, by simp [split], rfl⟩

end Text

/-! ## Scanning -/

/-- The captures are hits, each the first that starts behind the one before, and the last one has
none behind it. -/
def Scans (Hit : Capture → Prop) : (start : Nat) → List Capture → Prop
  | start, [] => ∀ capture, start ≤ capture.start → ¬Hit capture
  | start, capture :: rest =>
    (start ≤ capture.start ∧ Hit capture ∧
      ∀ other, start ≤ other.start → other.start < capture.start → ¬Hit other) ∧
    Scans Hit capture.stop rest

namespace Scans

variable {Hit Other : Capture → Prop} {start : Nat} {found others : List Capture}

theorem congr (same : ∀ capture, Hit capture ↔ Other capture) :
    Scans Hit start found ↔ Scans Other start found := by
  have equal : Hit = Other := funext fun capture => propext (same capture)
  rw [equal]

theorem mono {later : Nat} (scans : Scans Hit later found) (before : start ≤ later)
    (none : ∀ capture, start ≤ capture.start → capture.start < later → ¬Hit capture) :
    Scans Hit start found := by
  cases found with
  | nil =>
    intro capture behind
    by_cases near : capture.start < later
    · exact none capture behind near
    · exact scans capture (Nat.le_of_not_lt near)
  | cons capture rest =>
    obtain ⟨⟨behind, hit, first⟩, scans⟩ := scans
    refine ⟨⟨Nat.le_trans before behind, hit, ?_⟩, scans⟩
    intro other starts earlier
    by_cases near : other.start < later
    · exact none other starts near
    · exact first other (Nat.le_of_not_lt near) earlier

theorem unique (functional : ∀ capture other, Hit capture → Hit other →
      capture.start = other.start → capture = other)
    (scans : Scans Hit start found) (otherwise : Scans Hit start others) : found = others := by
  induction found generalizing start others with
  | nil =>
    cases others with
    | nil => rfl
    | cons other rest => exact absurd otherwise.1.2.1 (scans other otherwise.1.1)
  | cons capture rest ih =>
    obtain ⟨⟨behind, hit, first⟩, scans⟩ := scans
    cases others with
    | nil => exact absurd hit (otherwise capture behind)
    | cons other more =>
      obtain ⟨⟨otherBehind, otherHit, otherFirst⟩, otherwise⟩ := otherwise
      have same : capture.start = other.start := by
        rcases Nat.lt_trichotomy capture.start other.start with earlier | same | later
        · exact absurd hit (otherFirst capture behind earlier)
        · exact same
        · exact absurd otherHit (first other otherBehind later)
      obtain rfl := functional capture other hit otherHit same
      rw [ih scans otherwise]

end Scans

/-! ## Matches of the pattern -/

namespace VariablePattern

variable {pattern : VariablePattern} {text behind name : List Char}

theorem close?_eq_some_iff : pattern.close? text = some behind ↔
    ∃ body, text = body ++ (pattern.closer ++ behind) ∧ pattern.stop ∉ body := by
  constructor
  · intro closed
    simp only [close?] at closed
    split at closed
    · rename_i present
      obtain ⟨after, split⟩ := List.isPrefixOf_iff_prefix.1 present
      rw [← split, List.drop_left, Option.some.injEq] at closed
      subst closed
      refine ⟨text.takeWhile (· ≠ pattern.stop), ?_, ?_⟩
      · rw [split, List.takeWhile_append_dropWhile]
      · intro member
        simpa using List.mem_takeWhile_imp member
    · cases closed
  · rintro ⟨body, rfl, bare⟩
    have passed : (body ++ (pattern.closer ++ behind)).dropWhile (· ≠ pattern.stop) =
        pattern.closer ++ behind := by
      rw [List.dropWhile_append_of_pos]
      · simp [closer]
      · intro char member
        simpa using ne_of_mem_of_not_mem member bare
    have present : pattern.closer.isPrefixOf (pattern.closer ++ behind) = true :=
      List.isPrefixOf_iff_prefix.2 (List.prefix_append _ _)
    simp only [close?, passed, present, if_true, List.drop_left]

theorem exists_of_matchBehind? (found : pattern.matchBehind? text = some (name, behind)) :
    ∃ body, text = body ++ (pattern.closer ++ behind) := by
  have exists_of_named? : ∀ text, pattern.named? text = some (name, behind) →
      ∃ body, text = body ++ (pattern.closer ++ behind) := by
    intro text named
    obtain ⟨rest, closed, equal⟩ := Option.map_eq_some_iff.1 named
    obtain ⟨-, rfl⟩ := Prod.mk.inj equal
    obtain ⟨body, split, -⟩ := close?_eq_some_iff.1 closed
    exact ⟨body, split⟩
  induction text with
  | nil => exact exists_of_named? [] found
  | cons char rest ih =>
    rw [matchBehind?] at found
    split at found
    · split at found
      · rename_i later
        cases found
        obtain ⟨body, rfl⟩ := ih later
        exact ⟨char :: body, rfl⟩
      · split at found
        · exact exists_of_named? _ found
        · cases found
    · exact exists_of_named? _ found

theorem exists_of_match? (found : pattern.match? text = some (name, behind)) :
    ∃ taken, text = taken ++ behind ∧ taken ≠ [] := by
  rw [match?] at found
  split at found
  · rename_i present
    obtain ⟨after, rfl⟩ := List.isPrefixOf_iff_prefix.1 present
    rw [List.drop_left] at found
    obtain ⟨body, rfl⟩ := exists_of_matchBehind? found
    exact ⟨pattern.opener ++ (body ++ pattern.closer), by simp, by simp [closer]⟩
  · cases found

theorem matchBehind?_eq (visible : Text.isBlank pattern.stop = false) (text : List Char) :
    pattern.matchBehind? text = (pattern.close? text).map fun behind =>
      ((text.dropWhile Text.isBlank).takeWhile pattern.isName, behind) := by
  induction text with
  | nil => rfl
  | cons char rest ih =>
    rw [matchBehind?]
    cases blank : Text.isBlank char with
    | false => simp [named?, blank]
    | true =>
      have other : char ≠ pattern.stop := by
        rintro rfl
        rw [blank] at visible
        cases visible
      rw [if_pos rfl, ih, close?_cons pattern other, List.dropWhile_cons_of_pos blank,
        if_neg other]
      cases pattern.close? rest <;> rfl

theorem match?_eq_some_iff (visible : Text.isBlank pattern.stop = false) :
    pattern.match? text = some (name, behind) ↔ ∃ body,
      text = pattern.opener ++ (body ++ (pattern.closer ++ behind)) ∧ pattern.stop ∉ body ∧
        name = ((body ++ (pattern.closer ++ behind)).dropWhile Text.isBlank).takeWhile
          pattern.isName := by
  rw [match?, matchBehind?_eq visible]
  constructor
  · intro found
    split at found
    · rename_i present
      obtain ⟨after, rfl⟩ := List.isPrefixOf_iff_prefix.1 present
      rw [List.drop_left] at found
      obtain ⟨rest, closed, equal⟩ := Option.map_eq_some_iff.1 found
      obtain ⟨rfl, rfl⟩ := Prod.mk.inj equal
      obtain ⟨body, rfl, bare⟩ := close?_eq_some_iff.1 closed
      exact ⟨body, rfl, bare, rfl⟩
    · cases found
  · rintro ⟨body, rfl, bare, rfl⟩
    have present : pattern.opener.isPrefixOf
        (pattern.opener ++ (body ++ (pattern.closer ++ behind))) = true :=
      List.isPrefixOf_iff_prefix.2 (List.prefix_append _ _)
    have closed : pattern.close? (body ++ (pattern.closer ++ behind)) = some behind :=
      close?_eq_some_iff.2 ⟨body, rfl, bare⟩
    rw [if_pos present, List.drop_left, closed, Option.map_some]

/-! ## Captures -/

theorem capturesFrom_eq_drop (pattern : VariablePattern) (skip position : Nat)
    (text : List Char) : pattern.capturesFrom skip position text =
      pattern.capturesFrom 0 (position + Text.byteLength (text.take skip)) (text.drop skip) := by
  induction text generalizing skip position with
  | nil => cases skip <;> rfl
  | cons char rest ih =>
    cases skip with
    | zero => rfl
    | succ skip =>
      rw [capturesFrom, ih, List.take_succ_cons, List.drop_succ_cons, Text.byteLength_cons,
        Nat.add_assoc]

theorem capturesFrom_of_match? {taken : List Char} (filled : taken ≠ [])
    (found : pattern.match? (taken ++ behind) = some (name, behind)) (position : Nat) :
    pattern.capturesFrom 0 position (taken ++ behind) =
      ⟨position, position + Text.byteLength taken, String.ofList name⟩ ::
        pattern.capturesFrom 0 (position + Text.byteLength taken) behind := by
  cases taken with
  | nil => exact absurd rfl filled
  | cons char rest =>
    have size : Text.byteLength (char :: (rest ++ behind)) - Text.byteLength behind =
        Text.byteLength (char :: rest) := by
      simp only [Text.byteLength_cons, Text.byteLength_append]
      omega
    have count : (rest ++ behind).length - behind.length = rest.length := by simp
    have skipped := pattern.capturesFrom_eq_drop rest.length (position + char.utf8Size)
      (rest ++ behind)
    rw [List.take_left, List.drop_left, Nat.add_assoc, ← Text.byteLength_cons] at skipped
    rw [List.cons_append] at found ⊢
    simp only [capturesFrom, found, size, count, skipped]

theorem capturesFrom_of_match?_eq_none {char : Char} {rest : List Char}
    (unmatched : pattern.match? (char :: rest) = none) (position : Nat) :
    pattern.capturesFrom 0 position (char :: rest) =
      pattern.capturesFrom 0 (position + char.utf8Size) rest := by
  rw [capturesFrom, unmatched]

def Finds (pattern : VariablePattern) (text : String) (capture : Capture) : Prop :=
  ∃ front rest parts behind, text.toList = front ++ rest ∧
    Text.byteLength front = capture.start ∧
    (Piece.ways pattern.pieces rest).head? = some (parts, behind) ∧
    capture.stop = capture.start + Text.byteLength parts.flatten ∧
    capture.name = String.ofList (parts.getD 2 [])

theorem finds_iff {text : String} {capture : Capture} : pattern.Finds text capture ↔
    ∃ front taken behind name, text.toList = front ++ (taken ++ behind) ∧
      pattern.match? (taken ++ behind) = some (name, behind) ∧
      capture = ⟨Text.byteLength front, Text.byteLength front + Text.byteLength taken,
        String.ofList name⟩ := by
  constructor
  · rintro ⟨front, rest, parts, behind, split, start, first, stop, named⟩
    have whole := Piece.eq_append_of_mem_ways (List.mem_of_mem_head? first)
    have found := pattern.match?_eq_head?_ways rest
    rw [first, Option.map_some] at found
    subst whole
    refine ⟨front, parts.flatten, behind, _, split, found, ?_⟩
    rw [start, ← stop, ← named]
  · rintro ⟨front, taken, behind, name, split, found, rfl⟩
    rw [match?_eq_head?_ways] at found
    obtain ⟨⟨parts, after⟩, first, equal⟩ := Option.map_eq_some_iff.1 found
    obtain ⟨rfl, rfl⟩ := Prod.mk.inj equal
    have whole := Piece.eq_append_of_mem_ways (List.mem_of_mem_head? first)
    refine ⟨front, taken ++ after, parts, after, split, rfl, first, ?_, rfl⟩
    rw [List.append_cancel_right whole]

theorem Finds.functional {text : String} {capture other : Capture}
    (found : pattern.Finds text capture) (otherFound : pattern.Finds text other)
    (same : capture.start = other.start) : capture = other := by
  obtain ⟨front, taken, behind, name, split, hit, rfl⟩ := finds_iff.1 found
  obtain ⟨otherFront, otherTaken, otherBehind, otherName, otherSplit, otherHit, rfl⟩ :=
    finds_iff.1 otherFound
  rw [split] at otherSplit
  obtain ⟨rfl, rest⟩ := Text.append_inj_of_byteLength_eq otherSplit same
  rw [rest, otherHit] at hit
  obtain ⟨rfl, rfl⟩ := Prod.mk.inj (Option.some.inj hit)
  rw [List.append_cancel_right rest]

theorem scans_capturesFrom {text : String} {front rest : List Char}
    (split : text.toList = front ++ rest) :
    Scans (pattern.Finds text) (Text.byteLength front)
      (pattern.capturesFrom 0 (Text.byteLength front) rest) := by
  induction size : rest.length using Nat.strong_induction_on generalizing front rest with
  | _ bound ih =>
    cases found : pattern.match? rest with
    | some hit =>
      obtain ⟨name, behind⟩ := hit
      obtain ⟨taken, rfl, filled⟩ := exists_of_match? found
      have shorter : behind.length < bound := by
        have positive := List.length_pos_iff.2 filled
        rw [List.length_append] at size
        omega
      have inside : text.toList = (front ++ taken) ++ behind := by simpa using split
      have later := ih behind.length shorter inside rfl
      rw [Text.byteLength_append] at later
      rw [capturesFrom_of_match? filled found]
      refine ⟨⟨Nat.le_refl _, ?_, fun other behind before => ?_⟩, later⟩
      · exact finds_iff.2 ⟨front, taken, behind, name, split, found, rfl⟩
      · exact absurd before (Nat.not_lt.2 behind)
    | none =>
      have unfound : ∀ capture, capture.start = Text.byteLength front →
          ¬pattern.Finds text capture := by
        intro capture start hit
        obtain ⟨other, taken, behind, name, otherSplit, found', rfl⟩ := finds_iff.1 hit
        rw [split] at otherSplit
        obtain ⟨-, rfl⟩ := Text.append_inj_of_byteLength_eq otherSplit start.symm
        rw [found'] at found
        cases found
      cases rest with
      | nil =>
        intro capture behind hit
        apply unfound capture _ hit
        obtain ⟨other, taken, after, name, otherSplit, -, rfl⟩ := finds_iff.1 hit
        have whole := congrArg Text.byteLength (split.symm.trans otherSplit)
        simp only [Text.byteLength_append, Text.byteLength_nil] at whole
        simp only at behind ⊢
        omega
      | cons char more =>
        rw [List.length_cons] at size
        have inside : text.toList = (front ++ [char]) ++ more := by simpa using split
        have later := ih more.length (by omega) inside rfl
        rw [Text.byteLength_append, Text.byteLength_cons, Text.byteLength_nil,
          Nat.add_zero] at later
        rw [capturesFrom_of_match?_eq_none found]
        apply later.mono (Nat.le_add_right _ _)
        intro capture behind before hit
        apply unfound capture _ hit
        obtain ⟨other, taken, after, name, otherSplit, -, rfl⟩ := finds_iff.1 hit
        rw [split] at otherSplit
        rw [Text.eq_of_split_inside_char otherSplit.symm behind before]

theorem scans_captures (text : String) :
    Scans (pattern.Finds text) 0 (pattern.captures text) :=
  scans_capturesFrom (List.nil_append text.toList).symm

end VariablePattern

/-! ## The pattern of marker settings -/

namespace MarkerSettings

variable {settings : MarkerSettings} {pattern : VariablePattern} {text : String}
  {capture : Capture} {stop : Char} {closerRest : List Char}

def isName (settings : MarkerSettings) (char : Char) : Bool :=
  !Text.isBlank char && settings.interpolationCloser.toList.head? ≠ some char &&
    settings.formatSeparator.toList.head? ≠ some char

structure Matches (settings : MarkerSettings) (text : String) (capture : Capture) : Prop where
  opens : ∃ front behind,
    text.toList = front ++ (settings.interpolationOpener.toList ++ behind) ∧
      Text.byteLength front = capture.start ∧
      capture.name = String.ofList ((behind.dropWhile Text.isBlank).takeWhile settings.isName)
  closes : ∃ finish,
    capture.start + Text.byteLength settings.interpolationOpener.toList ≤ finish ∧
      Text.StandsAt settings.interpolationCloser.toList text.toList finish ∧
      capture.stop = finish + Text.byteLength settings.interpolationCloser.toList ∧
      ∀ stop ∈ settings.interpolationCloser.toList.head?, ∀ position,
        capture.start + Text.byteLength settings.interpolationOpener.toList ≤ position →
          position < finish → ¬Text.StandsAt [stop] text.toList position

theorem ofSettings?_eq_some_iff : VariablePattern.ofSettings? settings = some pattern ↔
    settings.interpolationOpener.toList = pattern.opener ∧
      settings.formatSeparator.toList.head? = pattern.separator? ∧
      settings.interpolationCloser.toList = pattern.closer := by
  unfold VariablePattern.ofSettings? VariablePattern.closer
  obtain ⟨opener, separator?, stop, closerRest⟩ := pattern
  cases settings.interpolationCloser.toList with
  | nil => simp
  | cons first rest => simp

theorem isName_eq (built : VariablePattern.ofSettings? settings = some pattern) :
    settings.isName = pattern.isName := by
  obtain ⟨-, separator, closer⟩ := ofSettings?_eq_some_iff.1 built
  funext char
  rw [isName, VariablePattern.isName, separator, closer, VariablePattern.closer, List.head?_cons]
  simp [eq_comm]

theorem matches_of_finds (built : VariablePattern.ofSettings? settings = some pattern)
    (visible : Text.isBlank pattern.stop = false) (found : pattern.Finds text capture) :
    settings.Matches text capture := by
  obtain ⟨opener, -, closer⟩ := ofSettings?_eq_some_iff.1 built
  obtain ⟨front, taken, behind, name, split, hit, rfl⟩ := VariablePattern.finds_iff.1 found
  obtain ⟨body, whole, bare, rfl⟩ := (VariablePattern.match?_eq_some_iff visible).1 hit
  obtain rfl : taken = pattern.opener ++ (body ++ pattern.closer) := by
    have same : taken ++ behind = pattern.opener ++ (body ++ pattern.closer) ++ behind := by
      simpa using whole
    exact List.append_cancel_right same
  have inside : text.toList =
      (front ++ pattern.opener) ++ (body ++ (pattern.closer ++ behind)) := by simpa using split
  constructor
  · rw [isName_eq built]
    exact ⟨front, body ++ (pattern.closer ++ behind), by simpa [opener] using split, rfl, rfl⟩
  · rw [opener, closer]
    refine ⟨Text.byteLength (front ++ pattern.opener ++ body), ?_, ?_, ?_, ?_⟩
    · rw [← Text.byteLength_append, Text.byteLength_append _ body]
      exact Nat.le_add_right _ _
    · exact ⟨front ++ pattern.opener ++ body, behind, by simpa using split, rfl⟩
    · simp only [Text.byteLength_append]
      omega
    · intro stop first position from' before
      obtain rfl : pattern.stop = stop := Option.some.inj first
      rw [← Text.byteLength_append] at from'
      exact (Text.not_mem_iff_not_standsAt inside).1 bare position from' before

theorem finds_of_matches (built : VariablePattern.ofSettings? settings = some pattern)
    (visible : Text.isBlank pattern.stop = false) (matched : settings.Matches text capture) :
    pattern.Finds text capture := by
  obtain ⟨opener, -, closer⟩ := ofSettings?_eq_some_iff.1 built
  obtain ⟨start, stop, name⟩ := capture
  obtain ⟨⟨front, behind, split, rfl, rfl⟩, finish, after, closes, rfl, first⟩ := matched
  obtain ⟨other, rest, closed, rfl⟩ := closes
  rw [opener] at split after first
  rw [closer] at closed first
  rw [isName_eq built, closer]
  have inside : text.toList = (front ++ pattern.opener) ++ behind := by simpa using split
  simp only [← Text.byteLength_append] at after first
  obtain ⟨body, rfl, rfl⟩ := Text.exists_append_of_byteLength_le (inside.symm.trans closed) after
  have bare : pattern.stop ∉ body :=
    (Text.not_mem_iff_not_standsAt inside).2 (first pattern.stop rfl)
  have hit : pattern.match? (pattern.opener ++ (body ++ pattern.closer) ++ rest) = some (_, rest) :=
    (VariablePattern.match?_eq_some_iff visible).2 ⟨body, by simp, bare, rfl⟩
  apply VariablePattern.finds_iff.2
  refine ⟨front, _, rest, _, by simpa using split, hit, ?_⟩
  simp only [Text.byteLength_append, Nat.add_assoc]

/-- The captures of a text are the matches that scanning it from the left finds, and at each place
the match that backtracking gives. -/
theorem captures_eq_iff (closer : settings.interpolationCloser.toList = stop :: closerRest)
    (visible : Text.isBlank stop = false) :
    ∃ pattern, VariablePattern.ofSettings? settings = some pattern ∧ ∀ text,
      (∀ capture, pattern.Finds text capture ↔ settings.Matches text capture) ∧
        ∀ found, pattern.captures text = found ↔ Scans (settings.Matches text) 0 found := by
  have built : VariablePattern.ofSettings? settings =
      some ⟨settings.interpolationOpener.toList, settings.formatSeparator.toList.head?, stop,
        closerRest⟩ := ofSettings?_eq_some_iff.2 ⟨rfl, rfl, closer⟩
  refine ⟨_, built, fun text => ?_⟩
  have same : ∀ capture, VariablePattern.Finds _ text capture ↔ settings.Matches text capture :=
    fun capture => ⟨matches_of_finds built visible, finds_of_matches built visible⟩
  refine ⟨same, fun found => ?_⟩
  rw [← Scans.congr same]
  constructor
  · rintro rfl
    exact VariablePattern.scans_captures text
  · apply Scans.unique fun capture other hit otherHit => hit.functional otherHit
    exact VariablePattern.scans_captures text

theorem percentMarkers_scans :
    let settings := { MarkerSettings.standard with
      interpolationOpener := "<%", interpolationCloser := "%>", formatSeparator := "|" }
    settings.interpolationCloser.toList = ['%', '>'] ∧ Text.isBlank '%' = false ∧
      Scans (settings.Matches "é<%a %<% b|c%>%><%%>") 0 [⟨7, 15, "b"⟩, ⟨17, 21, ""⟩] := by
  intro settings
  have closer : settings.interpolationCloser.toList = ['%', '>'] := by decide
  have visible : Text.isBlank '%' = false := by decide
  obtain ⟨pattern, built, laws⟩ := captures_eq_iff closer visible
  have known : VariablePattern.ofSettings? settings =
      some ⟨['<', '%'], some '|', '%', ['>']⟩ := by decide
  obtain rfl := Option.some.inj (known.symm.trans built)
  exact ⟨closer, visible, ((laws _).2 _).1 (by decide)⟩

end MarkerSettings

end Phrasebook
