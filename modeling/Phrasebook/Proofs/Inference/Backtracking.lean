import Phrasebook.Inference.Pattern

/-!
# The pattern of variables as an expression

The pattern stands for an expression of five pieces: the opening marker, blanks, a name, a filler
without the first character of the closing marker, and the closing marker. Pieces of a class take as
many characters as they can and give some back if the pieces behind them fail, so that an expression
matches in several ways (`Piece.ways`), of which the first counts.

The matcher of the pattern does not go back. What it gives is the first way all the same
(`VariablePattern.match?_eq_head?_ways`).
-/

namespace Phrasebook

inductive Piece where
  | exactly (part : List Char)
  | many (among : Char → Bool)

namespace Piece

def runs (among : Char → Bool) : List Char → List (List Char × List Char)
  | [] => [([], [])]
  | char :: rest =>
    (if among char then (runs among rest).map fun run => (char :: run.1, run.2) else []) ++
      [([], char :: rest)]

def splits : Piece → List Char → List (List Char × List Char)
  | exactly part, text => if part.isPrefixOf text then [(part, text.drop part.length)] else []
  | many among, text => runs among text

/-- What pieces take one after the other, and the text behind them, in the order in which the ways
are tried. -/
def ways : List Piece → List Char → List (List (List Char) × List Char)
  | [], text => [([], text)]
  | piece :: rest, text => (piece.splits text).flatMap fun split =>
      (ways rest split.2).map fun way => (split.1 :: way.1, way.2)

theorem head?_ways_exactly (part : List Char) (pieces : List Piece) (text : List Char) :
    (ways (exactly part :: pieces) text).head? =
      if part.isPrefixOf text then
        (ways pieces (text.drop part.length)).head?.map fun way => (part :: way.1, way.2)
      else none := by
  rw [ways, splits]
  split <;> simp

theorem head?_ways_many_nil (among : Char → Bool) (pieces : List Piece) :
    (ways (many among :: pieces) []).head? =
      (ways pieces []).head?.map fun way => ([] :: way.1, way.2) := by
  simp [ways, splits, runs]

theorem head?_ways_many_other {among : Char → Bool} {char : Char} (other : among char = false)
    (pieces : List Piece) (rest : List Char) :
    (ways (many among :: pieces) (char :: rest)).head? =
      (ways pieces (char :: rest)).head?.map fun way => ([] :: way.1, way.2) := by
  simp [ways, splits, runs, other]

theorem head?_ways_many_cons {among : Char → Bool} {char : Char} (member : among char = true)
    (pieces : List Piece) (rest : List Char) :
    (ways (many among :: pieces) (char :: rest)).head? =
      ((ways (many among :: pieces) rest).head?.map fun way =>
          (way.1.modifyHead (char :: ·), way.2)).or
        ((ways pieces (char :: rest)).head?.map fun way => ([] :: way.1, way.2)) := by
  simp only [ways, splits, runs, if_pos member, List.flatMap_append, List.head?_append,
    List.flatMap_map, List.flatMap_singleton, List.head?_map]
  congr 1
  rw [← List.head?_map, List.map_flatMap]
  simp only [List.map_map, Function.comp_def, List.modifyHead_cons]

theorem eq_append_of_mem_runs {among : Char → Bool} {text taken behind : List Char}
    (member : (taken, behind) ∈ runs among text) : text = taken ++ behind := by
  induction text generalizing taken with
  | nil =>
    obtain ⟨rfl, rfl⟩ : taken = [] ∧ behind = [] := by simpa [runs] using member
    rfl
  | cons char rest ih =>
    rw [runs] at member
    rcases List.mem_append.1 member with longer | last
    · split at longer
      · obtain ⟨run, inside, equal⟩ := List.mem_map.1 longer
        obtain ⟨rfl, rfl⟩ := Prod.mk.inj equal
        rw [ih inside, List.cons_append]
      · cases longer
    · obtain ⟨rfl, rfl⟩ := Prod.mk.inj (List.mem_singleton.1 last)
      rfl

theorem eq_append_of_mem_splits {piece : Piece} {text taken behind : List Char}
    (member : (taken, behind) ∈ piece.splits text) : text = taken ++ behind := by
  cases piece with
  | exactly part =>
    rw [splits] at member
    split at member
    · rename_i present
      obtain ⟨rfl, rfl⟩ := Prod.mk.inj (List.mem_singleton.1 member)
      exact (List.prefix_iff_eq_append.1 (List.isPrefixOf_iff_prefix.1 present)).symm
    · cases member
  | many among => exact eq_append_of_mem_runs member

theorem eq_append_of_mem_ways {pieces : List Piece} {text behind : List Char}
    {parts : List (List Char)} (member : (parts, behind) ∈ ways pieces text) :
    text = parts.flatten ++ behind := by
  induction pieces generalizing text parts with
  | nil =>
    obtain ⟨rfl, rfl⟩ := Prod.mk.inj (List.mem_singleton.1 member)
    rfl
  | cons piece rest ih =>
    obtain ⟨split, chosen, inside⟩ := List.mem_flatMap.1 member
    obtain ⟨way, later, equal⟩ := List.mem_map.1 inside
    obtain ⟨rfl, rfl⟩ := Prod.mk.inj equal
    rw [eq_append_of_mem_splits chosen, ih later, List.flatten_cons, List.append_assoc]

end Piece

namespace VariablePattern

open Piece

variable (pattern : VariablePattern)

def pieces : List Piece :=
  [exactly pattern.opener, many Text.isBlank, many pattern.isName, many (· ≠ pattern.stop),
    exactly pattern.closer]

theorem ne_stop_of_isName {char : Char} (name : pattern.isName char = true) :
    char ≠ pattern.stop := by
  simp only [isName, Bool.and_eq_true, decide_eq_true_eq] at name
  exact name.1.2

theorem close?_cons {char : Char} (other : char ≠ pattern.stop) (rest : List Char) :
    pattern.close? (char :: rest) = pattern.close? rest := by
  simp [close?, other]

theorem named?_cons_eq_none {char : Char} (other : char ≠ pattern.stop) {rest : List Char}
    (open' : pattern.close? rest = none) : pattern.named? (char :: rest) = none := by
  rw [named?, close?_cons pattern other, open', Option.map_none]

theorem head?_ways_filler (text : List Char) :
    (ways [many (· ≠ pattern.stop), exactly pattern.closer] text).head? =
      (pattern.close? text).map fun behind =>
        ([text.takeWhile (· ≠ pattern.stop), pattern.closer], behind) := by
  induction text with
  | nil => simp [head?_ways_many_nil, head?_ways_exactly, close?, closer]
  | cons char rest ih =>
    by_cases other : char = pattern.stop
    · have atStop : (char :: rest).dropWhile (· ≠ pattern.stop) = char :: rest := by simp [other]
      have taken : (char :: rest).takeWhile (· ≠ pattern.stop) = [] := by simp [other]
      rw [head?_ways_many_other (by simpa using other), head?_ways_exactly, close?, taken]
      simp only [atStop]
      split <;> rfl
    · have absent : pattern.closer.isPrefixOf (char :: rest) = false := by
        have different : (pattern.stop == char) = false := by simpa using Ne.symm other
        rw [closer, List.isPrefixOf, different, Bool.false_and]
      rw [head?_ways_many_cons (by simpa using other), ih, head?_ways_exactly, absent,
        close?_cons pattern other]
      cases pattern.close? rest <;> simp [other]

theorem head?_ways_named (text : List Char) :
    (ways [many pattern.isName, many (· ≠ pattern.stop), exactly pattern.closer] text).head? =
      (pattern.named? text).map fun found =>
        ([found.1, (text.dropWhile pattern.isName).takeWhile (· ≠ pattern.stop), pattern.closer],
          found.2) := by
  induction text with
  | nil =>
    rw [head?_ways_many_nil, head?_ways_filler, named?]
    cases pattern.close? [] <;> simp
  | cons char rest ih =>
    cases name : pattern.isName char with
    | false =>
      rw [head?_ways_many_other name, head?_ways_filler, named?]
      cases pattern.close? (char :: rest) <;> simp [name]
    | true =>
      have other := pattern.ne_stop_of_isName name
      rw [head?_ways_many_cons name, ih, head?_ways_filler, named?, named?,
        close?_cons pattern other]
      cases pattern.close? rest <;> simp [name]

theorem close?_eq_none_of_matchBehind? {text : List Char}
    (unmatched : pattern.matchBehind? text = none) : pattern.close? text = none := by
  induction text with
  | nil => simpa [matchBehind?, named?] using unmatched
  | cons char rest ih =>
    rw [matchBehind?] at unmatched
    by_cases blank : Text.isBlank char = true
    · rw [if_pos blank] at unmatched
      cases behind : pattern.matchBehind? rest with
      | some found => simp [behind] at unmatched
      | none =>
        by_cases other : char = pattern.stop
        · simpa [behind, other, named?] using unmatched
        · rw [close?_cons pattern other, ih behind]
    · simpa [blank, named?] using unmatched

/-- A blank that is given back is tried in vain unless it is a stop character. -/
theorem head?_ways_behind (text : List Char) :
    ((ways pattern.pieces.tail text).head?.map fun way => (way.1.getD 1 [], way.2)) =
      pattern.matchBehind? text := by
  rw [pieces, List.tail_cons]
  induction text with
  | nil =>
    rw [head?_ways_many_nil, head?_ways_named, matchBehind?]
    cases pattern.named? [] <;> simp
  | cons char rest ih =>
    rw [matchBehind?]
    cases blank : Text.isBlank char with
    | false =>
      rw [head?_ways_many_other blank, head?_ways_named]
      cases pattern.named? (char :: rest) <;> simp
    | true =>
      rw [head?_ways_many_cons blank, head?_ways_named, if_pos rfl, ← ih]
      cases first : (ways [many Text.isBlank, many pattern.isName, many (· ≠ pattern.stop),
          exactly pattern.closer] rest).head? with
      | some way =>
        obtain ⟨parts, behind⟩ := way
        cases parts <;> simp
      | none =>
        rw [first] at ih
        have open' := pattern.close?_eq_none_of_matchBehind? ih.symm
        by_cases other : char = pattern.stop
        · cases pattern.named? (char :: rest) <;> simp [other]
        · simp [named?_cons_eq_none pattern other open', other]

theorem match?_eq_head?_ways (text : List Char) :
    pattern.match? text =
      (ways pattern.pieces text).head?.map fun way => (way.1.getD 2 [], way.2) := by
  rw [match?, pieces, head?_ways_exactly]
  split
  · rw [← head?_ways_behind, Option.map_map]
    rfl
  · rfl

end VariablePattern

end Phrasebook
