import Mathlib.Order.Bounds.Defs
import Phrasebook.Proofs.Text.Positions

namespace Phrasebook.Text

def IsBoundary (text : List Char) (position : Nat) : Prop :=
  ∃ front rest, text = front ++ rest ∧ byteLength front = position

theorem isSome_dropBytes?_iff {text : List Char} {position : Nat} :
    (dropBytes? position text).isSome ↔ IsBoundary text position := by
  simp only [Option.isSome_iff_exists, dropBytes?_eq_some_iff, IsBoundary]
  exact exists_comm

instance (text : List Char) (position : Nat) : Decidable (IsBoundary text position) :=
  decidable_of_iff _ isSome_dropBytes?_iff

theorem isBoundary_zero (text : List Char) : IsBoundary text 0 := ⟨[], text, rfl, rfl⟩

theorem IsBoundary.le {text : List Char} {position : Nat} (boundary : IsBoundary text position) :
    position ≤ byteLength text := by
  obtain ⟨front, rest, rfl, rfl⟩ := boundary
  rw [byteLength_append]
  exact Nat.le_add_right _ _

theorem isBoundary_nil {position : Nat} : IsBoundary [] position ↔ position = 0 := by
  constructor
  · exact fun boundary => Nat.le_zero.1 boundary.le
  · rintro rfl
    exact isBoundary_zero []

theorem isBoundary_cons {char : Char} {rest : List Char} {position : Nat} :
    IsBoundary (char :: rest) position ↔
      position = 0 ∨ ∃ behind, IsBoundary rest behind ∧ position = char.utf8Size + behind := by
  constructor
  · rintro ⟨front, back, split, rfl⟩
    cases front with
    | nil => exact .inl rfl
    | cons first front =>
      obtain ⟨rfl, rfl⟩ := List.cons.inj split
      exact .inr ⟨_, ⟨front, back, rfl, rfl⟩, rfl⟩
  · rintro (rfl | ⟨_, ⟨front, back, rfl, rfl⟩, rfl⟩)
    · exact isBoundary_zero _
    · exact ⟨char :: front, back, rfl, rfl⟩

theorem isGreatest_boundaryBelow (position : Nat) (text : List Char) :
    IsGreatest {boundary | IsBoundary text boundary ∧ boundary ≤ position}
      (boundaryBelow position text) := by
  induction text generalizing position with
  | nil =>
    refine ⟨⟨isBoundary_zero [], Nat.zero_le _⟩, ?_⟩
    rintro boundary ⟨isBoundary, -⟩
    exact Nat.le_of_eq (isBoundary_nil.1 isBoundary)
  | cons char rest ih =>
    rw [boundaryBelow]
    split
    · rename_i fits
      obtain ⟨⟨inside, below⟩, greatest⟩ := ih (position - char.utf8Size)
      refine ⟨⟨isBoundary_cons.2 (.inr ⟨_, inside, rfl⟩), by omega⟩, ?_⟩
      rintro boundary ⟨isBoundary, lower⟩
      rcases isBoundary_cons.1 isBoundary with rfl | ⟨behind, other, rfl⟩
      · exact Nat.zero_le _
      · exact Nat.add_le_add_left (greatest ⟨other, by omega⟩) _
    · rename_i beyond
      refine ⟨⟨isBoundary_zero _, Nat.zero_le _⟩, ?_⟩
      rintro boundary ⟨isBoundary, lower⟩
      rcases isBoundary_cons.1 isBoundary with rfl | ⟨behind, -, rfl⟩
      · exact Nat.le_refl 0
      · omega

theorem isLeast_boundaryAbove {position : Nat} {text : List Char}
    (within : position ≤ byteLength text) :
    IsLeast {boundary | IsBoundary text boundary ∧ position ≤ boundary}
      (boundaryAbove position text) := by
  induction text generalizing position with
  | nil =>
    obtain rfl := Nat.le_zero.1 within
    exact ⟨⟨isBoundary_zero [], Nat.le_refl 0⟩, fun _ _ => Nat.zero_le _⟩
  | cons char rest ih =>
    cases position with
    | zero => exact ⟨⟨isBoundary_zero _, Nat.le_refl 0⟩, fun _ _ => Nat.zero_le _⟩
    | succ position =>
      rw [byteLength_cons] at within
      have behind : position + 1 - char.utf8Size ≤ byteLength rest := by omega
      obtain ⟨⟨inside, above⟩, least⟩ := ih behind
      rw [boundaryAbove]
      refine ⟨⟨isBoundary_cons.2 (.inr ⟨_, inside, rfl⟩), by omega⟩, ?_⟩
      rintro boundary ⟨isBoundary, upper⟩
      rcases isBoundary_cons.1 isBoundary with rfl | ⟨behind, other, rfl⟩
      · cases upper
      · exact Nat.add_le_add_left (least ⟨other, by omega⟩) _

/-! ## Going byte by byte -/

inductive Descends (text : List Char) : (start stop : Nat) → Prop
  | here {position : Nat} : IsBoundary text position → Descends text position position
  | back {position stop : Nat} : ¬IsBoundary text (position + 1) → Descends text position stop →
      Descends text (position + 1) stop

inductive Ascends (text : List Char) : (start stop : Nat) → Prop
  | here {position : Nat} : IsBoundary text position → Ascends text position position
  | on {position stop : Nat} : position < byteLength text → ¬IsBoundary text position →
      Ascends text (position + 1) stop → Ascends text position stop

theorem descends_of_isGreatest {text : List Char} {start stop : Nat}
    (greatest : IsGreatest {boundary | IsBoundary text boundary ∧ boundary ≤ start} stop) :
    Descends text start stop := by
  induction start with
  | zero =>
    obtain rfl := Nat.le_zero.1 greatest.1.2
    exact .here greatest.1.1
  | succ start ih =>
    by_cases boundary : IsBoundary text (start + 1)
    · obtain rfl : stop = start + 1 :=
        Nat.le_antisymm greatest.1.2 (greatest.2 ⟨boundary, Nat.le_refl _⟩)
      exact .here boundary
    · have other : stop ≠ start + 1 := fun same => boundary (same ▸ greatest.1.1)
      have below := greatest.1.2
      refine .back boundary (ih ⟨⟨greatest.1.1, by omega⟩, ?_⟩)
      exact fun _ inside => greatest.2 ⟨inside.1, Nat.le_succ_of_le inside.2⟩

theorem ascends_of_isLeast {text : List Char} {start stop : Nat}
    (least : IsLeast {boundary | IsBoundary text boundary ∧ start ≤ boundary} stop) :
    Ascends text start stop := by
  have above := least.1.2
  induction gap : stop - start generalizing start with
  | zero =>
    obtain rfl : start = stop := by omega
    exact .here least.1.1
  | succ gap ih =>
    have other : ¬IsBoundary text start := fun boundary => by
      have lower : stop ≤ start := least.2 ⟨boundary, Nat.le_refl _⟩
      omega
    have inside : start < byteLength text :=
      Nat.lt_of_lt_of_le (by omega) least.1.1.le
    refine .on inside other (ih ⟨⟨least.1.1, by omega⟩, ?_⟩ (by omega) (by omega))
    exact fun _ further => least.2 ⟨further.1, Nat.le_of_succ_le further.2⟩

/-! ## Slices -/

theorem isSome_slice?_iff {text : List Char} {start stop : Nat} :
    (slice? start stop text).isSome ↔
      start ≤ stop ∧ IsBoundary text start ∧ IsBoundary text stop := by
  rw [Option.isSome_iff_exists]
  constructor
  · rintro ⟨part, sliced⟩
    obtain ⟨front, back, rfl, rfl, rfl⟩ := slice?_eq_some_iff.1 sliced
    refine ⟨Nat.le_add_right _ _, ⟨front, part ++ back, rfl, rfl⟩, front ++ part, back, ?_, ?_⟩
    · rw [List.append_assoc]
    · rw [byteLength_append]
  · rintro ⟨ordered, ⟨front, rest, rfl, rfl⟩, before, back, split, rfl⟩
    rcases List.append_eq_append_iff.1 split with ⟨part, rfl, rfl⟩ | ⟨more, rfl, -⟩
    · exact ⟨part, slice?_eq_some_iff.2 ⟨front, back, rfl, rfl, (byteLength_append _ _).symm⟩⟩
    · -- The end cannot lie in front of the start, so that nothing is left between them.
      rw [byteLength_append] at ordered
      have empty : more = [] := byteLength_eq_zero_iff.1 (by omega)
      subst empty
      exact ⟨[], slice?_eq_some_iff.2 ⟨before, rest, by simp, by simp, by simp⟩⟩

theorem prefix_of_slice? {text part whole : List Char} {start middle stop : Nat}
    (inner : slice? start middle text = some part) (outer : slice? start stop text = some whole)
    (ordered : middle ≤ stop) : part <+: whole := by
  have middles := (isSome_slice?_iff.1 (Option.isSome_of_eq_some inner)).2.2
  have stops := (isSome_slice?_iff.1 (Option.isSome_of_eq_some outer)).2.2
  obtain ⟨rest, sliced⟩ :=
    Option.isSome_iff_exists.1 (isSome_slice?_iff.2 ⟨ordered, middles, stops⟩)
  have joined := slice?_append inner sliced
  rw [outer, Option.some.injEq] at joined
  exact ⟨rest, joined.symm⟩

/-- The part of a text between two positions, which is empty unless these are boundaries in
order. -/
structure IsPart (text : List Char) (start stop : Nat) (part : List Char) : Prop where
  inside : start ≤ stop → IsBoundary text start → IsBoundary text stop →
    slice? start stop text = some part
  outside : ¬(start ≤ stop ∧ IsBoundary text start ∧ IsBoundary text stop) → part = []

theorem isPart_getD (text : List Char) (start stop : Nat) :
    IsPart text start stop ((slice? start stop text).getD []) where
  inside ordered starts stops := by
    obtain ⟨part, sliced⟩ :=
      Option.isSome_iff_exists.1 (isSome_slice?_iff.2 ⟨ordered, starts, stops⟩)
    rw [sliced, Option.getD_some]
  outside other := by
    rw [← isSome_slice?_iff, Option.not_isSome_iff_eq_none] at other
    rw [other, Option.getD_none]

end Phrasebook.Text
