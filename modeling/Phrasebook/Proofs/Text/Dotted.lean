import Phrasebook.Text.Dotted

namespace Phrasebook.Dotted

theorem pieces_eq_splitOn (text : List Char) : pieces text = text.splitOn '.' := by
  induction text with
  | nil => rfl
  | cons char rest ih =>
    rw [pieces, List.splitOn_cons_eq_if_modifyHead, ih]
    by_cases isDot : char = '.'
    · simp [isDot]
    · cases others : rest.splitOn '.' with
      | nil => exact absurd others (List.splitOn_ne_nil '.' rest)
      | cons piece others => simp [isDot]

theorem toList_join (segments : List String) :
    (join segments).toList = ['.'].intercalate (segments.map String.toList) := by
  induction segments with
  | nil => rfl
  | cons segment rest ih =>
    cases rest with
    | nil => simp [join]
    | cons next rest =>
      rw [join_cons_cons, String.toList_append, String.toList_append, ih]
      simp [List.intercalate_cons_cons]

theorem dotless_of_mem_pieces {text piece : List Char} (member : piece ∈ pieces text) :
    '.' ∉ piece := by
  induction text generalizing piece with
  | nil =>
    obtain rfl := List.mem_singleton.1 member
    exact List.not_mem_nil
  | cons char rest ih =>
    rw [pieces_eq_splitOn, List.splitOn_cons_eq_if_modifyHead, ← pieces_eq_splitOn] at member
    by_cases isDot : char = '.'
    · rw [if_pos (by simpa using isDot)] at member
      rcases List.mem_cons.1 member with rfl | member
      · exact List.not_mem_nil
      · exact ih member
    · rw [if_neg (by simpa using isDot)] at member
      cases split : pieces rest with
      | nil => simp [split] at member
      | cons first others =>
        rw [split, List.modifyHead_cons] at member
        rcases List.mem_cons.1 member with rfl | member
        · have inside := ih (split ▸ List.mem_cons_self)
          simpa [inside] using Ne.symm isDot
        · exact ih (split ▸ List.mem_cons_of_mem _ member)

theorem split_ne_nil (key : String) : split key ≠ [] := by
  simp [split, pieces_eq_splitOn, List.splitOn_ne_nil]

theorem dotless_of_mem_split {key segment : String} (member : segment ∈ split key) :
    '.' ∉ segment.toList := by
  obtain ⟨piece, inside, rfl⟩ := List.mem_map.1 member
  simpa using dotless_of_mem_pieces inside

theorem join_split (key : String) : join (split key) = key := by
  apply String.toList_inj.1
  rw [toList_join, split, List.map_map, pieces_eq_splitOn]
  simp [Function.comp_def, List.intercalate_splitOn]

theorem split_join {segments : List String} (nonempty : segments ≠ [])
    (dotless : ∀ segment ∈ segments, '.' ∉ segment.toList) : split (join segments) = segments := by
  rw [split, pieces_eq_splitOn, toList_join, List.splitOn_intercalate]
  · simp [Function.comp_def]
  · simpa using dotless
  · simpa using nonempty

theorem split_injective {key other : String} (same : split key = split other) : key = other := by
  rw [← join_split key, same, join_split]

theorem append_dot_injective {front other rest otherRest : List Char} (dotless : '.' ∉ front)
    (otherDotless : '.' ∉ other) (same : front ++ '.' :: rest = other ++ '.' :: otherRest) :
    front = other ∧ rest = otherRest := by
  rcases List.append_eq_append_iff.1 same with ⟨middle, rfl, tails⟩ | ⟨middle, rfl, tails⟩
  all_goals
    cases middle with
    | nil => simpa [eq_comm] using tails
    | cons char middle =>
      obtain ⟨rfl, -⟩ := List.cons.inj tails
      simp at dotless otherDotless

theorem join_injective_of_length_eq {segments others : List String}
    (dotless : ∀ segment ∈ segments.dropLast, '.' ∉ segment.toList)
    (otherDotless : ∀ segment ∈ others.dropLast, '.' ∉ segment.toList)
    (length : segments.length = others.length) (same : join segments = join others) :
    segments = others := by
  induction segments generalizing others with
  | nil => exact (List.length_eq_zero_iff.1 length.symm).symm
  | cons segment rest ih =>
    obtain ⟨other, otherRest, rfl⟩ := List.exists_cons_of_length_eq_add_one length.symm
    have lengths : rest.length = otherRest.length := Nat.succ.inj length
    cases rest with
    | nil =>
      obtain rfl := List.length_eq_zero_iff.1 lengths.symm
      exact congrArg (fun text => [text]) same
    | cons next rest =>
      obtain ⟨otherNext, otherRest, rfl⟩ := List.exists_cons_of_length_eq_add_one lengths.symm
      rw [List.dropLast_cons_cons, List.forall_mem_cons] at dotless otherDotless
      have texts : segment.toList ++ '.' :: (join (next :: rest)).toList =
          other.toList ++ '.' :: (join (otherNext :: otherRest)).toList := by
        simpa [join_cons_cons] using congrArg String.toList same
      obtain ⟨heads, tails⟩ := append_dot_injective dotless.1 otherDotless.1 texts
      rw [String.toList_inj.1 heads,
        ih dotless.2 otherDotless.2 lengths (String.toList_inj.1 tails)]

def dots (segments : List String) : Nat :=
  (segments.flatMap (·.toList)).count '.'

theorem length_pieces (text : List Char) : (pieces text).length = text.count '.' + 1 := by
  induction text with
  | nil => rfl
  | cons char rest ih =>
    rw [pieces, List.count_cons]
    by_cases isDot : char = '.'
    · simp [isDot, ih]
    · cases split : pieces rest with
      | nil => simp [split] at ih
      | cons piece others =>
        rw [split] at ih
        simpa [isDot] using ih

theorem count_join {segments : List String} (nonempty : segments ≠ []) :
    (join segments).toList.count '.' + 1 = segments.length + dots segments := by
  induction segments with
  | nil => exact absurd rfl nonempty
  | cons segment rest ih =>
    cases rest with
    | nil => simp [dots, Nat.add_comm]
    | cons next rest =>
      have below := ih (List.cons_ne_nil next rest)
      have dot : ".".toList.count '.' = 1 := rfl
      rw [join_cons_cons, String.toList_append, String.toList_append, List.count_append,
        List.count_append, dot]
      simp only [dots, List.flatMap_cons, List.count_append, List.length_cons] at below ⊢
      omega

theorem length_split_join {segments : List String} (nonempty : segments ≠ []) :
    (split (join segments)).length = segments.length + dots segments := by
  rw [split, List.length_map, length_pieces, count_join nonempty]

end Phrasebook.Dotted
