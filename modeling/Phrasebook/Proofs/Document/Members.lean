import Phrasebook.Proofs.Document.Texts
import Phrasebook.Proofs.Sorting

namespace Phrasebook

namespace LeafPath

theorem ranked : Ranked precedes fun path => toLex (path.length, Dotted.join path) where
  le_iff path other := by simp [precedes, Prod.Lex.toLex_le_toLex]

theorem filter_sort (keep : LeafPath → Bool) (paths : List LeafPath) :
    (sort paths).filter keep = sort (paths.filter keep) :=
  ranked.filter_mergeSort keep paths

end LeafPath

namespace Json

/-! ## Members -/

variable {limit : Nat} {keys : List String} {leaves : List LeafPath}

theorem leavesOfMembers_cons_eq_ok_iff {member : String × Json} {rest : List (String × Json)} :
    leavesOfMembers limit keys (member :: rest) = .ok leaves ↔ ∃ first others,
      leavesUnder limit (keys ++ [member.1]) member.2 = .ok first ∧
        leavesOfMembers limit keys rest = .ok others ∧ leaves = first ++ others := by
  obtain ⟨key, value⟩ := member
  rw [leavesOfMembers]
  cases leavesUnder limit (keys ++ [key]) value with
  | error fault => simp [bind, Except.bind]
  | ok first =>
    cases leavesOfMembers limit keys rest <;> simp [bind, Except.bind, eq_comm]

theorem leavesOfMembers_append_eq_ok_iff {front back : List (String × Json)} :
    leavesOfMembers limit keys (front ++ back) = .ok leaves ↔ ∃ first others,
      leavesOfMembers limit keys front = .ok first ∧
        leavesOfMembers limit keys back = .ok others ∧ leaves = first ++ others := by
  induction front generalizing leaves with
  | nil => simp [leavesOfMembers]
  | cons member front ih =>
    simp only [List.cons_append, leavesOfMembers_cons_eq_ok_iff, ih]
    constructor
    · rintro ⟨first, _, flat, ⟨middle, others, inFront, inBack, rfl⟩, rfl⟩
      exact ⟨_, others, ⟨first, middle, flat, inFront, rfl⟩, inBack, (List.append_assoc ..).symm⟩
    · rintro ⟨_, others, ⟨first, middle, flat, inFront, rfl⟩, inBack, rfl⟩
      exact ⟨first, _, flat, ⟨middle, others, inFront, inBack, rfl⟩, List.append_assoc ..⟩

theorem exists_member_of_mem_leaves {members : List (String × Json)}
    (flat : leavesOfMembers limit keys members = .ok leaves) {leaf : LeafPath}
    (inside : leaf ∈ leaves) : ∃ member ∈ members, ∃ inner,
      leavesUnder limit (keys ++ [member.1]) member.2 = .ok inner ∧ leaf ∈ inner := by
  induction members generalizing leaves with
  | nil =>
    obtain rfl := Except.ok.inj flat
    cases inside
  | cons member rest ih =>
    obtain ⟨first, others, head, tail, rfl⟩ := leavesOfMembers_cons_eq_ok_iff.1 flat
    rcases List.mem_append.1 inside with inside | inside
    · exact ⟨member, List.mem_cons_self, first, head, inside⟩
    · obtain ⟨other, further, found⟩ := ih tail inside
      exact ⟨other, List.mem_cons_of_mem _ further, found⟩

theorem leaves_object_eq_ok_iff {members : List (String × Json)} :
    (object members).leaves limit = .ok leaves ↔
      0 < limit ∧ leavesOfMembers limit [] members = .ok leaves := by
  rw [Json.leaves, leavesUnder]
  by_cases flat : limit = 0
  · simp [flat]
  · simp [flat, Nat.pos_iff_ne_zero]

theorem eq_append_text_of_mem_leaves {value : Json} (isLeaf : value.members? = none)
    (flat : leavesUnder limit keys value = .ok leaves) {leaf : LeafPath} (inside : leaf ∈ leaves) :
    ∃ text, leaf = keys ++ [text] := by
  cases value with
  | string text =>
    obtain rfl := Except.ok.inj flat
    exact ⟨text, List.mem_singleton.1 inside⟩
  | number number =>
    obtain rfl := Except.ok.inj flat
    exact ⟨number.leafText, List.mem_singleton.1 inside⟩
  | object members => cases isLeaf
  | _ => cases flat

/-! ## Nesting -/

mutual

/-- A property of values holds if it holds of all that are no objects, and if it passes from all
members of an object to the object. -/
theorem inductOn {motive : Json → Prop}
    (leaf : ∀ value : Json, value.members? = none → motive value)
    (object : ∀ members : List (String × Json),
      (∀ member ∈ members, motive member.2) → motive (.object members)) :
    ∀ value : Json, motive value
  | .object members => object members (inductOnMembers leaf object members)
  | .null => leaf .null rfl
  | .boolean value => leaf (.boolean value) rfl
  | .number value => leaf (.number value) rfl
  | .string text => leaf (.string text) rfl
  | .array elements => leaf (.array elements) rfl
termination_by structural value => value

theorem inductOnMembers {motive : Json → Prop}
    (leaf : ∀ value : Json, value.members? = none → motive value)
    (object : ∀ members : List (String × Json),
      (∀ member ∈ members, motive member.2) → motive (.object members)) :
    ∀ members : List (String × Json), ∀ member ∈ members, motive member.2
  | [], _, inside => absurd inside List.not_mem_nil
  | (_, value) :: rest, member, inside => by
    rcases List.mem_cons.1 inside with rfl | inside
    · exact inductOn leaf object value
    · exact inductOnMembers leaf object rest member inside
termination_by structural members => members

end

theorem length_le_of_mem_leaves {value : Json} (nested : keys.length ≤ limit)
    (flat : leavesUnder limit keys value = .ok leaves) {leaf : LeafPath} (inside : leaf ∈ leaves) :
    leaf.length ≤ limit + 1 := by
  induction value using inductOn generalizing keys leaves with
  | leaf value isLeaf =>
    obtain ⟨text, rfl⟩ := eq_append_text_of_mem_leaves isLeaf flat inside
    simpa using nested
  | object members ih =>
    rw [leavesUnder] at flat
    split at flat
    · cases flat
    · rename_i deeper
      obtain ⟨member, among, inner, innerFlat, innerLeaf⟩ := exists_member_of_mem_leaves flat inside
      refine ih member among ?_ innerFlat innerLeaf
      rw [List.length_append, List.length_singleton]
      omega

theorem exists_keys_of_mem_leavesUnder {value : Json}
    (flat : leavesUnder limit keys value = .ok leaves) {leaf : LeafPath} (inside : leaf ∈ leaves) :
    ∃ path text, leaf = keys ++ (path ++ [text]) ∧ (value.members?.isSome → path ≠ []) := by
  induction value using inductOn generalizing keys leaves with
  | leaf value isLeaf =>
    obtain ⟨text, rfl⟩ := eq_append_text_of_mem_leaves isLeaf flat inside
    exact ⟨[], text, rfl, by simp [isLeaf]⟩
  | object members ih =>
    rw [leavesUnder] at flat
    split at flat
    · cases flat
    · obtain ⟨member, among, inner, innerFlat, innerLeaf⟩ := exists_member_of_mem_leaves flat inside
      obtain ⟨path, text, rfl, -⟩ := ih member among innerFlat innerLeaf
      exact ⟨member.1 :: path, text, by simp, fun _ => List.cons_ne_nil _ _⟩

theorem exists_first_of_mem_leaves {members : List (String × Json)}
    (flat : (object members).leaves limit = .ok leaves) {leaf : LeafPath} (inside : leaf ∈ leaves) :
    ∃ first keys text, leaf = first :: (keys ++ [text]) := by
  obtain ⟨path, text, rfl, below⟩ := exists_keys_of_mem_leavesUnder flat inside
  obtain ⟨first, rest, rfl⟩ := List.exists_cons_of_ne_nil (below rfl)
  exact ⟨first, rest, text, rfl⟩

/-! ## Keys without dots -/

inductive Dotless : Json → Prop
  | leaf {value : Json} (isLeaf : value.members? = none) : Dotless value
  | object {members : List (String × Json)}
    (keys : ∀ member ∈ members, member.2.members?.isSome → '.' ∉ member.1.toList)
    (below : ∀ member ∈ members, member.2.Dotless) : Dotless (.object members)

theorem Dotless.exists_keys {value : Json} (dotless : value.Dotless)
    (flat : leavesUnder limit keys value = .ok leaves) {leaf : LeafPath} (inside : leaf ∈ leaves) :
    ∃ path text, leaf = keys ++ (path ++ [text]) ∧ (path ≠ [] → value.members?.isSome) ∧
      ∀ folder ∈ path.dropLast, '.' ∉ folder.toList := by
  induction dotless generalizing keys leaves with
  | @leaf value isLeaf =>
    obtain ⟨text, rfl⟩ := eq_append_text_of_mem_leaves isLeaf flat inside
    exact ⟨[], text, rfl, fun below => absurd rfl below, by simp⟩
  | @object members dotlessKeys below ih =>
    rw [leavesUnder] at flat
    split at flat
    · cases flat
    · obtain ⟨member, among, inner, innerFlat, innerLeaf⟩ := exists_member_of_mem_leaves flat inside
      obtain ⟨path, text, rfl, isObject, dotless⟩ := ih member among innerFlat innerLeaf
      refine ⟨member.1 :: path, text, by simp, fun _ => rfl, ?_⟩
      -- The key of the member is the last one if the member is a leaf, and holds an object if not.
      cases path with
      | nil => simp
      | cons key path =>
        rw [List.dropLast_cons_cons, List.forall_mem_cons]
        exact ⟨dotlessKeys member among (isObject (List.cons_ne_nil key path)), dotless⟩

end Json

end Phrasebook
