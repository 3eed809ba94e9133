import Phrasebook.Document.Leaves
import Phrasebook.Proofs.Dictionary.Lookup

namespace Phrasebook.Json

/-! ## Paths -/

def at? : List String → Json → Option Json
  | [], value => some value
  | key :: path, value => (value.member? key).bind (at? path)

def leafText? : Json → Option String
  | string text => some text
  | number value => some value.leafText
  | _ => none

def textAt? (path : List String) (value : Json) : Option String := (value.at? path).bind leafText?

theorem textAt?_cons (key : String) (path : List String) (value : Json) :
    value.textAt? (key :: path) = (value.member? key).bind (textAt? path) := by
  rw [textAt?, at?, Option.bind_assoc]
  rfl

theorem exists_member_of_at? {members : List (String × Json)} {key : String} {path : List String}
    {found : Json} (located : (object members).at? (key :: path) = some found) :
    ∃ value, (key, value) ∈ members ∧ value.at? path = some found := by
  rw [at?, Option.bind_eq_some_iff] at located
  obtain ⟨value, isMember, located⟩ := located
  obtain ⟨front, back, rfl, -⟩ := List.lookup_eq_some_iff.1 isMember
  exact ⟨value, by simp, located⟩

theorem at?_append (path rest : List String) (value : Json) :
    value.at? (path ++ rest) = (value.at? path).bind (at? rest) := by
  induction path generalizing value with
  | nil => rfl
  | cons key path ih =>
    rw [List.cons_append, at?, at?, Option.bind_assoc]
    congr 1
    funext member
    exact ih member

theorem textAt?_append (path rest : List String) (value : Json) :
    value.textAt? (path ++ rest) = (value.at? path).bind (textAt? rest) := by
  rw [textAt?, at?_append, Option.bind_assoc]
  rfl

theorem textAt?_below_leaf {path rest : List String} {value : Json} {text : String}
    (leaf : value.textAt? path = some text) (below : rest ≠ []) :
    value.textAt? (path ++ rest) = none := by
  obtain ⟨found, located, isLeaf⟩ := Option.bind_eq_some_iff.1 leaf
  obtain ⟨key, rest, rfl⟩ := List.exists_cons_of_ne_nil below
  rw [textAt?_append, located, Option.bind_some, textAt?_cons]
  cases found with
  | object members => cases isLeaf
  | _ => rfl

theorem exists_object_of_textAt? {path rest : List String} {value : Json} {text : String}
    (leaf : value.textAt? (path ++ rest) = some text) (below : rest ≠ []) :
    ∃ members, value.at? path = some (.object members) := by
  rw [textAt?_append, Option.bind_eq_some_iff] at leaf
  obtain ⟨found, located, leaf⟩ := leaf
  obtain ⟨key, rest, rfl⟩ := List.exists_cons_of_ne_nil below
  rw [textAt?_cons] at leaf
  cases found with
  | object members => exact ⟨members, located⟩
  | _ => cases leaf

/-! ## Textual documents -/

/-- The leaves are texts and numbers, and the members of every object are in key order. -/
inductive Textual : Json → Prop
  | string (text : String) : Textual (.string text)
  | number (value : Number) : Textual (.number value)
  | object {members : List (String × Json)} (ascending : Entries.Ascending members)
      (below : ∀ member ∈ members, member.2.Textual) : Textual (.object members)

mutual

def height : Json → Nat
  | object members => heightOfMembers members + 1
  | _ => 0
termination_by structural value => value

def heightOfMembers : List (String × Json) → Nat
  | [] => 0
  | (_, value) :: rest => max value.height (heightOfMembers rest)
termination_by structural members => members

end

/-! ## Leaves -/

def Lists (leaves : List LeafPath) (keys : List String) (value : Json) : Prop :=
  ∀ leaf, leaf ∈ leaves ↔
    ∃ path text, leaf = keys ++ (path ++ [text]) ∧ value.textAt? path = some text

theorem lists_leaf {value : Json} {text : String} (isLeaf : value.leafText? = some text)
    (keys : List String) : Lists [keys ++ [text]] keys value := by
  intro leaf
  rw [List.mem_singleton]
  constructor
  · rintro rfl
    exact ⟨[], text, rfl, isLeaf⟩
  · rintro ⟨path, found, rfl, located⟩
    cases path with
    | nil =>
      obtain rfl := Option.some.inj (isLeaf.symm.trans located)
      rfl
    | cons key path =>
      have nothing : value.textAt? ([] ++ key :: path) = none :=
        textAt?_below_leaf isLeaf (List.cons_ne_nil key path)
      exact absurd (nothing.symm.trans located) (by simp)

theorem leavesOfMembers_eq_ok {limit : Nat} {keys : List String} {members : List (String × Json)}
    (each : ∀ member ∈ members, ∃ leaves,
      leavesUnder limit (keys ++ [member.1]) member.2 = .ok leaves ∧
        Lists leaves (keys ++ [member.1]) member.2) :
    ∃ leaves, leavesOfMembers limit keys members = .ok leaves ∧
      ∀ leaf, leaf ∈ leaves ↔ ∃ member ∈ members, ∃ path text,
        leaf = keys ++ [member.1] ++ (path ++ [text]) ∧ member.2.textAt? path = some text := by
  induction members with
  | nil => exact ⟨[], rfl, by simp⟩
  | cons member rest ih =>
    obtain ⟨key, value⟩ := member
    obtain ⟨first, flat, firstLists⟩ := each _ List.mem_cons_self
    obtain ⟨others, otherFlat, othersList⟩ :=
      ih fun member inside => each member (List.mem_cons_of_mem _ inside)
    refine ⟨first ++ others, ?_, fun leaf => ?_⟩
    · rw [leavesOfMembers, flat, otherFlat]
      rfl
    · rw [List.mem_append, firstLists leaf, othersList leaf]
      simp only [List.mem_cons, exists_eq_or_imp]

theorem height_le_heightOfMembers {members : List (String × Json)} {member : String × Json}
    (inside : member ∈ members) : member.2.height ≤ heightOfMembers members := by
  induction members with
  | nil => cases inside
  | cons first rest ih =>
    obtain ⟨key, value⟩ := first
    rw [heightOfMembers]
    rcases List.mem_cons.1 inside with rfl | inside
    · exact Nat.le_max_left _ _
    · exact Nat.le_trans (ih inside) (Nat.le_max_right _ _)

theorem leavesUnder_eq_ok {value : Json} (textual : value.Textual) {limit : Nat}
    {keys : List String} (nested : keys.length + value.height ≤ limit) :
    ∃ leaves, leavesUnder limit keys value = .ok leaves ∧ Lists leaves keys value := by
  induction textual generalizing keys with
  | string text => exact ⟨_, rfl, lists_leaf rfl keys⟩
  | number value => exact ⟨_, rfl, lists_leaf rfl keys⟩
  | @object members ascending below ih =>
    rw [height] at nested
    have each : ∀ member ∈ members, ∃ leaves,
        leavesUnder limit (keys ++ [member.1]) member.2 = .ok leaves ∧
          Lists leaves (keys ++ [member.1]) member.2 := by
      intro member inside
      have lower := height_le_heightOfMembers inside
      refine ih member inside ?_
      rw [List.length_append, List.length_singleton]
      omega
    obtain ⟨leaves, flat, listed⟩ := leavesOfMembers_eq_ok each
    refine ⟨leaves, ?_, fun leaf => ?_⟩
    · rw [leavesUnder, if_neg (by omega), flat]
    · rw [listed]
      constructor
      · rintro ⟨⟨key, value⟩, inside, path, text, rfl, located⟩
        refine ⟨key :: path, text, by simp, ?_⟩
        rw [textAt?_cons, member?, ascending.lookup_eq_some_iff.2 inside]
        exact located
      · rintro ⟨path, text, rfl, located⟩
        cases path with
        | nil => cases located
        | cons key path =>
          rw [textAt?_cons, Option.bind_eq_some_iff] at located
          obtain ⟨value, found, located⟩ := located
          exact ⟨(key, value), ascending.lookup_eq_some_iff.1 found, path, text, by simp, located⟩

theorem leaves_eq_ok {document : Json} (textual : document.Textual) {limit : Nat}
    (nested : document.height ≤ limit) :
    ∃ leaves, document.leaves limit = .ok leaves ∧ ∀ leaf, leaf ∈ leaves ↔
      ∃ path text, leaf = path ++ [text] ∧ document.textAt? path = some text := by
  have below : ([] : List String).length + document.height ≤ limit := by simpa using nested
  exact leavesUnder_eq_ok textual below

end Phrasebook.Json
