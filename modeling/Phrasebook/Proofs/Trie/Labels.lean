import Mathlib.Algebra.GroupWithZero.Nat
import Phrasebook.Proofs.Dictionary.Lookup
import Phrasebook.Trie.Basic

namespace Phrasebook

namespace Branch

variable {α β : Type}

mutual

theorem inductOn {motive : Branch α → Prop}
    (node : ∀ (label : α) (children : List (String × Branch α)),
      (∀ child ∈ children, motive child.2) → motive (.node label children)) :
    ∀ branch : Branch α, motive branch
  | .node label children => node label children (inductOnChildren node children)
termination_by structural branch => branch

theorem inductOnChildren {motive : Branch α → Prop}
    (node : ∀ (label : α) (children : List (String × Branch α)),
      (∀ child ∈ children, motive child.2) → motive (.node label children)) :
    ∀ children : List (String × Branch α), ∀ child ∈ children, motive child.2
  | [], _, member => absurd member List.not_mem_nil
  | (_, branch) :: rest, child, member => by
    rcases List.mem_cons.1 member with rfl | member
    · exact inductOn node branch
    · exact inductOnChildren node rest child member
termination_by structural children => children

end

def labelAt? (path : List String) (branch : Branch α) : Option α := (branch.get? path).map label

@[simp] theorem labelAt?_nil (branch : Branch α) : branch.labelAt? [] = some branch.label := rfl

theorem labelAt?_cons (key : String) (path : List String) (branch : Branch α) :
    branch.labelAt? (key :: path) = (branch.children.lookup key).bind (labelAt? path) := by
  simp only [labelAt?, get?, Option.map_bind]
  rfl

theorem get?_append (path rest : List String) (branch : Branch α) :
    branch.get? (path ++ rest) = (branch.get? path).bind (get? rest) := by
  induction path generalizing branch with
  | nil => rfl
  | cons key path ih =>
    simp only [List.cons_append, get?, Option.bind_assoc]
    congr 1
    funext child
    exact ih child

theorem labelAt?_map (image : α → β) (path : List String) (branch : Branch α) :
    (branch.map image).labelAt? path = (branch.labelAt? path).map image := by
  induction path generalizing branch with
  | nil => cases branch; simp [map, label]
  | cons key path ih =>
    obtain ⟨label, children⟩ := branch
    rw [map, labelAt?_cons, labelAt?_cons, Branch.children, Branch.children, mapChildren_eq,
      Entries.lookup_mapValues (fun _ => map image)]
    cases children.lookup key with
    | none => rfl
    | some child => exact ih child

theorem eq_of_labelAt?_eq {branch other : Branch α} (ordered : branch.Ordered)
    (otherOrdered : other.Ordered) (same : ∀ path, branch.labelAt? path = other.labelAt? path) :
    branch = other := by
  induction branch using inductOn generalizing other with
  | node label children ih =>
    obtain ⟨otherLabel, others⟩ := other
    have labels : label = otherLabel := Option.some.inj (same [])
    have below : ∀ key path, (children.lookup key).bind (labelAt? path) =
        (others.lookup key).bind (labelAt? path) := by
      intro key path
      have equal := same (key :: path)
      rwa [labelAt?_cons, labelAt?_cons] at equal
    have lookups : ∀ key, children.lookup key = others.lookup key := by
      intro key
      cases found : children.lookup key with
      | none =>
        cases otherFound : others.lookup key with
        | none => rfl
        | some other => simpa [found, otherFound] using below key []
      | some child =>
        cases otherFound : others.lookup key with
        | none => simpa [found, otherFound] using below key []
        | some other =>
          have member : (key, child) ∈ children :=
            ordered.ascending_children.lookup_eq_some_iff.1 found
          have otherMember : (key, other) ∈ others :=
            otherOrdered.ascending_children.lookup_eq_some_iff.1 otherFound
          have equal : child = other := by
            refine ih _ member (ordered.child member) (otherOrdered.child otherMember) ?_
            intro path
            simpa [found, otherFound] using below key path
          rw [equal]
    have equal : children = others :=
      Entries.eq_of_lookup_eq ordered.ascending_children otherOrdered.ascending_children lookups
    rw [labels, equal]

theorem anyChild_iff {test : α → Bool} {children : List (String × Branch α)} :
    anyChild test children = true ↔ ∃ child ∈ children, child.2.any test = true := by
  induction children with
  | nil => simp [anyChild]
  | cons child rest ih => simp [anyChild, ih]

theorem Ordered.any_iff {test : α → Bool} {branch : Branch α} (ordered : branch.Ordered) :
    branch.any test = true ↔ ∃ path label, branch.labelAt? path = some label ∧ test label := by
  induction branch using inductOn with
  | node label children ih =>
    rw [any, Bool.or_eq_true, anyChild_iff]
    constructor
    · rintro (holds | ⟨⟨key, child⟩, member, holds⟩)
      · exact ⟨[], label, rfl, holds⟩
      · obtain ⟨path, found, located, holds⟩ := (ih _ member (ordered.child member)).1 holds
        have atKey : children.lookup key = some child :=
          ordered.ascending_children.lookup_eq_some_iff.2 member
        refine ⟨key :: path, found, ?_, holds⟩
        rw [labelAt?_cons]
        simpa [Branch.children, atKey] using located
    · rintro ⟨path, found, located, holds⟩
      cases path with
      | nil =>
        obtain rfl : label = found := Option.some.inj located
        exact .inl holds
      | cons key path =>
        rw [labelAt?_cons, Option.bind_eq_some_iff] at located
        obtain ⟨child, atKey, located⟩ := located
        have member := ordered.ascending_children.lookup_eq_some_iff.1 atKey
        exact .inr ⟨_, member, (ih _ member (ordered.child member)).2 ⟨path, found, located, holds⟩⟩

/-! ## Search -/

def successors (branch : Branch α) : List (Branch α) := (branch.children.map (·.2)).reverse

theorem sum_sizeOf_successors_lt (branch : Branch α) :
    (branch.successors.map sizeOf).sum < sizeOf branch := by
  obtain ⟨label, children⟩ := branch
  have inside := Entries.sum_sizeOf_le children
  simp only [successors, Branch.children, List.map_reverse, List.sum_reverse, List.map_map,
    Function.comp_def, node.sizeOf_spec]
  omega

def search (test : α → Bool) : List (Branch α) → Bool
  | [] => false
  | branch :: pending => test branch.label || search test (branch.successors ++ pending)
termination_by pending => (pending.map sizeOf).sum
decreasing_by
  have smaller := sum_sizeOf_successors_lt branch
  simp only [List.map_append, List.sum_append, List.map_cons, List.sum_cons]
  omega

theorem any_eq_successors (test : α → Bool) (branch : Branch α) :
    branch.any test = (test branch.label || branch.successors.any (any test)) := by
  obtain ⟨label, children⟩ := branch
  have walk : anyChild test children = children.any fun child => child.2.any test := by
    rw [Bool.eq_iff_iff, anyChild_iff, List.any_eq_true]
  rw [any, walk, successors, List.any_reverse, List.any_map]
  rfl

theorem search_eq_any (test : α → Bool) (pending : List (Branch α)) :
    search test pending = pending.any (any test) := by
  induction pending using search.induct with
  | case1 => simp [search]
  | case2 branch pending ih =>
    rw [search, ih, List.any_append, List.any_cons, any_eq_successors, Bool.or_assoc]

end Branch

namespace Trie

variable {α β : Type}

def labelAt? (trie : Trie α) (path : List String) : Option α := trie.branch.labelAt? path

theorem map_label_get? (trie : Trie α) (path : List String) :
    (trie.get? path).map label = trie.labelAt? path := by
  unfold get?
  split
  · rename_i found located
    simp [labelAt?, Branch.labelAt?, located, label]
  · rename_i absent
    simp [labelAt?, Branch.labelAt?, absent]

theorem isSome_get? (trie : Trie α) (path : List String) :
    (trie.get? path).isSome = (trie.labelAt? path).isSome := by
  rw [← map_label_get?, Option.isSome_map]

theorem ext_labelAt? {trie other : Trie α}
    (same : ∀ path, trie.labelAt? path = other.labelAt? path) : trie = other := by
  cases trie with
  | mk branch ordered =>
    cases other with
    | mk otherBranch otherOrdered =>
      have equal : branch = otherBranch := Branch.eq_of_labelAt?_eq ordered otherOrdered same
      subst equal
      rfl

theorem any_iff {test : α → Bool} {trie : Trie α} :
    trie.any test = true ↔ ∃ path label, trie.labelAt? path = some label ∧ test label :=
  trie.ordered.any_iff

def search (test : α → Bool) (trie : Trie α) : Bool := Branch.search test [trie.branch]

theorem search_eq_any (test : α → Bool) (trie : Trie α) : trie.search test = trie.any test := by
  rw [search, Branch.search_eq_any, List.any_cons, List.any_nil, Bool.or_false]
  rfl

/-! ## Labels below a node -/

theorem labelAt?_of_get? {trie node : Trie α} {path : List String}
    (located : trie.get? path = some node) (rest : List String) :
    node.labelAt? rest = trie.labelAt? (path ++ rest) := by
  unfold get? at located
  split at located
  · rename_i found atPath
    obtain rfl := Option.some.inj located
    simp [labelAt?, Branch.labelAt?, Branch.get?_append, atPath]
  · cases located

theorem labelAt?_map (image : α → β) (trie : Trie α) (path : List String) :
    (trie.map image).labelAt? path = (trie.labelAt? path).map image :=
  Branch.labelAt?_map image path trie.branch

theorem labelAt?_ofChildren (label : α) (children : Dictionary (Trie α)) (key : String)
    (path : List String) : (ofChildren label children).labelAt? (key :: path) =
      (children.get? key).bind (·.labelAt? path) := by
  rw [labelAt?, ofChildren, Branch.labelAt?_cons, Branch.children,
    Entries.lookup_mapValues (fun _ => branch), Option.bind_map]
  rfl

theorem ofChildren_children (trie : Trie α) : ofChildren trie.label trie.children = trie := by
  have kept : (trie.children.entries.map fun child => (child.1, child.2.branch)) =
      trie.branch.children := by
    rw [children, List.map_map]
    exact List.attach_map_subtype_val trie.branch.children
  obtain ⟨⟨label, children⟩, ordered⟩ := trie
  simp only [ofChildren, kept]
  rfl

theorem labelAt?_cons (key : String) (path : List String) (trie : Trie α) :
    trie.labelAt? (key :: path) = (trie.children.get? key).bind (·.labelAt? path) := by
  rw [← labelAt?_ofChildren trie.label, ofChildren_children]

theorem labelAt?_leaf (label : α) (path : List String) :
    (leaf label).labelAt? path = if path = [] then some label else none := by
  cases path with
  | nil => rfl
  | cons key path => simp [leaf, labelAt?, Branch.labelAt?_cons, Branch.children]

end Trie

end Phrasebook
