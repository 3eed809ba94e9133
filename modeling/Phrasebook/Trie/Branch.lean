import Phrasebook.Dictionary.Entries

/-!
# Branches

A branch is a node with a label and keyed branches below it. Two branches are laid over one
another by combining labels that meet and keeping everything else; a branch is grafted onto
another at a path of keys, where missing nodes get the blank label. `Ordered` says that the keys
below every node ascend; laying and grafting keep it.
-/

namespace Phrasebook

/-- Labels of nodes: a blank one for nodes that only lead to others, and a way to combine the
labels of two nodes at one place, where the first is the one that was there before. -/
class Label (α : Type) where
  blank : α
  combine : α → α → α

inductive Branch (α : Type) where
  | node (label : α) (children : List (String × Branch α))

namespace Branch

variable {α β : Type}

def label : Branch α → α
  | node label _ => label

def children : Branch α → List (String × Branch α)
  | node _ children => children

inductive Ordered : Branch α → Prop
  | node {label : α} {children : List (String × Branch α)} (ascending : Entries.Ascending children)
      (below : ∀ child ∈ children, child.2.Ordered) : (Branch.node label children).Ordered

/-! ## Laying one branch over another -/

mutual

def merge [Label α] : Branch α → Branch α → Branch α
  | node label children, node otherLabel others =>
    node (Label.combine label otherLabel) (mergeChildren children others)
termination_by structural _ other => other

def mergeChildren [Label α] (children : List (String × Branch α)) :
    List (String × Branch α) → List (String × Branch α)
  | [] => children
  | (key, branch) :: rest =>
    mergeChildren
      (Entries.alter key (fun former => former.elim branch fun old => old.merge branch) children)
      rest
termination_by structural others => others

end

/-! ## Grafting -/

/-- Merges `branch` into the node at `path`, which is created with blank nodes on the way if it is
missing. A branch whose place is missing is put there as it is. -/
def graft [Label α] (branch : Branch α) : List String → Branch α → Branch α
  | [], target => target.merge branch
  | [key], node label children =>
    node label
      (Entries.alter key (fun former => former.elim branch fun old => old.merge branch) children)
  | key :: next :: path, node label children =>
    node label
      (Entries.alter key
        (fun former => graft branch (next :: path) (former.getD (node Label.blank []))) children)

/-! ## Views -/

def get? : List String → Branch α → Option (Branch α)
  | [], branch => some branch
  | key :: path, branch => (branch.children.lookup key).bind (get? path)

mutual

def map (image : α → β) : Branch α → Branch β
  | node label children => node (image label) (mapChildren image children)
termination_by structural branch => branch

def mapChildren (image : α → β) : List (String × Branch α) → List (String × Branch β)
  | [] => []
  | (key, branch) :: rest => (key, branch.map image) :: mapChildren image rest
termination_by structural children => children

end

mutual

def any (test : α → Bool) : Branch α → Bool
  | node label children => test label || anyChild test children
termination_by structural branch => branch

def anyChild (test : α → Bool) : List (String × Branch α) → Bool
  | [] => false
  | (_, branch) :: rest => branch.any test || anyChild test rest
termination_by structural children => children

end

/-! ## Order -/

theorem ordered_leaf (label : α) : (Branch.node label []).Ordered :=
  .node .nil fun _ member => absurd member List.not_mem_nil

theorem Ordered.alterChild {label : α} {children : List (String × Branch α)}
    (ordered : (Branch.node label children).Ordered) (newLabel : α) (key : String)
    {change : Option (Branch α) → Branch α} (fresh : (change none).Ordered)
    (changed : ∀ former : Branch α, former.Ordered → (change (some former)).Ordered) :
    (Branch.node newLabel (Entries.alter key change children)).Ordered := by
  obtain ⟨ascending, below⟩ := ordered
  refine .node (ascending.alter key change) fun child member => ?_
  rcases Entries.mem_alter member with inside | rfl | ⟨former, inside, rfl⟩
  · exact below child inside
  · exact fresh
  · exact changed former (below _ inside)

theorem Ordered.relabel {label : α} {children : List (String × Branch α)}
    (ordered : (Branch.node label children).Ordered) (newLabel : α) :
    (Branch.node newLabel children).Ordered := by
  obtain ⟨ascending, below⟩ := ordered
  exact .node ascending below

theorem mapChildren_eq (image : α → β) (children : List (String × Branch α)) :
    mapChildren image children = children.map fun child => (child.1, child.2.map image) := by
  induction children with
  | nil => rfl
  | cons child rest ih =>
    obtain ⟨key, branch⟩ := child
    simp [mapChildren, ih]

theorem ascending_mapChildren (image : α → β) (children : List (String × Branch α))
    (ascending : Entries.Ascending children) :
    Entries.Ascending (mapChildren image children) := by
  rw [mapChildren_eq]
  exact ascending.mapValues fun _ branch => branch.map image

mutual

theorem Ordered.merge [Label α] : {target other : Branch α} → target.Ordered → other.Ordered →
    (target.merge other).Ordered
  | .node label _, .node _ others, targetOrdered, otherOrdered => by
    unfold Branch.merge
    cases otherOrdered with
    | node _ below => exact ordered_mergeChildren _ others (targetOrdered.relabel _) below
termination_by structural _ other => other

theorem ordered_mergeChildren [Label α] {label : α} (children : List (String × Branch α)) :
    (others : List (String × Branch α)) → (Branch.node label children).Ordered →
    (∀ other ∈ others, other.2.Ordered) →
    (Branch.node label (mergeChildren children others)).Ordered
  | [], ordered, _ => by unfold mergeChildren; exact ordered
  | (key, branch) :: rest, ordered, below => by
    unfold mergeChildren
    refine ordered_mergeChildren _ rest (ordered.alterChild _ key ?_ fun former formerOrdered => ?_)
      fun other member => below other (List.mem_cons_of_mem _ member)
    · exact below _ List.mem_cons_self
    · exact formerOrdered.merge (below (key, branch) List.mem_cons_self)
termination_by structural others => others

end

theorem Ordered.graft [Label α] {branch : Branch α} (branchOrdered : branch.Ordered)
    (path : List String) {target : Branch α} (targetOrdered : target.Ordered) :
    (branch.graft path target).Ordered := by
  induction path generalizing target with
  | nil => exact targetOrdered.merge branchOrdered
  | cons key path ih =>
    cases target with
    | node label children =>
      cases path with
      | nil =>
        exact targetOrdered.alterChild _ key branchOrdered fun former ordered =>
          ordered.merge branchOrdered
      | cons next path =>
        exact targetOrdered.alterChild _ key (ih (ordered_leaf _)) fun former ordered => ih ordered

mutual

theorem Ordered.map (image : α → β) : {branch : Branch α} → branch.Ordered →
    (branch.map image).Ordered
  | .node label children, ordered => by
    unfold Branch.map
    cases ordered with
    | node ascending below =>
      exact .node (ascending_mapChildren image children ascending)
        (ordered_mapChildren image children below)
termination_by structural branch => branch

theorem ordered_mapChildren (image : α → β) : (children : List (String × Branch α)) →
    (∀ child ∈ children, child.2.Ordered) → ∀ child ∈ mapChildren image children, child.2.Ordered
  | [], _ => by simp [mapChildren]
  | (key, branch) :: rest, below => by
    unfold mapChildren
    intro child member
    rcases List.mem_cons.1 member with rfl | member
    · exact Ordered.map image (below (key, branch) List.mem_cons_self)
    · exact ordered_mapChildren image rest (fun child member =>
        below child (List.mem_cons_of_mem _ member)) child member
termination_by structural children => children

end

end Branch

end Phrasebook
