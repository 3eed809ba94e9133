import Phrasebook.Dictionary.Basic
import Phrasebook.Trie.Branch

namespace Phrasebook

structure Trie (α : Type) where
  branch : Branch α
  ordered : branch.Ordered

namespace Branch

variable {α : Type}

theorem Ordered.child {branch : Branch α} (ordered : branch.Ordered) {child : String × Branch α}
    (member : child ∈ branch.children) : child.2.Ordered := by
  cases ordered with
  | node _ below => exact below child member

theorem Ordered.ascending_children {branch : Branch α} (ordered : branch.Ordered) :
    Entries.Ascending branch.children := by
  cases ordered with
  | node ascending _ => exact ascending

theorem Ordered.get? {path : List String} {branch found : Branch α} (ordered : branch.Ordered)
    (located : branch.get? path = some found) : found.Ordered := by
  induction path generalizing branch with
  | nil =>
    obtain rfl : branch = found := by simpa [Branch.get?] using located
    exact ordered
  | cons key path ih =>
    simp only [Branch.get?, Option.bind_eq_some_iff] at located
    obtain ⟨child, atKey, located⟩ := located
    obtain ⟨front, back, split, _⟩ := List.lookup_eq_some_iff.1 atKey
    have member : (key, child) ∈ branch.children := by simp [split]
    exact ih (ordered.child member) located

end Branch

namespace Trie

variable {α β : Type}

def leaf (label : α) : Trie α := ⟨.node label [], Branch.ordered_leaf label⟩

def blank [Label α] : Trie α := leaf Label.blank

def label (trie : Trie α) : α := trie.branch.label

def children (trie : Trie α) : Dictionary (Trie α) where
  entries := trie.branch.children.attach.map fun child =>
    (child.1.1, ⟨child.1.2, trie.ordered.child child.2⟩)
  ascending := by
    have ascending := trie.ordered.ascending_children
    rw [← List.attach_map_subtype_val trie.branch.children] at ascending
    have attached := List.pairwise_map.1 ascending
    exact List.Pairwise.map _ (fun _ _ below => below) attached

def ofChildren (label : α) (children : Dictionary (Trie α)) : Trie α where
  branch := .node label (children.entries.map fun child => (child.1, child.2.branch))
  ordered := by
    refine .node (children.ascending.mapValues fun _ child => child.branch) fun child member => ?_
    obtain ⟨entry, _, rfl⟩ := List.mem_map.1 member
    exact entry.2.ordered

def merge [Label α] (trie other : Trie α) : Trie α :=
  ⟨trie.branch.merge other.branch, trie.ordered.merge other.ordered⟩

def graft [Label α] (trie : Trie α) (path : List String) (addition : Trie α) : Trie α :=
  ⟨addition.branch.graft path trie.branch, addition.ordered.graft path trie.ordered⟩

def get? (trie : Trie α) (path : List String) : Option (Trie α) :=
  match located : trie.branch.get? path with
  | some found => some ⟨found, trie.ordered.get? located⟩
  | none => none

def map (image : α → β) (trie : Trie α) : Trie β :=
  ⟨trie.branch.map image, trie.ordered.map image⟩

def any (test : α → Bool) (trie : Trie α) : Bool := trie.branch.any test

end Trie

end Phrasebook
