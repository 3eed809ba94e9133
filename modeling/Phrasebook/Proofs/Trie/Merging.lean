import Mathlib.Data.List.Induction
import Phrasebook.Proofs.Trie.Labels

/-!
# Merging and grafting

Where combining labels is associative and the blank label changes nothing (`LawfulLabel`), merging
tries works path by path (`Trie.labelAt?_merge`), and so it is associative. A graft merges a trie
of blank nodes that lead to the addition (`Trie.graft_eq_merge`). From this follows how grafts
nest: grafting a trie that was grafted together piece by piece is grafting its pieces one by one
(`Trie.graft_ofLabels`). And it follows that grafts whose labels can be combined in either order
give the same trie in every order (`Trie.graftAll_perm`).

`Trie.ofLabels` grafts labels at their paths. It has a node at each prefix of these paths, and
the label of a node combines all labels that were given for its path, in order.
-/

namespace Phrasebook

/-- Labels of which the blank one changes nothing, and which may be combined in any grouping. -/
class LawfulLabel (α : Type) [Label α] : Prop where
  blank_combine : ∀ label : α, Label.combine Label.blank label = label
  combine_blank : ∀ label : α, Label.combine label Label.blank = label
  combine_assoc : ∀ first second third : α,
    Label.combine (Label.combine first second) third =
      Label.combine first (Label.combine second third)

namespace Branch

variable {α : Type} [Label α]

theorem merge_node (label : α) (children : List (String × Branch α)) (otherLabel : α)
    (others : List (String × Branch α)) :
    (node label children).merge (node otherLabel others) =
      node (Label.combine label otherLabel) (mergeChildren children others) := rfl

theorem mergeChildren_singleton (children : List (String × Branch α)) (key : String)
    (branch : Branch α) : mergeChildren children [(key, branch)] =
      Entries.alter key (fun former => former.elim branch fun old => old.merge branch) children :=
  rfl

theorem lookup_mergeChildren {children others : List (String × Branch α)}
    (ascending : Entries.Ascending children) (otherAscending : Entries.Ascending others)
    (key : String) : (mergeChildren children others).lookup key =
      Option.merge merge (children.lookup key) (others.lookup key) := by
  induction others generalizing children with
  | nil => simp [mergeChildren]
  | cons other rest ih =>
    obtain ⟨head, branch⟩ := other
    rw [mergeChildren, ih (ascending.alter _ _) otherAscending.of_cons,
      Entries.lookup_alter _ _ _ ascending, Entries.lookup_cons_eq]
    by_cases atHead : key = head
    · subst atHead
      rw [otherAscending.lookup_head_eq_none]
      cases children.lookup key <;> simp
    · simp [atHead]

theorem labelAt?_merge {branch other : Branch α} (ordered : branch.Ordered)
    (otherOrdered : other.Ordered) (path : List String) : (branch.merge other).labelAt? path =
      Option.merge Label.combine (branch.labelAt? path) (other.labelAt? path) := by
  induction path generalizing branch other with
  | nil =>
    obtain ⟨_, _⟩ := branch
    obtain ⟨_, _⟩ := other
    simp [merge, label]
  | cons key path ih =>
    obtain ⟨label, children⟩ := branch
    obtain ⟨otherLabel, others⟩ := other
    have ascending : Entries.Ascending children := ordered.ascending_children
    have otherAscending : Entries.Ascending others := otherOrdered.ascending_children
    simp only [labelAt?_cons, merge, Branch.children,
      lookup_mergeChildren ascending otherAscending]
    cases found : children.lookup key with
    | none => simp
    | some child =>
      cases otherFound : others.lookup key with
      | none => simp
      | some other =>
        have childOrdered := ordered.child (ascending.lookup_eq_some_iff.1 found)
        have otherOrdered := otherOrdered.child (otherAscending.lookup_eq_some_iff.1 otherFound)
        simp [ih childOrdered otherOrdered]

def under : List String → Branch α → Branch α
  | [], branch => branch
  | key :: path, branch => node Label.blank [(key, under path branch)]

theorem Ordered.under {branch : Branch α} (ordered : branch.Ordered) (path : List String) :
    (branch.under path).Ordered := by
  induction path with
  | nil => exact ordered
  | cons key path ih =>
    refine .node (List.pairwise_singleton _ _) fun child member => ?_
    obtain rfl := List.mem_singleton.1 member
    exact ih

theorem graft_eq_merge_under [LawfulLabel α] (branch : Branch α) (path : List String)
    (target : Branch α) : branch.graft path target = target.merge (branch.under path) := by
  induction path generalizing target with
  | nil => rfl
  | cons key path ih =>
    obtain ⟨label, children⟩ := target
    cases path with
    | nil =>
      rw [under, under, merge_node, mergeChildren_singleton, LawfulLabel.combine_blank, graft]
    | cons next path =>
      have fresh : graft branch (next :: path) (node Label.blank []) =
          branch.under (next :: path) := by
        rw [ih, under, merge_node, mergeChildren_singleton, LawfulLabel.combine_blank]
        rfl
      rw [under, merge_node, mergeChildren_singleton, LawfulLabel.combine_blank, graft]
      congr 2
      funext former
      cases former with
      | none => exact fresh
      | some old => exact ih old

end Branch

namespace Trie

variable {α : Type} [Label α]

theorem labelAt?_merge (trie other : Trie α) (path : List String) :
    (trie.merge other).labelAt? path =
      Option.merge Label.combine (trie.labelAt? path) (other.labelAt? path) :=
  Branch.labelAt?_merge trie.ordered other.ordered path

theorem merge_self (same : ∀ label : α, Label.combine label label = label) (trie : Trie α) :
    trie.merge trie = trie := by
  refine ext_labelAt? fun path => ?_
  rw [labelAt?_merge]
  cases trie.labelAt? path <;> simp [same]

theorem merge_comm_of_labels {first second : Trie α}
    (commute : ∀ path label other, first.labelAt? path = some label →
      second.labelAt? path = some other → Label.combine label other = Label.combine other label) :
    first.merge second = second.merge first := by
  refine ext_labelAt? fun path => ?_
  rw [labelAt?_merge, labelAt?_merge]
  cases here : first.labelAt? path with
  | none => simp
  | some label =>
    cases there : second.labelAt? path with
    | none => simp
    | some other => simp [commute path label other here there]

def under (path : List String) (trie : Trie α) : Trie α :=
  ⟨trie.branch.under path, trie.ordered.under path⟩

@[simp] theorem under_nil (trie : Trie α) : trie.under [] = trie := rfl

theorem under_append (path rest : List String) (trie : Trie α) :
    trie.under (path ++ rest) = (trie.under rest).under path := by
  have branches : trie.branch.under (path ++ rest) = (trie.branch.under rest).under path := by
    induction path with
    | nil => rfl
    | cons key path ih => simp [Branch.under, ih]
  simp [under, branches]

@[simp] theorem labelAt?_under_nil (key : String) (path : List String) (trie : Trie α) :
    (trie.under (key :: path)).labelAt? [] = some Label.blank := rfl

theorem labelAt?_under_cons (key : String) (path : List String) (trie : Trie α)
    (head : String) (rest : List String) : (trie.under (key :: path)).labelAt? (head :: rest) =
      if head = key then (trie.under path).labelAt? rest else none := by
  simp only [labelAt?, under, Branch.labelAt?_cons, Branch.under, Branch.children,
    Entries.lookup_cons_eq]
  by_cases atKey : head = key <;> simp [atKey]

theorem of_labelAt?_under {place path : List String} {trie : Trie α} {label : α}
    (located : (trie.under place).labelAt? path = some label) :
    label = Label.blank ∨ ∃ rest, path = place ++ rest ∧ trie.labelAt? rest = some label := by
  induction place generalizing path with
  | nil => exact .inr ⟨path, rfl, located⟩
  | cons key place ih =>
    cases path with
    | nil => exact .inl (Option.some.inj located).symm
    | cons head rest =>
      rw [labelAt?_under_cons] at located
      split at located
      · rename_i atKey
        obtain blank | ⟨tail, rfl, inside⟩ := ih located
        · exact .inl blank
        · exact .inr ⟨tail, by rw [atKey, List.cons_append], inside⟩
      · cases located

def graftAll (trie : Trie α) (pieces : List (List String × Trie α)) : Trie α :=
  pieces.foldl (fun trie piece => trie.graft piece.1 piece.2) trie

def ofLabels (entries : List (List String × α)) : Trie α :=
  entries.foldl (fun trie entry => trie.graft entry.1 (leaf entry.2)) blank

theorem ofLabels_append_singleton (entries : List (List String × α)) (entry : List String × α) :
    ofLabels (entries ++ [entry]) = (ofLabels entries).graft entry.1 (leaf entry.2) := by
  simp [ofLabels]

variable [LawfulLabel α]

theorem graft_eq_merge (trie : Trie α) (path : List String) (addition : Trie α) :
    trie.graft path addition = trie.merge (addition.under path) := by
  simp [graft, merge, under, Branch.graft_eq_merge_under]

theorem merge_assoc (first second third : Trie α) :
    (first.merge second).merge third = first.merge (second.merge third) := by
  refine ext_labelAt? fun path => ?_
  simp only [labelAt?_merge]
  cases first.labelAt? path <;> cases second.labelAt? path <;> cases third.labelAt? path <;>
    simp [LawfulLabel.combine_assoc]

@[simp] theorem blank_merge (trie : Trie α) : blank.merge trie = trie := by
  refine ext_labelAt? fun path => ?_
  rw [labelAt?_merge, blank, labelAt?_leaf]
  cases path with
  | nil => simp [labelAt?, LawfulLabel.blank_combine]
  | cons key path => simp

@[simp] theorem merge_blank (trie : Trie α) : trie.merge blank = trie := by
  refine ext_labelAt? fun path => ?_
  rw [labelAt?_merge, blank, labelAt?_leaf]
  cases path with
  | nil => simp [labelAt?, LawfulLabel.combine_blank]
  | cons key path => simp

theorem under_merge (path : List String) (trie other : Trie α) :
    (trie.merge other).under path = (trie.under path).merge (other.under path) := by
  refine ext_labelAt? fun query => ?_
  rw [labelAt?_merge]
  induction path generalizing query with
  | nil => exact labelAt?_merge trie other query
  | cons key path ih =>
    cases query with
    | nil => simp [LawfulLabel.blank_combine]
    | cons head rest =>
      simp only [labelAt?_under_cons]
      split
      · exact ih rest
      · rfl

theorem graft_graft (trie : Trie α) (path rest : List String) (inner addition : Trie α) :
    trie.graft path (inner.graft rest addition) =
      (trie.graft path inner).graft (path ++ rest) addition := by
  simp only [graft_eq_merge, under_merge, under_append, merge_assoc]

/-- A blank node at a place is made anyhow if something is grafted there or below. -/
theorem graft_blank_graft (trie : Trie α) (path rest : List String) (addition : Trie α) :
    (trie.graft path blank).graft (path ++ rest) addition =
      trie.graft (path ++ rest) addition := by
  rw [← graft_graft, graft_eq_merge, graft_eq_merge, graft_eq_merge, blank_merge, under_append]

theorem graftAll_perm {pieces others : List (List String × Trie α)} (perm : pieces.Perm others)
    (commute : ∀ piece ∈ pieces, ∀ other ∈ pieces,
      (piece.2.under piece.1).merge (other.2.under other.1) =
        (other.2.under other.1).merge (piece.2.under piece.1)) (trie : Trie α) :
    trie.graftAll pieces = trie.graftAll others := by
  refine perm.foldl_eq' (fun piece member other otherMember former => ?_) trie
  simp only [graft_eq_merge, merge_assoc]
  rw [commute piece member other otherMember]

theorem graft_ofLabels (trie : Trie α) (path : List String) {entries : List (List String × α)}
    (nonempty : entries ≠ []) : trie.graft path (ofLabels entries) =
      entries.foldl (fun trie entry => trie.graft (path ++ entry.1) (leaf entry.2)) trie := by
  -- The last label is grafted last on both sides.
  induction entries using List.reverseRecOn with
  | nil => exact absurd rfl nonempty
  | append_singleton entries entry ih =>
    rw [ofLabels_append_singleton, graft_graft, List.foldl_append]
    by_cases first : entries = []
    · simp [first, ofLabels, graft_blank_graft]
    · rw [ih first]
      rfl

theorem labelAt?_graft_leaf (trie : Trie α) (place : List String) (label : α)
    (path : List String) : (trie.graft place (leaf label)).labelAt? path =
      Option.merge Label.combine (trie.labelAt? path)
        (if path = place then some label else if path <+: place then some Label.blank else none) := by
  rw [graft_eq_merge, labelAt?_merge]
  congr 1
  induction place generalizing path with
  | nil => cases path <;> simp [labelAt?_leaf]
  | cons key place ih =>
    cases path with
    | nil => simp
    | cons head rest =>
      rw [labelAt?_under_cons]
      by_cases atKey : head = key <;> simp [atKey, ih, List.cons_prefix_cons]

theorem isSome_labelAt?_ofLabels (entries : List (List String × α)) (path : List String) :
    ((ofLabels entries).labelAt? path).isSome ↔
      path = [] ∨ ∃ entry ∈ entries, path <+: entry.1 := by
  induction entries using List.reverseRecOn with
  | nil => simp [ofLabels, blank, labelAt?_leaf]
  | append_singleton entries entry ih =>
    have merged : ∀ first second : Option α,
        (Option.merge Label.combine first second).isSome ↔ first.isSome ∨ second.isSome := by
      intro first second
      cases first <;> cases second <;> simp
    rw [ofLabels_append_singleton, labelAt?_graft_leaf, merged, ih]
    by_cases atPlace : path = entry.1
    · simp [atPlace]
    · by_cases before : path <+: entry.1 <;> simp [atPlace, before]

theorem labelAt?_ofLabels {entries : List (List String × α)} {path : List String} {label : α}
    (located : (ofLabels entries).labelAt? path = some label) :
    label = ((entries.filter (·.1 = path)).map (·.2)).foldl Label.combine Label.blank := by
  suffices general : ((ofLabels entries).labelAt? path).getD Label.blank =
      ((entries.filter (·.1 = path)).map (·.2)).foldl Label.combine Label.blank by
    rwa [located, Option.getD_some] at general
  clear located
  induction entries using List.reverseRecOn with
  | nil =>
    rw [ofLabels, List.foldl_nil, blank, labelAt?_leaf]
    split <;> rfl
  | append_singleton entries entry ih =>
    rw [ofLabels_append_singleton, labelAt?_graft_leaf, List.filter_append, List.map_append,
      List.foldl_append, ← ih]
    by_cases atPlace : path = entry.1
    · cases (ofLabels entries).labelAt? path <;>
        simp [atPlace, LawfulLabel.blank_combine]
    · have elsewhere : entry.1 ≠ path := fun equal => atPlace equal.symm
      by_cases before : path <+: entry.1 <;> cases (ofLabels entries).labelAt? path <;>
        simp [atPlace, elsewhere, before, LawfulLabel.combine_blank]

end Trie

end Phrasebook
