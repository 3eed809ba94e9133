import Phrasebook.Proofs.Export.Condensed
import Phrasebook.Proofs.Export.Listing

namespace Phrasebook

theorem writeBranches_eq (children : List (String × Branch String)) :
    writeBranches children = Json.prunedMembers writeBranch children := by
  induction children with
  | nil => rfl
  | cons child rest ih =>
    obtain ⟨key, branch⟩ := child
    rw [writeBranches, ih, Json.prunedMembers, Json.prunedMembers, List.map_cons, List.filter_cons]
    cases (writeBranch branch).isVoid <;> rfl

namespace Branch

theorem Ordered.write_void_or_filled {branch : Branch String} (ordered : branch.Ordered) :
    (writeBranch branch).isVoid = true ∨ (writeBranch branch).Filled := by
  induction branch using inductOn with
  | node text children ih =>
    rw [writeBranch]
    split
    · rename_i filled
      exact .inr (.string filled)
    · split
      · exact .inl rfl
      · rw [writeBranches_eq]
        exact Json.prunedMembers_void_or_filled ordered.ascending_children
          fun child member => ih child member (ordered.child member)

theorem filledAt?_write_nil (text : String) (children : List (String × Branch String)) :
    (writeBranch (.node text children)).filledAt? [] = if text = "" then none else some text := by
  rw [writeBranch]
  by_cases blank : text = ""
  · rw [if_neg (not_not.2 blank), if_pos blank]
    split <;> rfl
  · rw [if_pos blank, if_neg blank]
    exact Json.filledAt?_eq_some_iff.2 ⟨rfl, blank⟩

theorem filledAt?_write_cons {text : String} {children : List (String × Branch String)}
    (ascending : Entries.Ascending children) (key : String) (path : List String) :
    (writeBranch (.node text children)).filledAt? (key :: path) =
      if text = "" then
        (children.lookup key).bind fun branch => (writeBranch branch).filledAt? path
      else none := by
  rw [writeBranch]
  by_cases blank : text = ""
  · rw [if_neg (not_not.2 blank), if_pos blank]
    split
    · rename_i childless
      obtain rfl := List.isEmpty_iff.1 childless
      rfl
    · rw [writeBranches_eq, Json.filledAt?_prunedMembers writeBranch ascending]
  · rw [if_pos blank, if_neg blank]
    rfl

theorem Ordered.filledAt?_write {branch : Branch String} (ordered : branch.Ordered)
    {path : List String} {text : String} :
    (writeBranch branch).filledAt? path = some text ↔
      branch.labelAt? path = some text ∧ text ≠ "" ∧
        ∀ front, front <+: path → front ≠ path → branch.labelAt? front = some "" := by
  induction path generalizing branch with
  | nil =>
    obtain ⟨label, children⟩ := branch
    have nothingAbove : ∀ front : List String, front <+: [] → front ≠ [] →
        (Branch.node label children).labelAt? front = some "" :=
      fun front before short => absurd (List.prefix_nil.1 before) short
    rw [filledAt?_write_nil, labelAt?_nil, Branch.label]
    by_cases blank : label = ""
    · rw [if_pos blank]
      constructor
      · intro nothing
        cases nothing
      · rintro ⟨same, filled, -⟩
        obtain rfl := Option.some.inj same
        exact absurd blank filled
    · rw [if_neg blank]
      constructor
      · intro same
        obtain rfl := Option.some.inj same
        exact ⟨rfl, blank, nothingAbove⟩
      · rintro ⟨same, -⟩
        exact same
  | cons key path ih =>
    obtain ⟨label, children⟩ := branch
    have ascending : Entries.Ascending children := ordered.ascending_children
    rw [filledAt?_write_cons ascending, labelAt?_cons]
    by_cases blank : label = ""
    · subst blank
      rw [if_pos rfl, Option.bind_eq_some_iff, Option.bind_eq_some_iff]
      constructor
      · rintro ⟨child, found, shown⟩
        have member := ascending.lookup_eq_some_iff.1 found
        obtain ⟨located, filled, above⟩ := (ih (ordered.child member)).1 shown
        refine ⟨⟨child, found, located⟩, filled, fun front before short => ?_⟩
        cases front with
        | nil => rfl
        | cons head front =>
          obtain ⟨rfl, inner⟩ := List.cons_prefix_cons.1 before
          rw [labelAt?_cons, Option.bind_eq_some_iff]
          exact ⟨child, found, above front inner fun same => short (by rw [same])⟩
      · rintro ⟨⟨child, found, located⟩, filled, above⟩
        have member := ascending.lookup_eq_some_iff.1 found
        refine ⟨child, found, (ih (ordered.child member)).2 ⟨located, filled, ?_⟩⟩
        intro front before short
        have blank := above (key :: front) (List.cons_prefix_cons.2 ⟨rfl, before⟩)
          fun same => short (List.cons.inj same).2
        rw [labelAt?_cons, found] at blank
        exact blank
    · rw [if_neg blank]
      constructor
      · intro nothing
        cases nothing
      · rintro ⟨-, -, above⟩
        have atTop := above [] List.nil_prefix (List.cons_ne_nil key path).symm
        exact absurd (Option.some.inj atTop) blank

end Branch

theorem Outline.document_eq_ok {outline : Outline} (textless : outline.label = "") :
    ∃ document, outline.document = .ok document ∧ document.Pruned ∧
      ∀ path, document.filledAt? path = (Outline.write outline).filledAt? path := by
  have written : (Outline.write outline).isVoid = true ∨ (Outline.write outline).Filled :=
    outline.ordered.write_void_or_filled
  have atTop : (Outline.write outline).filledAt? [] = none := by
    obtain ⟨⟨label, children⟩, ordered⟩ := outline
    exact (Branch.filledAt?_write_nil label children).trans (if_pos textless)
  unfold Outline.document
  generalize Outline.write outline = value at written atTop
  rcases written with void | filled
  · refine ⟨.object [], ?_, .object .nil (by simp), fun path => ?_⟩
    · cases value with
      | string text =>
        obtain rfl : text = "" := of_decide_eq_true void
        rfl
      | object members =>
        obtain rfl := List.isEmpty_iff.1 void
        rfl
      | _ => cases void
    · rw [Json.filledAt?_of_isVoid void, Json.filledAt?_of_isVoid rfl]
  · cases filled with
    | @string text filled =>
      cases atTop.symm.trans (Json.filledAt?_eq_some_iff.2 ⟨rfl, filled⟩)
    | @object members ascending nonempty below =>
      exact ⟨.object members, rfl, .object ascending below, fun _ => rfl⟩

namespace Listing

/-- A listing shows a text at a path if it is the text of the path, is not empty, and no text stands
on the way to it. -/
def Shows (listing : Listing) (path : List String) (text : String) : Prop :=
  listing.textAt path = text ∧ text ≠ "" ∧
    ∀ front, front <+: path → front ≠ path → listing.textAt front = ""

theorem labelAt?_ofLabels {listing : Listing} {path : List String} {text : String} :
    (Trie.ofLabels listing).labelAt? path = some text ↔
      listing.textAt path = text ∧ (path = [] ∨ ∃ entry ∈ listing, path <+: entry.1) := by
  rw [← Trie.isSome_labelAt?_ofLabels]
  cases located : (Trie.ofLabels listing).labelAt? path with
  | none => simp
  | some label =>
    have shown := Trie.labelAt?_ofLabels located
    rw [foldl_combine_eq_textAt] at shown
    simp [shown]

theorem filledAt?_write {listing : Listing} {path : List String} {text : String} :
    (Outline.write (Trie.ofLabels listing)).filledAt? path = some text ↔
      listing.Shows path text := by
  have written : (Outline.write (Trie.ofLabels listing)).filledAt? path = some text ↔
      (Trie.ofLabels listing).labelAt? path = some text ∧ text ≠ "" ∧ ∀ front, front <+: path →
        front ≠ path → (Trie.ofLabels listing).labelAt? front = some "" :=
    (Trie.ofLabels listing).ordered.filledAt?_write
  rw [written]
  constructor
  · rintro ⟨located, filled, above⟩
    exact ⟨(labelAt?_ofLabels.1 located).1, filled, fun front before short =>
      (labelAt?_ofLabels.1 (above front before short)).1⟩
  · rintro ⟨same, filled, above⟩
    have listed := mem_of_textAt (same.symm ▸ filled : listing.textAt path ≠ "")
    refine ⟨labelAt?_ofLabels.2 ⟨same, .inr ⟨_, listed, List.prefix_rfl⟩⟩, filled, ?_⟩
    intro front before short
    exact labelAt?_ofLabels.2 ⟨above front before short, .inr ⟨_, listed, before⟩⟩

theorem document_eq_ok {listing : Listing} (rooted : listing.textAt [] = "") :
    ∃ document, Outline.document (Trie.ofLabels listing) = .ok document ∧ document.Pruned ∧
      ∀ path text, document.filledAt? path = some text ↔ listing.Shows path text := by
  have textless : (Trie.ofLabels listing).label = "" :=
    (labelAt?_ofLabels.1 (rfl : (Trie.ofLabels listing).labelAt? [] = _)).1.symm.trans rooted
  obtain ⟨document, made, pruned, same⟩ := Outline.document_eq_ok textless
  refine ⟨document, made, pruned, fun path text => ?_⟩
  rw [same, filledAt?_write]

theorem shows_iff_of_mem_iff {document : Json} {listing : Listing}
    (listed : ∀ path text, text ≠ "" →
      ((path, text) ∈ listing ↔ document.textAt? path = some text))
    (path : List String) (text : String) :
    listing.Shows path text ↔ document.filledAt? path = some text := by
  rw [Json.filledAt?_eq_some_iff]
  constructor
  · rintro ⟨same, filled, -⟩
    have shown := mem_of_textAt (same.symm ▸ filled : listing.textAt path ≠ "")
    rw [same] at shown
    exact ⟨(listed path text filled).1 shown, filled⟩
  · rintro ⟨leaf, filled⟩
    have shown := textAt_ne_empty ((listed path text filled).2 leaf) filled
    have same := (listed path _ shown).1 (mem_of_textAt shown)
    refine ⟨Option.some.inj (same.symm.trans leaf), filled, fun front before short => ?_⟩
    -- A text on the way would be a leaf with something below it.
    by_contra above
    obtain ⟨rest, rfl⟩ := before
    have leafAbove := (listed front _ above).1 (mem_of_textAt above)
    have below : rest ≠ [] := fun none => short (by rw [none, List.append_nil])
    rw [Json.textAt?_below_leaf leafAbove below] at leaf
    cases leaf

end Listing

end Phrasebook
