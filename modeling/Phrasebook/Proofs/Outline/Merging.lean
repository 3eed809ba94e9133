import Phrasebook.Proofs.Export.Listing

namespace Phrasebook

namespace Outline

def textAt (outline : Outline) (path : List String) : String := (outline.labelAt? path).getD ""

theorem textAt_of_labelAt? {outline : Outline} {path : List String} {text : String}
    (located : outline.labelAt? path = some text) : textAt outline path = text := by
  rw [textAt, located, Option.getD_some]

theorem textAt_merge (first second : Outline) (path : List String) :
    textAt (first.merge second) path =
      if textAt first path = "" then textAt second path else textAt first path := by
  rw [textAt, textAt, textAt, Trie.labelAt?_merge]
  cases first.labelAt? path <;> cases second.labelAt? path <;> simp [Label.combine]

theorem combine_self (text : String) : Label.combine text text = text := by
  simp [Label.combine]

theorem combine_comm {text other : String} (agree : text ≠ "" → other ≠ "" → text = other) :
    Label.combine text other = Label.combine other text := by
  by_cases blank : text = ""
  · by_cases otherBlank : other = "" <;> simp [Label.combine, blank, otherBlank]
  · by_cases otherBlank : other = ""
    · simp [Label.combine, blank, otherBlank]
    · rw [agree blank otherBlank]

def Brings (piece : List String × Outline) (path : List String) (text : String) : Prop :=
  text ≠ "" ∧ ∃ rest, path = piece.1 ++ rest ∧ textAt piece.2 rest = text

def Compatible (pieces : List (List String × Outline)) : Prop :=
  ∀ piece ∈ pieces, ∀ other ∈ pieces, ∀ path text otherText,
    Brings piece path text → Brings other path otherText → text = otherText

theorem brings_of_labelAt?_under {piece : List String × Outline} {path : List String}
    {text : String} (located : (piece.2.under piece.1).labelAt? path = some text)
    (filled : text ≠ "") : Brings piece path text := by
  obtain blank | ⟨rest, split, inside⟩ := Trie.of_labelAt?_under located
  · exact absurd blank filled
  · exact ⟨filled, rest, split, textAt_of_labelAt? inside⟩

theorem Compatible.under_merge_comm {pieces : List (List String × Outline)}
    (compatible : Compatible pieces) {piece other : List String × Outline} (member : piece ∈ pieces)
    (otherMember : other ∈ pieces) : (piece.2.under piece.1).merge (other.2.under other.1) =
      (other.2.under other.1).merge (piece.2.under piece.1) := by
  refine Trie.merge_comm_of_labels fun path text otherText here there => combine_comm ?_
  intro filled otherFilled
  exact compatible piece member other otherMember path text otherText
    (brings_of_labelAt?_under here filled) (brings_of_labelAt?_under there otherFilled)

/-- Merging is associative, idempotent and has the blank outline as its unit, it keeps the first
text for a path, and grafting is merging, in any order if the pieces are compatible. -/
theorem merging_laws :
    (∀ first second third : Outline,
      (first.merge second).merge third = first.merge (second.merge third)) ∧
    (∀ outline : Outline, outline.merge outline = outline) ∧
    (∀ outline : Outline, Trie.blank.merge outline = outline ∧
      outline.merge Trie.blank = outline) ∧
    (∀ (first second : Outline) (path : List String), textAt (first.merge second) path =
      if textAt first path = "" then textAt second path else textAt first path) ∧
    (∀ (outline addition : Outline) (path : List String),
      outline.graft path addition = outline.merge (addition.under path)) ∧
    ∀ (outline : Outline) (pieces others : List (List String × Outline)), Compatible pieces →
      pieces.Perm others → outline.graftAll pieces = outline.graftAll others := by
  refine ⟨Trie.merge_assoc, Trie.merge_self combine_self,
    fun outline => ⟨Trie.blank_merge outline, Trie.merge_blank outline⟩, textAt_merge,
    fun outline addition path => Trie.graft_eq_merge outline path addition, ?_⟩
  intro outline pieces others compatible perm
  exact Trie.graftAll_perm perm
    (fun _ member _ otherMember => compatible.under_merge_comm member otherMember) outline

theorem brings_leaf_iff {place path : List String} {text other : String} :
    Brings (place, Trie.leaf text) path other ↔ other ≠ "" ∧ path = place ∧ text = other := by
  refine and_congr_right fun filled => ?_
  constructor
  · rintro ⟨rest, rfl, brought⟩
    rw [textAt, Trie.labelAt?_leaf] at brought
    by_cases here : rest = []
    · simpa [here] using brought
    · simp only [here, if_false, Option.getD_none] at brought
      exact absurd brought.symm filled
  · rintro ⟨rfl, rfl⟩
    exact ⟨[], by simp, textAt_of_labelAt? rfl⟩

def menuPieces : List (List String × Outline) :=
  [(["en"], Trie.leaf "Start"), (["en", "menu"], Trie.leaf "Menu"),
    (["en", "menu"], Trie.leaf "")]

theorem menuPieces_merging : Compatible menuPieces ∧
    Trie.blank.graftAll menuPieces = Trie.blank.graftAll menuPieces.reverse := by
  have compatible : Compatible menuPieces := by
    intro piece member other otherMember path text otherText brings otherBrings
    simp only [menuPieces, List.mem_cons, List.not_mem_nil, or_false] at member otherMember
    rcases member with rfl | rfl | rfl <;> rcases otherMember with rfl | rfl | rfl <;>
      rw [brings_leaf_iff] at brings otherBrings <;> grind
  obtain ⟨-, -, -, -, -, inAnyOrder⟩ := merging_laws
  exact ⟨compatible, inAnyOrder Trie.blank _ _ compatible (List.reverse_perm _).symm⟩

end Outline

end Phrasebook
