import Phrasebook.Proofs.Titling.Targets
import Phrasebook.Proofs.Titling.Titles

/-!
# What descriptions leave out

A title asks for a change of every category with its key and of every phrase at its position that
has another title (`Overview.Answers`). Phrases can share a position, since a dot in the key of a
phrase reads like one between the segments of its category. A description compares the title with
the last of them only. It gives everything that is asked for exactly if the others, which are
hidden (`Overview.hidden`), have the title already (`Overview.describe_answers_iff`).
-/

namespace Phrasebook

namespace Overview

def Covers (overview : Overview) (entry : String × String) (changes : List TitleChange) : Prop :=
  ∃ categories phrases, changes = categories ++ phrases ∧
    categories.Perm ((overview.categoriesAt entry.1).filterMap (·.change? entry.2)) ∧
    phrases.Perm ((overview.phrasesAt entry.1).filterMap (·.change? entry.2))

def Answers (overview : Overview) (document : Json) (changes : List TitleChange) : Prop :=
  ∃ titles, document.HasTitles titles ∧
    ∃ blocks, List.Forall₂ overview.Covers titles.entries blocks ∧ changes = blocks.flatten

/-- The targets at a position that a title for it is not compared with. -/
def hidden (overview : Overview) (key : String) : List TitleTarget :=
  (overview.categoriesAt key).dropLast ++ (overview.phrasesAt key).dropLast

def missedAt (overview : Overview) (entry : String × String) : List TitleChange :=
  (overview.hidden entry.1).filterMap (·.change? entry.2)

variable {overview : Overview} {document : Json} {changes : List TitleChange}

/-! ## One title -/

theorem filterMap_eq_dropLast_append {α β : Type} (image : α → Option β) (values : List α) :
    values.filterMap image =
      values.dropLast.filterMap image ++ values.getLast?.toList.filterMap image := by
  rcases values.eq_nil_or_concat with rfl | ⟨front, last, rfl⟩ <;> simp

theorem missedAt_eq_nil_iff {entry : String × String} : overview.missedAt entry = [] ↔
    ∀ target ∈ overview.hidden entry.1, target.title = entry.2 := by
  simp only [missedAt, List.filterMap_eq_nil_iff, TitleTarget.change?, ite_eq_left_iff,
    reduceCtorEq, imp_false, not_not]

theorem Covers.length_eq {entry : String × String} {block : List TitleChange}
    (covers : overview.Covers entry block) :
    block.length = (overview.changesAt entry).length + (overview.missedAt entry).length := by
  obtain ⟨categories, phrases, rfl, ofCategories, ofPhrases⟩ := covers
  rw [List.length_append, ofCategories.length_eq, ofPhrases.length_eq,
    filterMap_eq_dropLast_append _ (overview.categoriesAt entry.1),
    filterMap_eq_dropLast_append _ (overview.phrasesAt entry.1)]
  simp only [changesAt, missedAt, reached, hidden, List.filterMap_append, List.length_append]
  omega

theorem covers_changesAt {entry : String × String} (nothing : overview.missedAt entry = []) :
    overview.Covers entry (overview.changesAt entry) := by
  rw [missedAt, hidden, List.filterMap_append, List.append_eq_nil_iff] at nothing
  refine ⟨_, _, List.filterMap_append, ?_, ?_⟩
  · rw [filterMap_eq_dropLast_append _ (overview.categoriesAt entry.1), nothing.1, List.nil_append]
  · rw [filterMap_eq_dropLast_append _ (overview.phrasesAt entry.1), nothing.2, List.nil_append]

/-! ## All titles -/

theorem length_flatten_of_covers {titles : List (String × String)}
    {blocks : List (List TitleChange)} (covered : List.Forall₂ overview.Covers titles blocks) :
    blocks.flatten.length = (titles.flatMap overview.changesAt).length +
      (titles.flatMap overview.missedAt).length := by
  induction covered with
  | nil => rfl
  | cons covers _ ih =>
    simp only [List.flatten_cons, List.flatMap_cons, List.length_append, ih, covers.length_eq]
    omega

theorem answers_iff {titles : Dictionary String} (given : document.HasTitles titles) :
    overview.Answers document (titles.entries.flatMap overview.changesAt) ↔
      ∀ entry ∈ titles.entries, overview.missedAt entry = [] := by
  constructor
  · rintro ⟨others, otherGiven, blocks, covered, same⟩
    obtain rfl : others = titles := Dictionary.ext_get? fun key =>
      Option.ext fun title => (otherGiven key title).trans (given key title).symm
    -- The blocks are as long as what is listed and what is left out together.
    have length := length_flatten_of_covers covered
    rw [← same] at length
    have nothing : others.entries.flatMap overview.missedAt = [] :=
      List.eq_nil_of_length_eq_zero (by omega)
    exact List.flatMap_eq_nil_iff.1 nothing
  · intro nothing
    refine ⟨titles, given, titles.entries.map overview.changesAt, ?_, rfl⟩
    rw [List.forall₂_map_right_iff, List.forall₂_same]
    exact fun entry inside => covers_changesAt (nothing entry inside)

/-- A description has the changes of the targets that its titles reach, and these are all that the
titles ask for exactly if every hidden target has its title already. -/
theorem describe_answers_iff (ordered : document.Ordered)
    (described : overview.describe document = .ok changes) :
    (∃ titles, document.HasTitles titles ∧ changes = titles.entries.flatMap overview.changesAt) ∧
    (overview.Answers document changes ↔ ∀ key title, document.Gives key title →
      ∀ target ∈ overview.hidden key, target.title = title) := by
  obtain ⟨titles, collected, -, rfl⟩ := describe_eq_ok_iff.1 described
  have given := ordered.hasTitles collected
  refine ⟨⟨titles, given, rfl⟩, ?_⟩
  rw [answers_iff given]
  simp only [missedAt_eq_nil_iff, Prod.forall, Dictionary.mem_entries_iff, given _ _]

def submitTitles : Json := .object [("form.submit", .string "Submit it")]

theorem submitTitles_describe : formOverview.describe submitTitles =
    .ok [.category "form.submit" "form.submit" "Submit it",
      .phrase "form" "submit" "submit" "Submit it"] := by
  have collected : titlesOf submitTitles = _ :=
    @Json.titlesOf_of_leaf _ ["form.submit"] "Submit it" rfl
  rw [describe_eq collected]
  rfl

theorem submitTitles_describe_answers : formOverview.Answers submitTitles
    [.category "form.submit" "form.submit" "Submit it",
      .phrase "form" "submit" "submit" "Submit it"] := by
  have ordered : submitTitles.Ordered := .object (by decide) (by simpa using .leaf rfl)
  have flat : submitTitles.leaves Json.defaultDepth = .ok [["form.submit", "Submit it"]] := rfl
  refine (describe_answers_iff ordered submitTitles_describe).2.2 ?_
  rintro key title ⟨path, found, rfl⟩ target hidden
  have inside := (ordered.mem_leaves_iff flat).2 ⟨path, title, rfl, found⟩
  obtain ⟨rfl, -⟩ := List.append_inj' (List.mem_singleton.1 inside : _ = ["form.submit"] ++ _) rfl
  have empty : formOverview.hidden "form.submit" = [] := by decide
  simp [empty] at hidden

def labelTitles : Json := .object [
  ("form", .object [("submit", .object [("label", .string "Send")])])]

theorem labelTitles_not_answers :
    formOverview.describe labelTitles = .ok [.phrase "form.submit" "label" "label" "Send"] ∧
      ¬formOverview.Answers labelTitles [.phrase "form.submit" "label" "label" "Send"] := by
  have collected : titlesOf labelTitles = _ :=
    @Json.titlesOf_of_leaf _ ["form", "submit", "label"] "Send" rfl
  have ordered : labelTitles.Ordered := by
    refine .object (by decide) (List.forall_mem_singleton.2 ?_)
    refine .object (by decide) (List.forall_mem_singleton.2 ?_)
    exact .object (by decide) (by simpa using .leaf rfl)
  constructor
  · rw [describe_eq collected]
    rfl
  · intro answers
    have nothing := (answers_iff (ordered.hasTitles collected)).1 answers
      ("form.submit.label", "Send") (by decide)
    exact absurd nothing (by decide)

end Overview

end Phrasebook
