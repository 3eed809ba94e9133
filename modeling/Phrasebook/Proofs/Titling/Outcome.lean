import Phrasebook.Proofs.Titling.Targets
import Phrasebook.Proofs.Titling.Titles

namespace Phrasebook

namespace Overview

def Knows (overview : Overview) (key : String) : Prop :=
  (∃ category ∈ overview.categories.values, category.key = key) ∨
    ∃ category ∈ overview.categories.values, ∃ phrase ∈ category.phrases.values,
      Dotted.join (category.path ++ [phrase.key]) = key

structure FirstUnknown (overview : Overview) (document : Json) (key : String) : Prop where
  given : ∃ title, document.Gives key title
  unknown : ¬overview.Knows key
  least : ∀ other title, document.Gives other title → ¬overview.Knows other → key ≤ other

variable {overview : Overview} {document : Json} {members : List (String × Json)}

/-! ## Keys that are known -/

theorem categoriesAt_ne_nil_iff {key : String} : overview.categoriesAt key ≠ [] ↔
    ∃ category ∈ overview.categories.values, category.key = key := by
  simp only [categoriesAt, titledCategories, ne_eq, List.filter_eq_nil_iff, List.forall_mem_map,
    decide_eq_true_eq, not_forall, not_not, exists_prop]
  rfl

theorem phrasesAt_ne_nil_iff {key : String} : overview.phrasesAt key ≠ [] ↔
    ∃ category ∈ overview.categories.values, ∃ phrase ∈ category.phrases.values,
      Dotted.join (category.path ++ [phrase.key]) = key := by
  simp only [phrasesAt, titledPhrases, Category.phraseTargets, ne_eq, List.filter_eq_nil_iff,
    List.forall_mem_flatMap, List.forall_mem_map, decide_eq_true_eq, not_forall, not_not,
    exists_prop, Category.path_eq]
  rfl

theorem reached_ne_nil_iff {key : String} : overview.reached key ≠ [] ↔ overview.Knows key := by
  rw [Knows, ← categoriesAt_ne_nil_iff, ← phrasesAt_ne_nil_iff, reached, ne_eq,
    List.append_eq_nil_iff, not_and_or]
  simp only [Option.toList_eq_nil_iff, List.getLast?_eq_none_iff, ne_eq]

/-! ## Stages -/

theorem describe_of_leaves_eq_error {fault : LeafFault}
    (failed : (Json.object members).leaves Json.defaultDepth = .error fault) :
    overview.describe (.object members) = .error (.leaves fault) := by
  refine describe_eq_error ?_
  rw [titlesOf, failed]
  rfl

theorem describe_cases {titles : Dictionary String} (collected : titlesOf document = .ok titles)
    (gives : document.HasTitles titles) :
    ((∀ key title, document.Gives key title → overview.Knows key) ∧
      ∃ changes, overview.describe document = .ok changes) ∨
    ∃ key, overview.FirstUnknown document key ∧
      overview.describe document = .error (overview.unknownKey key) := by
  have given : ∀ entry ∈ titles.entries, document.Gives entry.1 entry.2 := fun entry inside =>
    (gives _ _).1 (Dictionary.mem_entries_iff.1 inside)
  have collects : ∀ key title, document.Gives key title → (key, title) ∈ titles.entries :=
    fun key title giving => Dictionary.mem_entries_iff.2 ((gives _ _).2 giving)
  have unknown : ∀ entry : String × String,
      (overview.reached entry.1).isEmpty = true ↔ ¬overview.Knows entry.1 := fun entry => by
    rw [List.isEmpty_iff, ← reached_ne_nil_iff, not_not]
  rw [describe_eq collected]
  cases found : titles.entries.find? fun entry => (overview.reached entry.1).isEmpty with
  | none =>
    refine .inl ⟨fun key title giving => ?_, _, rfl⟩
    have known := List.find?_eq_none.1 found _ (collects key title giving)
    rwa [unknown, not_not] at known
  | some entry =>
    -- The entries are in key order, so that the first of them that is unknown has the least key.
    obtain ⟨inside, strange, least⟩ := titles.ascending.find?_eq_some_iff.1 found
    refine .inr ⟨entry.1, ⟨⟨entry.2, given entry inside⟩, (unknown entry).1 strange, ?_⟩, rfl⟩
    intro other title giving alsoStrange
    have strangeEntry := (unknown (other, title)).2 alsoStrange
    exact least (other, title) (collects other title giving) strangeEntry

/-- A document whose leaves fail is refused for their fault, and one where two paths make up one
key is refused for such a key. Any other is refused exactly if there is a key that the project does
not know, for the least of them, and else described. -/
theorem describe_outcome (isObject : document = .object members) (ordered : document.Ordered) :
    (∀ fault, document.leaves Json.defaultDepth = .error fault →
      overview.describe document = .error (.leaves fault)) ∧
    ∀ leaves, document.leaves Json.defaultDepth = .ok leaves →
      ((∃ key previous title,
        overview.describe document = .error (.duplicateKey key previous title)) ↔
          document.Ambiguous) ∧
      (∀ key previous title,
        overview.describe document = .error (.duplicateKey key previous title) →
          document.GivesTwice key previous title) ∧
      (¬document.Ambiguous →
        ((∃ key, overview.describe document = .error (overview.unknownKey key)) ↔
          ∃ key title, document.Gives key title ∧ ¬overview.Knows key) ∧
        (∀ fault, overview.describe document = .error fault →
          ∃ key, overview.FirstUnknown document key ∧ fault = overview.unknownKey key) ∧
        ((∃ changes, overview.describe document = .ok changes) ↔
          ∀ key title, document.Gives key title → overview.Knows key)) := by
  subst isObject
  refine ⟨fun fault failed => describe_of_leaves_eq_error failed, fun leaves flat => ?_⟩
  rcases ordered.titlesOf_cases flat with
    ⟨unambiguous, titles, collected, gives⟩ | ⟨key, previous, title, twice, failed⟩
  · rcases describe_cases collected gives with ⟨known, changes, described⟩ | ⟨key, first, refused⟩
    · rw [described]
      refine ⟨iff_of_false ?_ unambiguous, ?_, fun _ => ⟨iff_of_false ?_ ?_, ?_, ?_⟩⟩
      · rintro ⟨_, _, _, ⟨⟩⟩
      · rintro _ _ _ ⟨⟩
      · rintro ⟨_, ⟨⟩⟩
      · exact fun ⟨key, title, given, unknown⟩ => unknown (known key title given)
      · rintro _ ⟨⟩
      · exact iff_of_true ⟨changes, rfl⟩ known
    · rw [refused]
      obtain ⟨title, given⟩ := first.given
      refine ⟨iff_of_false ?_ unambiguous, ?_, fun _ => ⟨iff_of_true ⟨key, rfl⟩ ?_, ?_, ?_⟩⟩
      · rintro ⟨_, _, _, ⟨⟩⟩
      · rintro _ _ _ ⟨⟩
      · exact ⟨key, title, given, first.unknown⟩
      · rintro _ ⟨⟩
        exact ⟨key, first, rfl⟩
      · refine iff_of_false ?_ fun known => first.unknown (known key title given)
        rintro ⟨_, ⟨⟩⟩
  · rw [describe_eq_error failed]
    refine ⟨iff_of_true ⟨key, previous, title, rfl⟩ twice.ambiguous, ?_, ?_⟩
    · rintro _ _ _ ⟨⟩
      exact twice
    · exact fun unambiguous => absurd twice.ambiguous unambiguous

def clashingTitles : Json := .object [
  ("form", .object [("submit", .string "Send")]), ("form.submit", .string "Submit")]

def strayTitles : Json := .object [
  ("form", .object [("abort", .string "Stop"), ("submit", .string "Send"),
    ("title", .string "Form")])]

theorem strayTitles_describe :
    formOverview.describe strayTitles = .error (formOverview.unknownKey "form.abort") := by
  have flat : strayTitles.leaves Json.defaultDepth =
      .ok [["form", "abort", "Stop"], ["form", "submit", "Send"], ["form", "title", "Form"]] := rfl
  have sorted : LeafPath.sort
      [["form", "abort", "Stop"], ["form", "submit", "Send"], ["form", "title", "Form"]] =
        [["form", "abort", "Stop"], ["form", "submit", "Send"], ["form", "title", "Form"]] := by
    simp [LeafPath.sort, List.mergeSort, LeafPath.precedes, Dotted.join]
  have collected : titlesOf strayTitles = .ok (Dictionary.ofList
      [("form.abort", "Stop"), ("form.submit", "Send"), ("form.title", "Form")]) := by
    rw [strayTitles, Json.titlesOf_object flat, sorted]
    rfl
  rw [describe_eq collected]
  rfl

theorem strayTitles_describe_outcome :
    (∃ key previous title,
      formOverview.describe clashingTitles = .error (.duplicateKey key previous title)) ∧
    formOverview.FirstUnknown strayTitles "form.abort" := by
  have clashing : clashingTitles.Ordered := by
    refine .object (by decide) ?_
    simp only [List.forall_mem_cons]
    exact ⟨.object (by decide) (by simpa using .leaf rfl), .leaf rfl, by simp⟩
  have straying : strayTitles.Ordered := by
    refine .object (by decide) ?_
    simp only [List.forall_mem_singleton]
    refine .object (by decide) ?_
    simp only [List.forall_mem_cons]
    exact ⟨.leaf rfl, .leaf rfl, .leaf rfl, by simp⟩
  constructor
  · obtain ⟨-, staged⟩ := @describe_outcome formOverview clashingTitles _ rfl clashing
    refine (staged _ rfl).1.2 ⟨["form", "submit"], ["form.submit"], by decide, ?_⟩
    decide
  · obtain ⟨-, staged⟩ := @describe_outcome formOverview strayTitles _ rfl straying
    obtain ⟨duplicate, -, unknown⟩ := staged _ rfl
    have unambiguous : ¬strayTitles.Ambiguous := by
      rw [← duplicate, strayTitles_describe]
      rintro ⟨_, _, _, ⟨⟩⟩
    obtain ⟨-, least, -⟩ := unknown unambiguous
    obtain ⟨key, first, same⟩ := least _ strayTitles_describe
    obtain ⟨rfl, -⟩ := TitleFault.unknownKey.inj same
    exact first

end Overview

end Phrasebook
