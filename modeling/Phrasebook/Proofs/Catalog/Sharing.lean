import Phrasebook.Catalog.Overview
import Phrasebook.Proofs.Sorting
import Phrasebook.Proofs.Text.Dotted
import Phrasebook.Proofs.Trie.Merging

/-!
# Shares of locales

A tree holds a locale if a category does that is the first of its path
(`CategoryTree.holdsBelow_ofCategories`). The root has two spellings, so that two categories may
stand for it. The tree then keeps the one with the empty key, and the other one is shadowed
(`Category.Shadowed`). No other category is left out (`CategoryTree.first?_path_iff`), because the
other keys have paths of their own (`Category.key_eq_of_path_eq`). So a locale that the tree holds
is one that a category holds, where no key is empty (`Overview.holdsBelow_ofLists`).
-/

namespace Phrasebook

instance {α : Type} : LawfulLabel (Option α) where
  blank_combine label := by simp [Label.combine, Label.blank]
  combine_blank label := by simp [Label.combine, Label.blank]
  combine_assoc first second third := by cases first <;> simp [Label.combine]

namespace Category

theorem path_eq_nil_iff {category : Category} (keyed : category.key ≠ "") :
    category.path = [] ↔ category.key = rootKey := by
  unfold path isRoot
  by_cases root : category.key = rootKey <;> simp [root, keyed, Dotted.split_ne_nil]

theorem path_of_ne_root {category : Category} (keyed : category.key ≠ "")
    (notRoot : category.key ≠ rootKey) : category.path = Dotted.split category.key := by
  simp [path, isRoot, keyed, notRoot]

theorem key_eq_of_path_eq {category other : Category} (keyed : category.key ≠ "")
    (otherKeyed : other.key ≠ "") (same : category.path = other.path) :
    category.key = other.key := by
  by_cases root : category.key = rootKey
  · have path : other.path = [] := same ▸ (path_eq_nil_iff keyed).2 root
    rw [root, (path_eq_nil_iff otherKeyed).1 path]
  · have otherRoot : other.key ≠ rootKey := by
      intro otherRoot
      exact root ((path_eq_nil_iff keyed).1 (same ▸ (path_eq_nil_iff otherKeyed).2 otherRoot))
    rw [path_of_ne_root keyed root, path_of_ne_root otherKeyed otherRoot] at same
    exact Dotted.split_injective same

theorem holds_iff {category : Category} {localeId : String} :
    category.holds localeId = true ↔ ∃ phrase ∈ category.phrases.values,
      ∃ rendering, phrase.renderings.get? localeId = some rendering := by
  simp [holds, Dictionary.contains, Option.isSome_iff_exists]

end Category

/-- The category is a root, and another one is the root under the other spelling. -/
def Category.Shadowed (categories : List Category) (category : Category) : Prop :=
  category.key = rootKey ∧ ∃ other ∈ categories, other.key = ""

instance (categories : List Category) (category : Category) :
    Decidable (category.Shadowed categories) :=
  inferInstanceAs (Decidable (category.key = Category.rootKey ∧ _))

namespace CategoryTree

theorem ofCategories_eq (categories : List Category) : ofCategories categories =
    Trie.ofLabels ((categories.mergeSort precedes).map fun category =>
      (category.path, some category)) := by
  simp [ofCategories, Trie.ofLabels, List.foldl_map]

theorem foldl_combine_some (categories : List Category) :
    (categories.map some).foldl Label.combine (Label.blank : Option Category) =
      categories.head? := by
  have kept : ∀ first : Category,
      (categories.map some).foldl Label.combine (some first) = some first := by
    intro first
    induction categories with
    | nil => rfl
    | cons category rest ih => simpa [Label.combine] using ih
  cases categories with
  | nil => rfl
  | cons first rest =>
    rw [List.map_cons, List.foldl_cons, LawfulLabel.blank_combine, List.head?_cons]
    simpa [Label.combine] using kept first

def first? (categories : List Category) (path : List String) : Option Category :=
  ((categories.mergeSort precedes).filter (·.path = path)).head?

theorem mem_of_first? {categories : List Category} {path : List String} {category : Category}
    (first : first? categories path = some category) :
    category ∈ categories ∧ category.path = path := by
  have member := List.mem_of_head? first
  simpa only [List.mem_filter, List.mem_mergeSort, decide_eq_true_eq] using member

theorem labelAt?_ofCategories {categories : List Category} {path : List String}
    {category? : Option Category}
    (located : (ofCategories categories).labelAt? path = some category?) :
    category? = first? categories path := by
  rw [ofCategories_eq] at located
  rw [Trie.labelAt?_ofLabels located, List.filter_map, List.map_map, first?, ← foldl_combine_some]
  rfl

theorem isSome_labelAt?_ofCategories {categories : List Category} {path : List String} :
    ((ofCategories categories).labelAt? path).isSome ↔
      path = [] ∨ ∃ category ∈ categories, path <+: category.path := by
  rw [ofCategories_eq, Trie.isSome_labelAt?_ofLabels]
  simp

theorem holdsBelow_ofCategories (categories : List Category) (localeId : String) :
    (ofCategories categories).holdsBelow localeId = true ↔
      ∃ category, first? categories category.path = some category ∧
        category.holds localeId = true := by
  rw [holdsBelow, Trie.any_iff]
  constructor
  · rintro ⟨path, category?, located, holds⟩
    obtain ⟨category, found, holds⟩ := (Option.any_eq_true _ _).1 holds
    have first := (labelAt?_ofCategories located).symm.trans found
    obtain ⟨-, rfl⟩ := mem_of_first? first
    exact ⟨category, first, holds⟩
  · rintro ⟨category, first, holds⟩
    have isNode : ((ofCategories categories).labelAt? category.path).isSome :=
      isSome_labelAt?_ofCategories.2 (.inr ⟨category, (mem_of_first? first).1, List.prefix_rfl⟩)
    obtain ⟨category?, located⟩ := Option.isSome_iff_exists.1 isNode
    refine ⟨category.path, category?, located, ?_⟩
    rw [labelAt?_ofCategories located, first]
    exact holds

theorem ranked :
    Ranked precedes fun category => toLex (category.path.length, category.key) where
  le_iff category other := by simp [precedes, Prod.Lex.toLex_le_toLex]

variable {categories : List Category}

theorem first?_eq_some_iff (distinct : (categories.map (·.key)).Nodup) {path : List String}
    {category : Category} : first? categories path = some category ↔
      category ∈ categories ∧ category.path = path ∧
        ∀ other ∈ categories, other.path = path → category.key ≤ other.key := by
  have separate : ∀ first ∈ categories.filter (·.path = path),
      ∀ second ∈ categories.filter (·.path = path),
        toLex (first.path.length, first.key) = toLex (second.path.length, second.key) →
          first = second := by
    intro first member second otherMember same
    exact List.inj_on_of_nodup_map distinct (List.mem_filter.1 member).1
      (List.mem_filter.1 otherMember).1 (Prod.mk.inj (toLex_inj.1 same)).2
  rw [first?, ranked.filter_mergeSort, ranked.head?_mergeSort_eq_some_iff separate,
    List.mem_filter, and_assoc, decide_eq_true_eq]
  refine and_congr_right fun _ => and_congr_right fun atPath => ?_
  simp only [List.mem_filter, decide_eq_true_eq, and_imp]
  refine forall₃_congr fun other _ otherAtPath => ?_
  simp [Prod.Lex.toLex_le_toLex, atPath, otherAtPath]

theorem first?_path_iff (distinct : (categories.map (·.key)).Nodup) {category : Category} :
    first? categories category.path = some category ↔
      category ∈ categories ∧ ¬category.Shadowed categories := by
  rw [first?_eq_some_iff distinct]
  refine and_congr_right fun _ => ?_
  rw [eq_self_iff_true, true_and]
  constructor
  · rintro least ⟨root, other, member, blank⟩
    have same : other.path = category.path := by simp [Category.path, Category.isRoot, root, blank]
    have below := least other member same
    rw [root, blank] at below
    exact absurd below (by decide)
  · intro unshadowed other member same
    by_cases blank : category.key = ""
    · rw [blank, ← not_lt, String.lt_iff_toList_lt]
      exact List.not_lt_nil _
    by_cases otherBlank : other.key = ""
    · -- The other category is a root, and so is the given one, under the other spelling.
      have atRoot : category.path = [] := by
        rw [← same]
        simp [Category.path, Category.isRoot, otherBlank]
      exact absurd ⟨(Category.path_eq_nil_iff blank).1 atRoot, other, member, otherBlank⟩
        unshadowed
    · exact (Category.key_eq_of_path_eq blank otherBlank same.symm).le

end CategoryTree

namespace Overview

variable {project : Project} {locales : List Locale} {categories : List Category}

theorem get?_categories_ofLists {key : String} {category : Category}
    (found : (ofLists project locales categories).categories.get? key = some category) :
    category ∈ categories ∧ category.key = key :=
  Dictionary.of_get?_ofList_map found

theorem get?_locales_ofLists {id : String} {locale : Locale}
    (found : (ofLists project locales categories).locales.get? id = some locale) :
    locale ∈ locales ∧ locale.id = id :=
  Dictionary.of_get?_ofList_map found

theorem get?_shares_ofLists {id : String} {share : LocaleShare} :
    (ofLists project locales categories).shares.get? id = some share ↔
      (ofLists project locales categories).locales.get? id = some share.locale ∧
        (ofLists project locales categories).tree.holdsBelow id = true ∧
        share.categories =
          (ofLists project locales categories).categories.values.filter (·.holds id) := by
  obtain ⟨locale, held⟩ := share
  rw [shares, Dictionary.get?_mapValues, Dictionary.get?_filter]
  simp only [Option.map_eq_some_iff, Option.filter_eq_some_iff, LocaleShare.mk.injEq]
  constructor
  · rintro ⟨locale, ⟨found, holds⟩, rfl, rfl⟩
    obtain ⟨-, rfl⟩ := get?_locales_ofLists found
    exact ⟨found, holds, rfl⟩
  · rintro ⟨found, holds, rfl⟩
    obtain ⟨-, rfl⟩ := get?_locales_ofLists found
    exact ⟨locale, ⟨found, holds⟩, rfl, rfl⟩

theorem categories_pairwise :
    (ofLists project locales categories).categories.values.Pairwise (·.key < ·.key) :=
  Dictionary.pairwise_values fun _ _ found => (get?_categories_ofLists found).2

/-- A tree holds a locale if a category does that no other shadows. -/
theorem holdsBelow_iff_unshadowed (localeId : String) :
    (ofLists project locales categories).tree.holdsBelow localeId = true ↔
      ∃ category ∈ (ofLists project locales categories).categories.values,
        ¬category.Shadowed (ofLists project locales categories).categories.values ∧
          category.holds localeId = true := by
  let held := (ofLists project locales categories).categories.values
  have keys : (held.map (·.key)).Nodup :=
    List.pairwise_map.2 (categories_pairwise.imp fun below => ne_of_lt below)
  refine (CategoryTree.holdsBelow_ofCategories held localeId).trans ?_
  simp only [CategoryTree.first?_path_iff keys, and_assoc, held]

theorem holdsBelow_ofLists (keyed : ∀ category ∈ categories, category.key ≠ "")
    (localeId : String) :
    (ofLists project locales categories).tree.holdsBelow localeId = true ↔
      ∃ category ∈ (ofLists project locales categories).categories.values,
        category.holds localeId = true := by
  have unshadowed : ∀ category : Category,
      ¬category.Shadowed (ofLists project locales categories).categories.values := by
    rintro category ⟨-, other, member, blank⟩
    obtain ⟨key, found⟩ := Dictionary.mem_values_iff.1 member
    exact keyed other (get?_categories_ofLists found).1 blank
  rw [holdsBelow_iff_unshadowed]
  simp only [unshadowed, not_false_eq_true, true_and]

end Overview

end Phrasebook
