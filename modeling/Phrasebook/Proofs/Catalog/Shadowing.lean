import Phrasebook.Proofs.Catalog.Sharing

namespace Phrasebook

structure LocaleShare.Complete (categories : List Category) (share : LocaleShare) : Prop where
  members : ∀ category, category ∈ share.categories ↔
    category ∈ categories ∧ category.holds share.locale.id = true
  ordered : share.categories.Pairwise (·.key < ·.key)

namespace Overview

variable {project : Project} {locales : List Locale} {categories : List Category}

structure SharesAll (overview : Overview) (categories : List Category) : Prop where
  contains : ∀ id locale, overview.locales.get? id = some locale →
    (overview.shares.contains id = true ↔ ∃ category ∈ categories, category.holds id = true)
  complete : ∀ id share, overview.shares.get? id = some share →
    overview.locales.get? id = some share.locale ∧ share.Complete categories

theorem shares_contains_iff (distinct : (categories.map (·.key)).Nodup) {id : String}
    {locale : Locale} (found : (ofLists project locales categories).locales.get? id = some locale) :
    (ofLists project locales categories).shares.contains id = true ↔
      ∃ category ∈ categories, ¬category.Shadowed categories ∧ category.holds id = true := by
  have members : ∀ category, category ∈ (ofLists project locales categories).categories.values ↔
      category ∈ categories := fun _ => Dictionary.mem_values_ofList_map_iff distinct
  have located : (ofLists project locales categories).tree.holdsBelow id = true ↔
      ∃ category ∈ categories, ¬category.Shadowed categories ∧ category.holds id = true := by
    simp only [holdsBelow_iff_unshadowed, Category.Shadowed, members]
  rw [Dictionary.contains, Option.isSome_iff_exists, ← located]
  constructor
  · rintro ⟨share, shared⟩
    exact (get?_shares_ofLists.1 shared).2.1
  · intro holds
    exact ⟨⟨locale, _⟩, get?_shares_ofLists.2 ⟨found, holds, rfl⟩⟩

theorem complete_of_get?_shares (distinct : (categories.map (·.key)).Nodup) {id : String}
    {share : LocaleShare}
    (shared : (ofLists project locales categories).shares.get? id = some share) :
    (ofLists project locales categories).locales.get? id = some share.locale ∧
      share.Complete categories := by
  obtain ⟨found, -, filled⟩ := get?_shares_ofLists.1 shared
  obtain ⟨-, rfl⟩ := get?_locales_ofLists found
  refine ⟨found, fun category => ?_, ?_⟩
  · rw [filled, List.mem_filter]
    exact and_congr_left fun _ => Dictionary.mem_values_ofList_map_iff distinct
  · rw [filled]
    exact categories_pairwise.filter _

/-- A locale has a share if a category that no other shadows holds it, and then its share has every
category that holds it. So nothing is lost if and only if the locales of a shadowed category are
held by others that are not. -/
theorem shares_of_unshadowed (distinct : (categories.map (·.key)).Nodup) :
    (∀ id locale, (ofLists project locales categories).locales.get? id = some locale →
      ((ofLists project locales categories).shares.contains id = true ↔
        ∃ category ∈ categories, ¬category.Shadowed categories ∧ category.holds id = true)) ∧
    (∀ id share, (ofLists project locales categories).shares.get? id = some share →
      (ofLists project locales categories).locales.get? id = some share.locale ∧
        share.Complete categories) ∧
    ((ofLists project locales categories).SharesAll categories ↔
      ∀ id locale, (ofLists project locales categories).locales.get? id = some locale →
        ∀ category ∈ categories, category.Shadowed categories → category.holds id = true →
          ∃ other ∈ categories, ¬other.Shadowed categories ∧ other.holds id = true) := by
  refine ⟨fun id locale found => shares_contains_iff distinct found,
    fun id share shared => complete_of_get?_shares distinct shared, ?_⟩
  constructor
  · intro all id locale found category member _ holds
    exact (shares_contains_iff distinct found).1
      ((all.contains id locale found).2 ⟨category, member, holds⟩)
  · intro held
    refine ⟨fun id locale found => ?_,
      fun id share shared => complete_of_get?_shares distinct shared⟩
    rw [shares_contains_iff distinct found]
    constructor
    · rintro ⟨category, member, -, holds⟩
      exact ⟨category, member, holds⟩
    · rintro ⟨category, member, holds⟩
      by_cases shadowed : category.Shadowed categories
      · exact held id locale found category member shadowed holds
      · exact ⟨category, member, shadowed, holds⟩

def rootPair : List Category :=
  let owner : Project := ⟨"demo", "Demo", "ann", "acme"⟩
  let root (key localeId text : String) : Category :=
    let phrase : Phrase :=
      { Phrase.new "open" "open" owner with
        renderings := (∅ : Dictionary Rendering).insert localeId
          { Rendering.new localeId .imported owner with text } }
    { Category.new key key owner with phrases := (∅ : Dictionary Phrase).insert "open" phrase }
  [root "" "en-GB" "Open", root Category.rootKey "nb-NO" "Åpne"]

def rootPairOverview : Overview :=
  ofLists ⟨"demo", "Demo", "ann", "acme"⟩
    [⟨"en-GB", "en", "", "", "en-GB", "en-GB", []⟩, ⟨"nb-NO", "nb", "", "", "nb-NO", "nb-NO", []⟩]
    rootPair

theorem rootPair_distinct : (rootPair.map (·.key)).Nodup := by decide

theorem rootPairOverview_shares :
    rootPairOverview.shares.contains "en-GB" = true ∧
      rootPairOverview.shares.contains "nb-NO" = false := by
  obtain ⟨contains, -⟩ : (∀ id locale, rootPairOverview.locales.get? id = some locale →
      (rootPairOverview.shares.contains id = true ↔ _)) ∧ _ :=
    shares_of_unshadowed rootPair_distinct
  refine ⟨(contains "en-GB" _ rfl).2 (by decide), ?_⟩
  rw [← Bool.not_eq_true, contains "nb-NO" _ rfl]
  decide

/-- The Norwegian locale has no share, although a category holds it. -/
theorem rootPairOverview_not_sharesAll : ¬rootPairOverview.SharesAll rootPair := by
  intro all
  have found : rootPairOverview.locales.get? "nb-NO" = some _ := rfl
  have shared := (all.contains _ _ found).2 (by decide)
  have unshadowed := (shares_contains_iff rootPair_distinct found).1 shared
  exact absurd unshadowed (by decide)

end Overview

end Phrasebook
