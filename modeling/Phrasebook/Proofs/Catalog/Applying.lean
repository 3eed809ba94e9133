import Phrasebook.Proofs.Catalog.Merging

namespace Phrasebook

theorem ncard_created_again {ι α : Type} (combine : α → α → α) (former incoming : ι → Option α) :
    {place | ∃ new, incoming place = some new ∧
      Option.merge combine (former place) (incoming place) = none}.ncard = 0 := by
  convert Set.ncard_empty ι
  refine Set.eq_empty_of_forall_notMem ?_
  rintro place ⟨new, found, absent⟩
  simp [found] at absent

namespace Catalog

theorem same_of_renderingAt?_merge {former incoming : Dictionary Category}
    {place : (String × String) × String} {new after : Rendering}
    (found : renderingAt? incoming place = some new)
    (merged : renderingAt? (merge former incoming) place = some after) :
    after.text = new.text ∧ after.contexts = new.contexts := by
  rw [renderingAt?_merge, found] at merged
  cases atFormer : renderingAt? former place with
  | none =>
    rw [atFormer, Option.merge_none_left] at merged
    obtain rfl := Option.some.inj merged
    exact ⟨rfl, rfl⟩
  | some old =>
    rw [atFormer, Option.merge_some_some] at merged
    obtain rfl := Option.some.inj merged
    exact ⟨Rendering.text_absorb old new, Rendering.contexts_absorb old new⟩

theorem ncard_updated_again (former incoming : Dictionary Category) :
    {place | ∃ new, renderingAt? incoming place = some new ∧
      ∃ old, renderingAt? (merge former incoming) place = some old ∧
        (old.text ≠ new.text ∨ old.contexts ≠ new.contexts)}.ncard = 0 := by
  convert Set.ncard_empty ((String × String) × String)
  refine Set.eq_empty_of_forall_notMem ?_
  rintro place ⟨new, found, old, merged, differs⟩
  obtain ⟨text, contexts⟩ := same_of_renderingAt?_merge found merged
  exact differs.elim (· text) (· contexts)

end Catalog

namespace Store

open Catalog

theorem apply_again (store : Store) (made : Import) :
    ((store.apply made.categories).2.apply made.categories).2 =
      (store.apply made.categories).2 ∧
    ((store.apply made.categories).2.apply made.categories).1 =
      { Summary.zero with
        renderingsUnchanged := {place | ∃ rendering,
          renderingAt? made.categories place = some rendering}.ncard } := by
  constructor
  · exact congrArg (fun categories => { store with categories })
      (merge_merge_self store.categories made.categories)
  · have counts := (store.apply made.categories).2.counts_apply made.categories
    have applied : (store.apply made.categories).2.categories =
        merge store.categories made.categories := rfl
    rw [applied] at counts
    have noCategory := counts.categoriesCreated
    have noPhrase := counts.phrasesCreated
    have noRendering := counts.renderingsCreated
    have noUpdate := counts.renderingsUpdated.trans
      (ncard_updated_again store.categories made.categories)
    simp only [get?_merge, phraseAt?_merge, renderingAt?_merge, ncard_created_again]
      at noCategory noPhrase noRendering
    have unchanged := counts.renderings
    rw [noRendering, noUpdate, Nat.zero_add] at unchanged
    exact Summary.ext noCategory noPhrase noRendering noUpdate unchanged

/-- Imports that share no phrase, and whose common categories differ in nothing but their phrases,
make the same store in either order, with the same counts in total. -/
theorem apply_comm (store : Store) {made other : Import}
    (apart : ∀ place,
      phraseAt? made.categories place = none ∨ phraseAt? other.categories place = none)
    (agree : ∀ key category category', made.categories.get? key = some category →
      other.categories.get? key = some category' → category.bare = category'.bare) :
    ((store.apply made.categories).2.apply other.categories).2 =
      ((store.apply other.categories).2.apply made.categories).2 ∧
    (store.apply made.categories).1 + ((store.apply made.categories).2.apply other.categories).1 =
      (store.apply other.categories).1 +
        ((store.apply other.categories).2.apply made.categories).1 := by
  have renderingsApart : ∀ place, renderingAt? made.categories place = none ∨
      renderingAt? other.categories place = none := by
    rintro ⟨place, localeId⟩
    exact (apart place).imp (renderingAt?_eq_none · localeId) (renderingAt?_eq_none · localeId)
  have renderingsApart' : ∀ place, renderingAt? other.categories place = none ∨
      renderingAt? made.categories place = none := fun place => (renderingsApart place).symm
  have merged := merge_comm apart agree
  constructor
  · rw [← store.apply_merge_snd renderingsApart, ← store.apply_merge_snd renderingsApart', merged]
  · rw [← store.apply_merge_fst renderingsApart, ← store.apply_merge_fst renderingsApart', merged]

def menuImport (key text : String) : Import :=
  let owner : Project := ⟨"demo", "Demo", "ann", "acme"⟩
  let rendering := { Rendering.new "en-GB" .imported owner with text }
  let phrase := { Phrase.new key (Title.ofKey key) owner with
    renderings := (∅ : Dictionary Rendering).insert "en-GB" rendering }
  let category := { Category.new "menu" "Menu" owner with
    phrases := (∅ : Dictionary Phrase).insert key phrase }
  ⟨(∅ : Dictionary Category).insert "menu" category, []⟩

theorem phraseAt?_menuImport {key text : String} {place : String × String}
    (elsewhere : place.2 ≠ key) : phraseAt? (menuImport key text).categories place = none := by
  by_cases menu : place.1 = "menu" <;>
    simp [phraseAt?, menuImport, Dictionary.get?_insert, menu, elsewhere]

theorem menuImport_apply_comm :
    let store := (Store.new ⟨"demo", "Demo", "ann", "acme"⟩).withLocales Locale.starters
    let opened := store.apply (menuImport "open" "Open").categories
    let quitted := store.apply (menuImport "quit" "Quit").categories
    (opened.2.apply (menuImport "quit" "Quit").categories).2 =
      (quitted.2.apply (menuImport "open" "Open").categories).2 ∧
    opened.1 + (opened.2.apply (menuImport "quit" "Quit").categories).1 =
      quitted.1 + (quitted.2.apply (menuImport "open" "Open").categories).1 := by
  refine apply_comm _ (fun place => ?_) fun key category other found found' => ?_
  · by_cases opens : place.2 = "open"
    · exact .inr (phraseAt?_menuImport (by simp [opens]))
    · exact .inl (phraseAt?_menuImport opens)
  · by_cases menu : key = "menu"
    · subst menu
      obtain rfl := Option.some.inj found
      obtain rfl := Option.some.inj found'
      rfl
    · simp [menuImport, Dictionary.get?_insert, menu] at found

end Store

end Phrasebook
