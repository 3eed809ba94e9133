import Phrasebook.Proofs.Catalog.Merging

namespace Phrasebook

def Phrase.withoutArguments (phrase : Phrase) : Phrase :=
  { phrase with references := phrase.references.mapValues fun _ _ => none }

def Category.withoutArguments (category : Category) : Category :=
  { category with phrases := category.phrases.mapValues fun _ => Phrase.withoutArguments }

theorem Phrase.withoutArguments_absorb (phrase other : Phrase) :
    (phrase.absorb other).withoutArguments =
      phrase.withoutArguments.absorb other.withoutArguments := by
  have references : (phrase.references.merge (fun former _ => former) other.references).mapValues
      (fun _ _ => (none : Option String)) =
        (phrase.references.mapValues fun _ _ => none).merge (fun former _ => former)
          (other.references.mapValues fun _ _ => none) :=
    Dictionary.mapValues_merge (fun _ _ _ => rfl) _ _
  simp only [absorb, withoutArguments, references]

theorem Category.withoutArguments_absorb (category other : Category) :
    (category.absorb other).withoutArguments =
      category.withoutArguments.absorb other.withoutArguments := by
  simp only [absorb, withoutArguments]
  rw [Dictionary.mapValues_merge fun _ => Phrase.withoutArguments_absorb]

namespace Catalog

def withoutArguments (categories : Dictionary Category) : Dictionary Category :=
  categories.mapValues fun _ => Category.withoutArguments

theorem withoutArguments_merge (former incoming : Dictionary Category) :
    withoutArguments (merge former incoming) =
      merge (withoutArguments former) (withoutArguments incoming) :=
  Dictionary.mapValues_merge (fun _ => Category.withoutArguments_absorb) former incoming

variable (categories : Dictionary Category)

@[simp] theorem bareCategoryAt?_withoutArguments (key : String) :
    bareCategoryAt? (withoutArguments categories) key = bareCategoryAt? categories key := by
  rw [bareCategoryAt?, withoutArguments, Dictionary.get?_mapValues, Option.map_map]
  rfl

@[simp] theorem phraseAt?_withoutArguments (place : String × String) :
    phraseAt? (withoutArguments categories) place =
      (phraseAt? categories place).map Phrase.withoutArguments := by
  rw [phraseAt?, phraseAt?, withoutArguments, Dictionary.get?_mapValues]
  cases categories.get? place.1 with
  | none => rfl
  | some category => exact Dictionary.get?_mapValues _ category.phrases place.2

@[simp] theorem renderingAt?_withoutArguments (place : (String × String) × String) :
    renderingAt? (withoutArguments categories) place = renderingAt? categories place := by
  rw [renderingAt?, phraseAt?_withoutArguments, renderingAt?]
  cases phraseAt? categories place.1 <;> rfl

end Catalog

namespace Store

open Catalog

def withoutArguments (store : Store) : Store :=
  { store with categories := Catalog.withoutArguments store.categories }

theorem apply_withoutArguments_fst (store : Store) (incoming : Dictionary Category) :
    (store.apply (Catalog.withoutArguments incoming)).1 = (store.apply incoming).1 := by
  have without := store.counts_apply (Catalog.withoutArguments incoming)
  have counts := store.counts_apply incoming
  ext
  · rw [without.categoriesCreated, counts.categoriesCreated]
    simp [Catalog.withoutArguments]
  · rw [without.phrasesCreated, counts.phrasesCreated]
    simp
  · rw [without.renderingsCreated, counts.renderingsCreated]
    simp
  · rw [without.renderingsUpdated, counts.renderingsUpdated]
    simp
  · rw [without.renderingsUnchanged, counts.renderingsUnchanged]
    simp

theorem withoutArguments_apply (store : Store) (incoming : Dictionary Category) :
    (store.apply incoming).2.withoutArguments =
      (store.withoutArguments.apply (Catalog.withoutArguments incoming)).2 :=
  congrArg (fun categories => { store with categories })
    (withoutArguments_merge store.categories incoming)

theorem apply_of_withoutArguments_eq (store : Store) {incoming other : Dictionary Category}
    (same : Catalog.withoutArguments incoming = Catalog.withoutArguments other) :
    (store.apply incoming).1 = (store.apply other).1 ∧
      (store.apply incoming).2.withoutArguments = (store.apply other).2.withoutArguments := by
  constructor
  · rw [← apply_withoutArguments_fst, same, apply_withoutArguments_fst]
  · rw [withoutArguments_apply, same, withoutArguments_apply]

end Store

end Phrasebook
