import Phrasebook.Catalog.Entities
import Phrasebook.Proofs.Dictionary.Lookup

namespace Phrasebook

namespace Phrase

theorem isLegacy_iff {name : String} :
    isLegacy name = true ↔ ∃ key, name = legacyMark ++ key := by
  rw [isLegacy, List.isPrefixOf_iff_prefix]
  constructor
  · rintro ⟨behind, split⟩
    refine ⟨String.ofList behind, String.toList_inj.1 ?_⟩
    rw [String.toList_append, String.toList_ofList, split]
  · rintro ⟨key, rfl⟩
    rw [String.toList_append]
    exact List.prefix_append _ _

theorem legacyKey_append (key : String) : legacyKey (legacyMark ++ key) = key := by
  rw [legacyKey, String.toList_append, List.drop_left, String.ofList_toList]

theorem lookup_map_legacyKey {α β : Type} (image : α → β) (entries : List (String × α))
    (legacy : ∀ entry ∈ entries, isLegacy entry.1 = true) (key : String) :
    (entries.map fun entry => (legacyKey entry.1, image entry.2)).lookup key =
      (entries.lookup (legacyMark ++ key)).map image := by
  induction entries with
  | nil => rfl
  | cons entry rest ih =>
    obtain ⟨name, value⟩ := entry
    rw [List.forall_mem_cons] at legacy
    obtain ⟨recorded, rfl⟩ := isLegacy_iff.1 legacy.1
    rw [List.map_cons, Entries.lookup_cons_eq, Entries.lookup_cons_eq, ih legacy.2,
      legacyKey_append]
    by_cases here : key = recorded <;> simp [here]

inductive Argues : Json → Option String → Prop where
  | none : Argues .null none
  | text (text : String) : Argues (.string text) (some text)
  | written {value : Json} (notNull : value ≠ .null) (notText : ∀ text, value ≠ .string text) :
      Argues value (some value.compact)

theorem argues_iff {value : Json} {argument : Option String} :
    Argues value argument ↔ legacyArgument value = argument := by
  constructor
  · rintro (_ | _ | ⟨notNull, notText⟩)
    · rfl
    · rfl
    · cases value with
      | null => exact absurd rfl notNull
      | string text => exact absurd rfl (notText text)
      | _ => rfl
  · rintro rfl
    cases value with
    | null => exact .none
    | string text => exact .text text
    | _ => exact .written (by simp) (by simp)

variable (phrase : Phrase)

theorem get?_examples_migrate (name : String) : phrase.migrate.2.examples.get? name =
    (phrase.examples.get? name).filter fun _ => !isLegacy name :=
  Dictionary.get?_filter (fun name _ => !isLegacy name) phrase.examples name

theorem get?_references_migrate (key : String) : phrase.migrate.2.references.get? key =
    (phrase.references.get? key).or
      ((phrase.examples.get? (legacyMark ++ key)).map legacyArgument) := by
  let legacy := phrase.examples.filter fun name _ => isLegacy name
  have marked : ∀ entry ∈ legacy.entries, isLegacy entry.1 = true := fun entry member =>
    (List.mem_filter.1 member).2
  have found : legacy.get? (legacyMark ++ key) = phrase.examples.get? (legacyMark ++ key) := by
    rw [Dictionary.get?_filter, isLegacy_iff.2 ⟨key, rfl⟩]
    cases phrase.examples.get? (legacyMark ++ key) <;> rfl
  have moved : phrase.migrate.2.references =
      (legacy.entries.map fun entry => (legacyKey entry.1, legacyArgument entry.2)).foldl
        (fun references entry => references.insertNew entry.1 entry.2) phrase.references := by
    rw [List.foldl_map]
    rfl
  rw [moved, Dictionary.get?_foldl_insertNew, lookup_map_legacyKey _ _ marked, ← found]
  rfl

theorem size_examples_migrate :
    phrase.migrate.2.examples.size + phrase.migrate.1 = phrase.examples.size := by
  have parted := List.length_eq_length_filter_add (l := phrase.examples.entries)
    fun entry => isLegacy entry.1
  rw [Nat.add_comm]
  exact parted.symm

variable {phrase} in
theorem migrate_of_unmarked
    (unmarked : ∀ entry ∈ phrase.examples.entries, isLegacy entry.1 = false) :
    phrase.migrate = (0, phrase) := by
  have none : phrase.examples.filter (fun name _ => isLegacy name) = ∅ :=
    Dictionary.filter_eq_empty fun entry member => by simp [unmarked entry member]
  have all : phrase.examples.filter (fun name _ => !isLegacy name) = phrase.examples :=
    Dictionary.filter_eq_self fun entry member => by simp [unmarked entry member]
  rw [migrate, none, all]
  rfl

/-- A migration takes out the variables whose names begin with the mark and counts them. A key gets
a reference if one of them recorded it and it had none. All else stays as it was, and a second
migration does nothing. -/
theorem migrate_outcome :
    (∀ name value, phrase.migrate.2.examples.get? name = some value ↔
      phrase.examples.get? name = some value ∧ ∀ key, name ≠ legacyMark ++ key) ∧
    (∀ key argument, phrase.migrate.2.references.get? key = some argument ↔
      phrase.references.get? key = some argument ∨ phrase.references.get? key = none ∧
        ∃ value, phrase.examples.get? (legacyMark ++ key) = some value ∧ Argues value argument) ∧
    { phrase.migrate.2 with examples := phrase.examples, references := phrase.references } =
      phrase ∧
    phrase.migrate.2.examples.size + phrase.migrate.1 = phrase.examples.size ∧
    phrase.migrate.2.migrate = (0, phrase.migrate.2) := by
  have unmarked : ∀ name, isLegacy name = false ↔ ∀ key, name ≠ legacyMark ++ key := by
    intro name
    rw [← Bool.not_eq_true, isLegacy_iff, not_exists]
  refine ⟨fun name value => ?_, fun key argument => ?_, rfl, size_examples_migrate phrase, ?_⟩
  · rw [get?_examples_migrate, Option.filter_eq_some_iff, Bool.not_eq_true', unmarked]
  · rw [get?_references_migrate, Option.or_eq_some_iff]
    simp only [Option.map_eq_some_iff, argues_iff]
  · refine migrate_of_unmarked fun entry member => ?_
    simpa using (List.mem_filter.1 member).2

end Phrase

end Phrasebook
