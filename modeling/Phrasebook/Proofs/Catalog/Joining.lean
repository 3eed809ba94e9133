import Phrasebook.Import.Basic
import Phrasebook.Catalog.Store
import Phrasebook.Proofs.Dictionary.Lookup

namespace Phrasebook

/-! ## Dictionaries -/

namespace Dictionary

variable {α : Type}

/-- The entries of `incoming` come to those of `former`; a key of both has a value that stands in
relation to the two that they have. -/
structure Joins (related : α → α → α → Prop) (former incoming after : Dictionary α) : Prop where
  kept : ∀ key, incoming.get? key = none → after.get? key = former.get? key
  created : ∀ key value, former.get? key = none → incoming.get? key = some value →
    after.get? key = some value
  joined : ∀ key old new, former.get? key = some old → incoming.get? key = some new →
    ∃ result, after.get? key = some result ∧ related old new result

variable {related : α → α → α → Prop} {former incoming after other : Dictionary α}

theorem joins_merge {combine : α → α → α} (former incoming : Dictionary α)
    (combines : ∀ old new, related old new (combine old new)) :
    Joins related former incoming (former.merge combine incoming) where
  kept key absent := by simp [absent]
  created key value absent found := by simp [absent, found]
  joined key old new atOld atNew := ⟨combine old new, by simp [atOld, atNew], combines old new⟩

theorem Joins.unique (joins : Joins related former incoming after)
    (otherwise : Joins related former incoming other)
    (functional : ∀ old new result result', related old new result →
      related old new result' → result = result') : after = other := by
  refine ext_get? fun key => ?_
  cases atNew : incoming.get? key with
  | none => rw [joins.kept key atNew, otherwise.kept key atNew]
  | some new =>
    cases atOld : former.get? key with
    | none => rw [joins.created key new atOld atNew, otherwise.created key new atOld atNew]
    | some old =>
      obtain ⟨result, found, relates⟩ := joins.joined key old new atOld atNew
      obtain ⟨result', found', relates'⟩ := otherwise.joined key old new atOld atNew
      rw [found, found', functional old new result result' relates relates']

end Dictionary

/-! ## Renderings -/

structure Rendering.Joins (former incoming after : Rendering) : Prop where
  updated : former.text ≠ incoming.text ∨ former.contexts ≠ incoming.contexts →
    after = { former with
      text := incoming.text, contexts := incoming.contexts, origin := incoming.origin }
  unchanged : former.text = incoming.text → former.contexts = incoming.contexts → after = former

namespace Rendering

theorem differsFrom_iff {rendering other : Rendering} : rendering.differsFrom other = true ↔
    rendering.text ≠ other.text ∨ rendering.contexts ≠ other.contexts := by
  simp [differsFrom]

theorem differsFrom_eq_false_iff {rendering other : Rendering} :
    rendering.differsFrom other = false ↔
      rendering.text = other.text ∧ rendering.contexts = other.contexts := by
  simp [differsFrom]

theorem joins_absorb (former incoming : Rendering) :
    former.Joins incoming (former.absorb incoming) where
  updated differs := by rw [absorb, if_pos (differsFrom_iff.2 differs)]
  unchanged text contexts := by
    rw [absorb, differsFrom_eq_false_iff.2 ⟨text, contexts⟩]
    rfl

theorem Joins.unique {former incoming after other : Rendering}
    (joins : former.Joins incoming after) (otherwise : former.Joins incoming other) :
    after = other := by
  cases differs : former.differsFrom incoming with
  | true =>
    have changed := differsFrom_iff.1 differs
    rw [joins.updated changed, otherwise.updated changed]
  | false =>
    obtain ⟨text, contexts⟩ := differsFrom_eq_false_iff.1 differs
    rw [joins.unchanged text contexts, otherwise.unchanged text contexts]

end Rendering

/-! ## Phrases -/

structure Phrase.Joins (former incoming after : Phrase) : Prop where
  examples : Dictionary.Joins (fun _ new result => result = new)
    former.examples incoming.examples after.examples
  references : Dictionary.Joins (fun old _ result => result = old)
    former.references incoming.references after.references
  renderings : Dictionary.Joins Rendering.Joins
    former.renderings incoming.renderings after.renderings
  others : { after with
    examples := former.examples
    references := former.references
    renderings := former.renderings } = former

namespace Phrase

theorem joins_absorb (former incoming : Phrase) :
    former.Joins incoming (former.absorb incoming) where
  examples := Dictionary.joins_merge _ _ fun _ _ => rfl
  references := Dictionary.joins_merge _ _ fun _ _ => rfl
  renderings := Dictionary.joins_merge _ _ Rendering.joins_absorb
  others := rfl

theorem Joins.unique {former incoming after other : Phrase}
    (joins : former.Joins incoming after) (otherwise : former.Joins incoming other) :
    after = other := by
  have examples : after.examples = other.examples :=
    joins.examples.unique otherwise.examples fun _ _ _ _ first second => first.trans second.symm
  have references : after.references = other.references :=
    joins.references.unique otherwise.references fun _ _ _ _ first second => first.trans second.symm
  have renderings : after.renderings = other.renderings :=
    joins.renderings.unique otherwise.renderings fun _ _ _ _ => Rendering.Joins.unique
  have others := joins.others.trans otherwise.others.symm
  cases after
  cases other
  simp_all

end Phrase

/-! ## Categories -/

structure Category.Joins (former incoming after : Category) : Prop where
  phrases : Dictionary.Joins Phrase.Joins former.phrases incoming.phrases after.phrases
  others : { after with phrases := former.phrases } = former

namespace Category

theorem joins_absorb (former incoming : Category) :
    former.Joins incoming (former.absorb incoming) where
  phrases := Dictionary.joins_merge _ _ Phrase.joins_absorb
  others := rfl

theorem Joins.unique {former incoming after other : Category}
    (joins : former.Joins incoming after) (otherwise : former.Joins incoming other) :
    after = other := by
  have phrases : after.phrases = other.phrases :=
    joins.phrases.unique otherwise.phrases fun _ _ _ _ => Phrase.Joins.unique
  have others := joins.others.trans otherwise.others.symm
  cases after
  cases other
  simp_all

end Category

/-! ## Stores -/

structure Store.Joins (store : Store) (made : Import) (after : Store) : Prop where
  categories : Dictionary.Joins Category.Joins store.categories made.categories after.categories
  project : after.project = store.project
  locales : after.locales = store.locales

namespace Store

theorem joins_apply (store : Store) (made : Import) :
    store.Joins made (store.apply made.categories).2 where
  categories := Dictionary.joins_merge _ _ Category.joins_absorb
  project := rfl
  locales := rfl

theorem Joins.unique {store after other : Store} {made : Import}
    (joins : store.Joins made after) (otherwise : store.Joins made other) : after = other := by
  have categories : after.categories = other.categories :=
    joins.categories.unique otherwise.categories fun _ _ _ _ => Category.Joins.unique
  have project := joins.project.trans otherwise.project.symm
  have locales := joins.locales.trans otherwise.locales.symm
  cases after
  cases other
  simp_all

end Store

end Phrasebook
