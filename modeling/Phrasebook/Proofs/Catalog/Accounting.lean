import Mathlib.Algebra.BigOperators.Group.List.Basic
import Mathlib.Data.List.Nodup
import Mathlib.Data.Set.Card
import Phrasebook.Proofs.Catalog.Joining

namespace Phrasebook

/-! ## Places -/

section Within

variable {ι α β : Type}

def within (inner : α → Dictionary β) (entries : List (ι × α)) : List ((ι × String) × β) :=
  entries.flatMap fun entry =>
    (inner entry.2).entries.map fun below => ((entry.1, below.1), below.2)

theorem mem_within {inner : α → Dictionary β} {entries : List (ι × α)} {place : ι × String}
    {value : β} : (place, value) ∈ within inner entries ↔
      ∃ outer, (place.1, outer) ∈ entries ∧ (inner outer).get? place.2 = some value := by
  simp only [within, List.mem_flatMap, List.mem_map, Prod.mk.injEq, Prod.exists]
  constructor
  · rintro ⟨key, outer, member, below, found, inside, rfl, rfl⟩
    exact ⟨outer, member, Dictionary.mem_entries_iff.1 inside⟩
  · rintro ⟨outer, member, found⟩
    exact ⟨place.1, outer, member, place.2, value, Dictionary.mem_entries_iff.2 found, rfl, rfl⟩

theorem Dictionary.nodup_keys (dictionary : Dictionary α) :
    (dictionary.entries.map (·.1)).Nodup := by
  refine List.pairwise_map.2 (List.Pairwise.imp ?_ dictionary.ascending)
  intro earlier later below equal
  exact String.lt_irrefl _ (equal ▸ below)

theorem nodup_keys_within {inner : α → Dictionary β} {entries : List (ι × α)}
    (distinct : (entries.map (·.1)).Nodup) : ((within inner entries).map (·.1)).Nodup := by
  rw [within, List.map_flatMap, List.nodup_flatMap]
  constructor
  · intro entry _
    have keys := (inner entry.2).nodup_keys.map (Prod.mk_right_injective entry.1)
    simpa [List.map_map, Function.comp_def] using keys
  · -- Places inside of two entries differ in their first key.
    refine List.Pairwise.imp ?_ (List.pairwise_map.1 distinct)
    intro entry other different place member otherMember
    simp only [List.map_map, List.mem_map, Function.comp_apply] at member otherMember
    obtain ⟨_, _, rfl⟩ := member
    obtain ⟨_, _, same⟩ := otherMember
    exact different (Prod.mk.inj same).1.symm

theorem sum_map_within {M : Type} [AddCommMonoid M] (inner : α → Dictionary β)
    (entries : List (ι × α)) (weight : (ι × String) × β → M) :
    ((within inner entries).map weight).sum = (entries.map fun entry =>
      ((inner entry.2).entries.map fun below => weight ((entry.1, below.1), below.2)).sum).sum := by
  simp only [within, List.flatMap_def, List.map_flatten, List.sum_flatten, List.map_map,
    Function.comp_def]

theorem ncard_places_eq_countP {entries : List (ι × α)} (distinct : (entries.map (·.1)).Nodup)
    (counted : ι × α → Bool) :
    {place | ∃ value, (place, value) ∈ entries ∧ counted (place, value) = true}.ncard =
      entries.countP counted := by
  classical
  have kept : ((entries.filter counted).map (·.1)).Nodup :=
    distinct.sublist (List.filter_sublist.map _)
  have places : {place | ∃ value, (place, value) ∈ entries ∧ counted (place, value) = true} =
      ↑((entries.filter counted).map (·.1)).toFinset := by
    ext place
    simp
  rw [places, Set.ncard_coe_finset, List.toFinset_card_of_nodup kept, List.length_map,
    List.countP_eq_length_filter]

end Within

namespace Catalog

variable {categories : Dictionary Category}

def phraseAt? (categories : Dictionary Category) (place : String × String) : Option Phrase :=
  (categories.get? place.1).bind (·.phrases.get? place.2)

def renderingAt? (categories : Dictionary Category) (place : (String × String) × String) :
    Option Rendering :=
  (phraseAt? categories place.1).bind (·.renderings.get? place.2)

def phrases (categories : Dictionary Category) : List ((String × String) × Phrase) :=
  within Category.phrases categories.entries

def renderings (categories : Dictionary Category) :
    List (((String × String) × String) × Rendering) :=
  within Phrase.renderings (phrases categories)

theorem mem_phrases {place : String × String} {phrase : Phrase} :
    (place, phrase) ∈ phrases categories ↔ phraseAt? categories place = some phrase := by
  simp [phrases, mem_within, phraseAt?, Dictionary.mem_entries_iff, Option.bind_eq_some_iff]

theorem mem_renderings {place : (String × String) × String} {rendering : Rendering} :
    (place, rendering) ∈ renderings categories ↔
      renderingAt? categories place = some rendering := by
  simp [renderings, mem_within, mem_phrases, renderingAt?, Option.bind_eq_some_iff]

theorem nodup_places_phrases : ((phrases categories).map (·.1)).Nodup :=
  nodup_keys_within categories.nodup_keys

theorem nodup_places_renderings : ((renderings categories).map (·.1)).Nodup :=
  nodup_keys_within nodup_places_phrases

theorem countP_entries (counted : String × Category → Bool) :
    categories.entries.countP counted = {key | ∃ category,
      categories.get? key = some category ∧ counted (key, category) = true}.ncard := by
  rw [← ncard_places_eq_countP categories.nodup_keys]
  simp only [Dictionary.mem_entries_iff]

theorem countP_phrases (counted : (String × String) × Phrase → Bool) :
    (phrases categories).countP counted = {place | ∃ phrase,
      phraseAt? categories place = some phrase ∧ counted (place, phrase) = true}.ncard := by
  rw [← ncard_places_eq_countP nodup_places_phrases]
  simp only [mem_phrases]

theorem countP_renderings (counted : ((String × String) × String) × Rendering → Bool) :
    (renderings categories).countP counted = {place | ∃ rendering,
      renderingAt? categories place = some rendering ∧
        counted (place, rendering) = true}.ncard := by
  rw [← ncard_places_eq_countP nodup_places_renderings]
  simp only [mem_renderings]

end Catalog

/-! ## Sums -/

attribute [ext] Summary

namespace Summary

instance : Zero Summary := ⟨zero⟩

instance : AddCommMonoid Summary where
  add_assoc _ _ _ := by ext <;> exact Nat.add_assoc _ _ _
  zero_add _ := by ext <;> exact Nat.zero_add _
  add_zero _ := rfl
  add_comm _ _ := by ext <;> exact Nat.add_comm _ _
  nsmul := nsmulRec

theorem total_eq_sum (summaries : List Summary) : total summaries = summaries.sum := rfl

theorem mk_add_mk (a b c d e a' b' c' d' e' : Nat) :
    (⟨a, b, c, d, e⟩ + ⟨a', b', c', d', e'⟩ : Summary) =
      ⟨a + a', b + b', c + c', d + d', e + e'⟩ :=
  rfl

def ofCategory (former? : Option Category) : Summary :=
  { zero with categoriesCreated := if former?.isNone then 1 else 0 }

def ofPhrase (former? : Option Phrase) : Summary :=
  { zero with phrasesCreated := if former?.isNone then 1 else 0 }

section Sums

variable {ι : Type}

theorem sum_ofCategory (former? : ι → Option Category) (entries : List (ι × Category)) :
    (entries.map fun entry => ofCategory (former? entry.1)).sum =
      { zero with
        categoriesCreated := entries.countP fun entry => (former? entry.1).isNone } := by
  induction entries with
  | nil => rfl
  | cons entry rest ih =>
    rw [List.map_cons, List.sum_cons, ih, List.countP_cons]
    simp [ofCategory, zero, mk_add_mk, Nat.add_comm]

theorem sum_ofPhrase (former? : ι → Option Phrase) (entries : List (ι × Phrase)) :
    (entries.map fun entry => ofPhrase (former? entry.1)).sum =
      { zero with phrasesCreated := entries.countP fun entry => (former? entry.1).isNone } := by
  induction entries with
  | nil => rfl
  | cons entry rest ih =>
    rw [List.map_cons, List.sum_cons, ih, List.countP_cons]
    simp [ofPhrase, zero, mk_add_mk, Nat.add_comm]

theorem sum_changes (former? : ι → Option Rendering) (entries : List (ι × Rendering)) :
    (entries.map fun entry => Rendering.changes (former? entry.1) entry.2).sum =
      { zero with
        renderingsCreated := entries.countP fun entry => (former? entry.1).isNone
        renderingsUpdated := entries.countP fun entry =>
          (former? entry.1).any (·.differsFrom entry.2)
        renderingsUnchanged := entries.countP fun entry =>
          (former? entry.1).any (!·.differsFrom entry.2) } := by
  induction entries with
  | nil => rfl
  | cons entry rest ih =>
    rw [List.map_cons, List.sum_cons, ih, List.countP_cons, List.countP_cons, List.countP_cons]
    cases former? entry.1 with
    | none => simp [Rendering.changes, zero, mk_add_mk, Nat.add_comm]
    | some former =>
      by_cases differs : former.differsFrom entry.2 <;>
        simp [Rendering.changes, differs, zero, mk_add_mk, Nat.add_comm]

theorem countP_add_countP_add_countP (former? : ι → Option Rendering)
    (entries : List (ι × Rendering)) :
    entries.countP (fun entry => (former? entry.1).isNone) +
      entries.countP (fun entry => (former? entry.1).any (·.differsFrom entry.2)) +
      entries.countP (fun entry => (former? entry.1).any (!·.differsFrom entry.2)) =
    entries.countP fun _ => true := by
  induction entries with
  | nil => rfl
  | cons entry rest ih =>
    simp only [List.countP_cons, ← ih]
    cases former? entry.1 with
    | none =>
      simp
      omega
    | some former =>
      by_cases differs : former.differsFrom entry.2 <;> simp [differs] <;> omega

end Sums

end Summary

theorem Phrase.changes_eq_sum (phrase? : Option Phrase) (other : Phrase) :
    changes phrase? other = Summary.ofPhrase phrase? +
      (other.renderings.entries.map fun entry =>
        Rendering.changes (phrase?.bind (·.renderings.get? entry.1)) entry.2).sum := by
  cases phrase? with
  | none =>
    have created := Summary.sum_changes (fun _ => none) other.renderings.entries
    simp only [Option.bind_none, created]
    simp [changes, Summary.ofPhrase, Summary.zero, Summary.mk_add_mk, Dictionary.size]
  | some phrase =>
    simp only [changes, Option.bind_some, Summary.total_eq_sum]
    exact (zero_add _).symm

theorem Category.changes_eq_sum (category? : Option Category) (other : Category) :
    changes category? other = Summary.ofCategory category? +
      (other.phrases.entries.map fun entry =>
        Phrase.changes (category?.bind (·.phrases.get? entry.1)) entry.2).sum := by
  cases category? with
  | none =>
    simp [changes, Summary.ofCategory, Summary.total_eq_sum, Dictionary.values, Function.comp_def]
  | some category =>
    simp only [changes, Option.bind_some, Summary.total_eq_sum]
    exact (zero_add _).symm

namespace Store

open Catalog

theorem apply_fst_eq_sum (store : Store) (incoming : Dictionary Category) :
    (store.apply incoming).1 =
      (incoming.entries.map fun entry =>
        Summary.ofCategory (store.categories.get? entry.1)).sum +
      ((phrases incoming).map fun entry =>
        Summary.ofPhrase (phraseAt? store.categories entry.1)).sum +
      ((renderings incoming).map fun entry =>
        Rendering.changes (renderingAt? store.categories entry.1) entry.2).sum := by
  -- What an entity holds is a walk one level deeper, so each level splits off a sum of its own.
  have inPhrases : ((phrases incoming).map fun entry =>
      Phrase.changes (phraseAt? store.categories entry.1) entry.2).sum =
      ((phrases incoming).map fun entry =>
        Summary.ofPhrase (phraseAt? store.categories entry.1)).sum +
      ((renderings incoming).map fun entry =>
        Rendering.changes (renderingAt? store.categories entry.1) entry.2).sum := by
    simp only [Phrase.changes_eq_sum, List.sum_map_add, renderings, sum_map_within, renderingAt?]
  have inCategories : (store.apply incoming).1 =
      (incoming.entries.map fun entry =>
        Summary.ofCategory (store.categories.get? entry.1)).sum +
      ((phrases incoming).map fun entry =>
        Phrase.changes (phraseAt? store.categories entry.1) entry.2).sum := by
    simp only [apply, Summary.total_eq_sum, Category.changes_eq_sum, List.sum_map_add, phrases,
      sum_map_within, phraseAt?]
  rw [inCategories, inPhrases, add_assoc]

theorem apply_fst_eq_countP (store : Store) (incoming : Dictionary Category) :
    (store.apply incoming).1 =
      { categoriesCreated := incoming.entries.countP fun entry =>
          (store.categories.get? entry.1).isNone
        phrasesCreated := (phrases incoming).countP fun entry =>
          (phraseAt? store.categories entry.1).isNone
        renderingsCreated := (renderings incoming).countP fun entry =>
          (renderingAt? store.categories entry.1).isNone
        renderingsUpdated := (renderings incoming).countP fun entry =>
          (renderingAt? store.categories entry.1).any (·.differsFrom entry.2)
        renderingsUnchanged := (renderings incoming).countP fun entry =>
          (renderingAt? store.categories entry.1).any (!·.differsFrom entry.2) } := by
  rw [apply_fst_eq_sum, Summary.sum_ofCategory, Summary.sum_ofPhrase, Summary.sum_changes]
  simp [Summary.zero, Summary.mk_add_mk]

end Store

/-- Every number of a summary is that of the places where something new comes to a store, where
the texts of a rendering change, or where they stay. -/
structure Summary.Counts (summary : Summary) (former incoming : Dictionary Category) : Prop where
  categoriesCreated : summary.categoriesCreated =
    {key | ∃ new, incoming.get? key = some new ∧ former.get? key = none}.ncard
  phrasesCreated : summary.phrasesCreated =
    {place | ∃ new, Catalog.phraseAt? incoming place = some new ∧
      Catalog.phraseAt? former place = none}.ncard
  renderingsCreated : summary.renderingsCreated =
    {place | ∃ new, Catalog.renderingAt? incoming place = some new ∧
      Catalog.renderingAt? former place = none}.ncard
  renderingsUpdated : summary.renderingsUpdated =
    {place | ∃ new, Catalog.renderingAt? incoming place = some new ∧
      ∃ old, Catalog.renderingAt? former place = some old ∧
        (old.text ≠ new.text ∨ old.contexts ≠ new.contexts)}.ncard
  renderingsUnchanged : summary.renderingsUnchanged =
    {place | ∃ new, Catalog.renderingAt? incoming place = some new ∧
      ∃ old, Catalog.renderingAt? former place = some old ∧
        old.text = new.text ∧ old.contexts = new.contexts}.ncard
  renderings : summary.renderingsCreated + summary.renderingsUpdated +
      summary.renderingsUnchanged =
    {place | ∃ new, Catalog.renderingAt? incoming place = some new}.ncard

namespace Store

open Catalog

theorem counts_apply (store : Store) (incoming : Dictionary Category) :
    (store.apply incoming).1.Counts store.categories incoming := by
  rw [apply_fst_eq_countP]
  constructor
  case categoriesCreated => simp only [countP_entries, Option.isNone_iff_eq_none]
  case phrasesCreated => simp only [countP_phrases, Option.isNone_iff_eq_none]
  case renderingsCreated => simp only [countP_renderings, Option.isNone_iff_eq_none]
  case renderingsUpdated =>
    simp only [countP_renderings, Option.any_eq_true, Rendering.differsFrom_iff]
  case renderingsUnchanged =>
    simp only [countP_renderings, Option.any_eq_true, Bool.not_eq_true',
      Rendering.differsFrom_eq_false_iff]
  case renderings =>
    simp only [Summary.countP_add_countP_add_countP]
    simp only [countP_renderings, and_true]

/-- Applying an import joins it to a store as its levels say, which leaves no choice, and counts
what it does. -/
theorem apply_joins_and_counts (store : Store) (made : Import) :
    (∀ after, (store.apply made.categories).2 = after ↔ store.Joins made after) ∧
      (store.apply made.categories).1.Counts store.categories made.categories := by
  refine ⟨fun after => ⟨?_, fun joins => (store.joins_apply made).unique joins⟩,
    store.counts_apply made.categories⟩
  rintro rfl
  exact store.joins_apply made

end Store

end Phrasebook
