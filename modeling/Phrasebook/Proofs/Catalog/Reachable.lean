import Mathlib.Logic.Relation
import Phrasebook.Proofs.Import.Faithful
import Phrasebook.Proofs.Import.Marks

namespace Phrasebook

theorem of_merge_eq_some {α : Type} {combine : α → α → α} (holds : α → Prop)
    {first? second? : Option α} {result : α}
    (merged : Option.merge combine first? second? = some result)
    (first : ∀ value, first? = some value → holds value)
    (second : ∀ value, second? = some value → holds value)
    (combined : ∀ value other, holds value → holds other → holds (combine value other)) :
    holds result := by
  cases first? with
  | none => exact second result (by simpa using merged)
  | some value =>
    cases second? with
    | none => exact first result (by simpa using merged)
    | some other =>
      rw [Option.merge_some_some] at merged
      obtain rfl := Option.some.inj merged
      exact combined value other (first value rfl) (second other rfl)

/-! ## Consistent catalogs -/

def Project.Complete (project : Project) : Prop :=
  project.id ≠ "" ∧ project.createdBy ≠ "" ∧ project.organizationId ≠ ""

/-- A category is stored under its own key, which is not empty, and marked with its project, its
author and its organization, none of which is empty. -/
structure Category.Belongs (project : Project) (key : String) (category : Category) : Prop where
  key_eq : category.key = key
  key_ne : key ≠ ""
  projectId : category.projectId = project.id
  createdBy : category.createdBy = project.createdBy
  organizationId : category.organizationId = project.organizationId
  complete : project.Complete

structure Phrase.Belongs (project : Project) (key : String) (phrase : Phrase) : Prop where
  key_eq : phrase.key = key
  createdBy : phrase.createdBy = project.createdBy
  organizationId : phrase.organizationId = project.organizationId
  complete : project.Complete
  suitable : Example.Suitable phrase.examples

structure Rendering.Belongs (project : Project) (locales : List Locale) (localeId : String)
    (rendering : Rendering) : Prop where
  localeId_eq : rendering.localeId = localeId
  known : ∃ locale ∈ locales, locale.id = localeId
  createdBy : rendering.createdBy = project.createdBy
  organizationId : rendering.organizationId = project.organizationId
  complete : project.Complete

structure Catalog.Consistent (categories : Dictionary Category) (project : Project)
    (locales : List Locale) : Prop where
  category : ∀ key category, categories.get? key = some category → category.Belongs project key
  phrase : ∀ place phrase, Catalog.phraseAt? categories place = some phrase →
    phrase.Belongs project place.2
  rendering : ∀ place rendering, Catalog.renderingAt? categories place = some rendering →
    rendering.Belongs project locales place.2

/-! ## Merging -/

section Absorb

variable {project : Project}

theorem Category.Belongs.absorb {key : String} {category : Category}
    (belongs : category.Belongs project key) (other : Category) :
    (category.absorb other).Belongs project key :=
  { belongs with }

theorem Phrase.Belongs.absorb {key : String} {phrase other : Phrase}
    (belongs : phrase.Belongs project key) (further : other.Belongs project key) :
    (phrase.absorb other).Belongs project key :=
  { belongs with suitable := belongs.suitable.merge further.suitable }

theorem Rendering.Belongs.absorb {locales : List Locale} {localeId : String} {rendering : Rendering}
    (belongs : rendering.Belongs project locales localeId) (other : Rendering) :
    (rendering.absorb other).Belongs project locales localeId := by
  unfold Rendering.absorb
  split
  · exact { belongs with }
  · exact belongs

end Absorb

namespace Catalog.Consistent

variable {former incoming : Dictionary Category} {project : Project} {locales : List Locale}

theorem empty : Consistent ∅ project locales where
  category _ _ found := by cases found
  phrase _ _ found := by cases found
  rendering _ _ found := by cases found

theorem merge (consistent : Consistent former project locales)
    (added : Consistent incoming project locales) :
    Consistent (Catalog.merge former incoming) project locales where
  category key category found := by
    rw [get?_merge] at found
    exact of_merge_eq_some (Category.Belongs project key) found (consistent.category key)
      (added.category key) fun _ other belongs _ => belongs.absorb other
  phrase place phrase found := by
    rw [phraseAt?_merge] at found
    exact of_merge_eq_some (Phrase.Belongs project place.2) found (consistent.phrase place)
      (added.phrase place) fun _ _ belongs further => belongs.absorb further
  rendering place rendering found := by
    rw [renderingAt?_merge] at found
    exact of_merge_eq_some (Rendering.Belongs project locales place.2) found
      (consistent.rendering place) (added.rendering place)
      fun _ other belongs _ => belongs.absorb other

theorem mono (consistent : Consistent former project locales) {others : List Locale}
    (kept : ∀ locale ∈ locales, locale ∈ others) : Consistent former project others :=
  { consistent with
    rendering := fun place rendering found => by
      have belongs := consistent.rendering place rendering found
      obtain ⟨locale, member, same⟩ := belongs.known
      exact { belongs with known := ⟨locale, kept locale member, same⟩ } }

end Catalog.Consistent

/-! ## Imports -/

theorem ImportTarget.mem_of_localeFor? {target : ImportTarget}
    (hinted : ∀ hint, target.hint? = some hint → hint ∈ target.locales) {first : String}
    {locale : Locale} (located : target.localeFor? first = some locale) :
    locale ∈ target.locales := by
  unfold localeFor? at located
  cases hint : target.hint? with
  | none =>
    rw [hint, Option.none_or] at located
    exact List.mem_of_find?_eq_some located
  | some given =>
    rw [hint, Option.some_or] at located
    exact Option.some.inj located ▸ hinted given hint

theorem ImportRules.consistent_run {rules : ImportRules} {target : ImportTarget} {document : Json}
    {made : Import} (imported : rules.run target document = .ok made)
    (hinted : ∀ hint, target.hint? = some hint → hint ∈ target.locales) :
    Catalog.Consistent made.categories target.owner target.locales := by
  obtain ⟨checked, leaves, placements, -, placed, rfl⟩ := run_eq_ok_iff.1 imported
  have records := Import.records_foldl_add rules target placements
  have marked := Import.marked_foldl_add rules target placements
  have landed : ∀ placement ∈ placements, placement.categoryKey ≠ "" ∧
      ∃ locale ∈ target.locales, locale.id = placement.localeId := by
    intro placement member
    obtain ⟨path, -, located⟩ := exists_result_of_forall₂ placed.flip member
    obtain ⟨first, keys, locale, -, resolved, atSlot⟩ := ImportTarget.lands_of_place located
    exact ⟨Placement.categoryKey_ne_empty atSlot, locale,
      ImportTarget.mem_of_localeFor? hinted resolved, (Placement.localeId_eq atSlot).symm⟩
  have complete : target.owner.Complete := (ImportTarget.check_eq_ok_iff.1 checked).2.1
  constructor
  case category =>
    intro key category found
    obtain ⟨placement, member, rfl, bare⟩ := marked.category key category found
    exact {
      key_eq := records.category_key _ _ found
      key_ne := (landed placement member).1
      projectId := congrArg Category.projectId bare
      createdBy := congrArg Category.createdBy bare
      organizationId := congrArg Category.organizationId bare
      complete }
  case phrase =>
    rintro ⟨categoryKey, phraseKey⟩ phrase found
    have heading := marked.phrase categoryKey phraseKey phrase found
    have suitable := records.suitable categoryKey phraseKey
    rw [Import.examplesAt_of_phraseAt? found] at suitable
    exact {
      key_eq := congrArg Phrase.key heading
      createdBy := congrArg Phrase.createdBy heading
      organizationId := congrArg Phrase.organizationId heading
      complete
      suitable }
  case rendering =>
    rintro ⟨⟨categoryKey, phraseKey⟩, localeId⟩ rendering found
    have heading := marked.rendering categoryKey phraseKey localeId rendering found
    have placed := records.rendering_iff categoryKey phraseKey localeId
    obtain ⟨placement, member, -, -, rfl⟩ := placed.1 (Option.isSome_iff_exists.2 ⟨_, found⟩)
    exact {
      localeId_eq := congrArg Rendering.localeId heading
      known := (landed placement member).2
      createdBy := congrArg Rendering.createdBy heading
      organizationId := congrArg Rendering.organizationId heading
      complete }

/-! ## Stores -/

namespace Store

inductive Step : Store → Store → Prop
  | addLocale (store : Store) (locale : Locale) : Step store (store.addLocale locale).2
  | apply (store : Store) (rules : ImportRules) (hint? : Option Locale) (origin : Origin)
      (document : Json) (made : Import) (hinted : ∀ hint, hint? = some hint → hint ∈ store.locales)
      (imported : rules.run ⟨store.locales, hint?, store.project, origin⟩ document = .ok made) :
      Step store (store.apply made.categories).2

def Reachable (store : Store) : Prop :=
  ∃ project, Relation.ReflTransGen Step (Store.new project) store

structure Sound (store : Store) : Prop where
  distinct : (store.locales.map (·.id)).Nodup
  consistent : Catalog.Consistent store.categories store.project store.locales

theorem sound_new (project : Project) : (Store.new project).Sound where
  distinct := List.nodup_nil
  consistent := Catalog.Consistent.empty

theorem Sound.addLocale {store : Store} (sound : store.Sound) (locale : Locale) :
    (store.addLocale locale).2.Sound := by
  unfold Store.addLocale
  split
  · exact sound
  · rename_i fresh
    rw [Bool.not_eq_true, List.any_eq_false] at fresh
    constructor
    · rw [List.map_append, List.nodup_append]
      refine ⟨sound.distinct, List.nodup_singleton _, ?_⟩
      rintro _ present _ added rfl
      obtain ⟨other, member, same⟩ := List.mem_map.1 present
      obtain rfl := List.mem_singleton.1 added
      exact fresh other member (by simpa using same)
    · exact sound.consistent.mono fun _ member => List.mem_append_left _ member

theorem Step.sound {store after : Store} (step : Step store after) (sound : store.Sound) :
    after.Sound := by
  cases step with
  | addLocale locale => exact sound.addLocale locale
  | apply rules hint? origin document made hinted imported =>
    exact ⟨sound.distinct, sound.consistent.merge (ImportRules.consistent_run imported hinted)⟩

/-- Whatever locales are added and whatever is imported, a store stays sound. -/
theorem sound_of_reachable {store : Store} (reachable : store.Reachable) : store.Sound := by
  obtain ⟨project, steps⟩ := reachable
  induction steps with
  | refl => exact sound_new project
  | tail _ step sound => exact step.sound sound

theorem reachable_withLocales (project : Project) (locales : List Locale) :
    ((Store.new project).withLocales locales).Reachable := by
  refine ⟨project, ?_⟩
  induction locales using List.reverseRecOn with
  | nil => exact .refl
  | append_singleton locales locale ih =>
    rw [withLocales, List.foldl_append]
    exact .tail ih (.addLocale _ locale)

section Guest

open ImportRules (standard sampleTarget run_eq_ok_iff)

def guestDocument : Json := .object [("en", .object [
  ("menu", .object [("greet", .string "Hello \x7b\x7bname\x7d\x7d")])])]

def guestImport : Import := Import.add standard sampleTarget Import.empty
  ⟨"en-GB", "menu", "menu", "greet", none, "Hello \x7b\x7bname\x7d\x7d"⟩

theorem guestDocument_run : standard.run sampleTarget guestDocument = .ok guestImport := by
  have sorted : sampleTarget.paths [["en", "menu", "greet", "Hello \x7b\x7bname\x7d\x7d"]] =
      [["en", "menu", "greet", "Hello \x7b\x7bname\x7d\x7d"]] := List.mergeSort_singleton _
  refine run_eq_ok_iff.2 ⟨rfl, [["en", "menu", "greet", _]], [_], rfl, ?_, rfl⟩
  rw [sorted]
  exact mapM_eq_ok_iff.1 rfl

theorem guestImport_sound :
    let store := (Store.new sampleTarget.owner).withLocales Locale.starters
    let after := (store.apply guestImport.categories).2
    after.Reachable ∧ after.Sound ∧
      (Catalog.renderingAt? after.categories (("menu", "greet"), "en-GB")).isSome := by
  obtain ⟨project, steps⟩ := reachable_withLocales sampleTarget.owner Locale.starters
  have reachable : Reachable (Store.apply _ guestImport.categories).2 :=
    ⟨project, steps.tail (.apply _ standard none .imported guestDocument guestImport
      (fun _ given => nomatch given) guestDocument_run)⟩
  exact ⟨reachable, sound_of_reachable reachable, rfl⟩

end Guest

end Store

end Phrasebook
