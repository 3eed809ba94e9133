import Mathlib.Data.List.Nodup
import Phrasebook.Catalog.Store
import Phrasebook.Proofs.Export.Written
import Phrasebook.Proofs.Import.Key
import Phrasebook.Proofs.Import.Slots

namespace Phrasebook

/-! ## New stores -/

namespace Store

theorem withLocales_append (store : Store) {locales : List Locale}
    (distinct : ((store.locales ++ locales).map (·.id)).Nodup) :
    store.withLocales locales = { store with locales := store.locales ++ locales } := by
  induction locales generalizing store with
  | nil => simp [withLocales]
  | cons locale rest ih =>
    have fresh : store.locales.any (·.id == locale.id) = false := by
      rw [List.any_eq_false]
      intro other member same
      rw [List.map_append, List.nodup_append] at distinct
      exact distinct.2.2 other.id (List.mem_map_of_mem member) locale.id
        (List.mem_map_of_mem List.mem_cons_self) (eq_of_beq same)
    have added : (store.addLocale locale).2 =
        { store with locales := store.locales ++ [locale] } := by
      rw [addLocale, fresh]
      rfl
    have step : store.withLocales (locale :: rest) =
        (store.addLocale locale).2.withLocales rest := rfl
    rw [step, added, ih]
    · simp
    · simpa using distinct

end Store

namespace Import

def shown (made : Import) (project : Project) (locales : List Locale) (options : ExportOptions) :
    Except OutlineFault Json := do
  let store := (((Store.new project).withLocales locales).apply made.categories).2
  let outline ← (store.overview []).export options
  outline.document

def overview (made : Import) (project : Project) (locales : List Locale) : Overview :=
  Overview.ofLists project locales made.categories.values

theorem shown_eq (made : Import) (project : Project) {locales : List Locale}
    (distinct : (locales.map (·.id)).Nodup) (options : ExportOptions) :
    made.shown project locales options =
      ((made.overview project locales).export options).bind Outline.document := by
  have filled : (Store.new project).withLocales locales = ⟨project, locales, ∅⟩ := by
    rw [Store.withLocales_append _ (by simpa [Store.new] using distinct)]
    rfl
  have overview : (((Store.new project).withLocales locales).apply made.categories).2.overview [] =
      made.overview project locales := by
    rw [filled, Store.apply, Store.overview, Dictionary.empty_merge, Import.overview]
    simp
  rw [shown, overview]
  rfl

end Import

/-! ## Positions -/

def Category.pathOf (key : String) : List String :=
  if key = rootKey ∨ key = "" then [] else Dotted.split key

theorem Category.path_eq (category : Category) : category.path = pathOf category.key := by
  simp [path, isRoot, pathOf]

def Slot.position (slot : Slot) (code separator : String) : List String :=
  code :: (Category.pathOf slot.categoryKey ++
    [Key.joined slot.phraseKey slot.context? separator])

def Rendering.textFor? (rendering : Rendering) : Option String → Option String
  | none => some rendering.text
  | some context => rendering.contexts.get? context

def Import.textOf? (made : Import) (slot : Slot) : Option String :=
  (made.renderingAt? slot.categoryKey slot.phraseKey slot.localeId).bind
    (·.textFor? slot.context?)

theorem Phrase.mem_listing_iff {phrase : Phrase} {localeId separator : String}
    {path : List String} {text : String} : (path, text) ∈ phrase.listing localeId separator ↔
      ∃ rendering context?, phrase.renderings.get? localeId = some rendering ∧
        rendering.textFor? context? = some text ∧
        path = [Key.joined phrase.key context? separator] := by
  unfold Phrase.listing
  cases phrase.renderings.get? localeId with
  | none => simp
  | some rendering =>
    constructor
    · intro listed
      rcases List.mem_cons.1 listed with same | listed
      · obtain ⟨rfl, rfl⟩ := Prod.mk.inj same
        exact ⟨rendering, none, rfl, rfl, rfl⟩
      · obtain ⟨⟨context, other⟩, member, same⟩ := List.mem_map.1 listed
        obtain ⟨rfl, rfl⟩ := Prod.mk.inj same
        exact ⟨rendering, some context, rfl, Dictionary.mem_entries_iff.1 member, rfl⟩
    · rintro ⟨other, context?, same, found, rfl⟩
      obtain rfl := Option.some.inj same
      cases context? with
      | none =>
        obtain rfl := Option.some.inj found
        exact List.mem_cons_self
      | some context =>
        exact List.mem_cons_of_mem _
          (List.mem_map.2 ⟨(context, text), Dictionary.mem_entries_iff.2 found, rfl⟩)

theorem Listing.mem_under_iff {listing : Listing} {place path : List String} {text : String} :
    (path, text) ∈ listing.under place ↔ ∃ rest, (rest, text) ∈ listing ∧ path = place ++ rest := by
  simp [Listing.under, eq_comm]

namespace Import

variable {made : Import} {inferrer : Inferrer} {placements : List Placement}

theorem Records.mem_categories_listing_iff (records : made.Records inferrer placements)
    {localeId separator : String} {path : List String} {text : String} :
    (path, text) ∈ made.categories.values.flatMap (·.listing localeId separator) ↔
      ∃ slot : Slot, slot.localeId = localeId ∧ made.textOf? slot = some text ∧
        path = Category.pathOf slot.categoryKey ++
          [Key.joined slot.phraseKey slot.context? separator] := by
  rw [List.mem_flatMap]
  constructor
  · rintro ⟨category, member, listed⟩
    obtain ⟨categoryKey, found⟩ := Dictionary.mem_values_iff.1 member
    obtain ⟨rest, below, rfl⟩ := Listing.mem_under_iff.1 listed
    obtain ⟨phrase, phraseMember, spoken⟩ := List.mem_flatMap.1 below
    obtain ⟨phraseKey, phraseFound⟩ := Dictionary.mem_values_iff.1 phraseMember
    obtain ⟨rendering, context?, renderingFound, shown, rfl⟩ := Phrase.mem_listing_iff.1 spoken
    have atPhrase : made.phraseAt? categoryKey phraseKey = some phrase := by
      rw [phraseAt?, found]
      exact phraseFound
    refine ⟨⟨categoryKey, phraseKey, localeId, context?⟩, rfl, ?_, ?_⟩
    · rw [textOf?, renderingAt?, atPhrase, Option.bind_some, renderingFound]
      exact shown
    · rw [Category.path_eq, records.category_key _ _ found, records.phrase_key _ _ _ atPhrase]
  · rintro ⟨⟨categoryKey, phraseKey, localeId, context?⟩, rfl, shown, rfl⟩
    obtain ⟨rendering, atRendering, shown⟩ := Option.bind_eq_some_iff.1 shown
    obtain ⟨phrase, atPhrase, renderingFound⟩ := Option.bind_eq_some_iff.1 atRendering
    obtain ⟨category, found, phraseFound⟩ := Option.bind_eq_some_iff.1 atPhrase
    refine ⟨category, Dictionary.mem_values_iff.2 ⟨_, found⟩, Listing.mem_under_iff.2
      ⟨[Key.joined phraseKey context? separator], List.mem_flatMap.2
        ⟨phrase, Dictionary.mem_values_iff.2 ⟨_, phraseFound⟩, Phrase.mem_listing_iff.2
          ⟨rendering, context?, renderingFound, shown, ?_⟩⟩, ?_⟩⟩
    · rw [records.phrase_key _ _ _ atPhrase]
    · rw [Category.path_eq, records.category_key _ _ found]

theorem Records.overview_categories (records : made.Records inferrer placements)
    (project : Project) (locales : List Locale) :
    (made.overview project locales).categories = made.categories :=
  Dictionary.ofList_values records.category_key

theorem mem_overview_locales (made : Import) (project : Project) {locales : List Locale}
    (distinct : (locales.map (·.id)).Nodup) {locale : Locale} :
    locale ∈ (made.overview project locales).locales.values ↔ locale ∈ locales :=
  Dictionary.mem_values_ofList_map_iff distinct

theorem Records.mem_listing_iff (records : made.Records inferrer placements) (project : Project)
    {locales : List Locale} (distinct : (locales.map (·.id)).Nodup) (code : LocaleCode)
    (separator : String) {path : List String} {text : String} :
    (path, text) ∈ (made.overview project locales).listing ⟨code, [], separator⟩ ↔
      ∃ locale ∈ locales, ∃ slot : Slot, slot.localeId = locale.id ∧
        made.textOf? slot = some text ∧ path = slot.position (locale.code code) separator := by
  have everyone : ∀ locale : Locale,
      (ExportOptions.mk code [] separator).selects locale (locale.code code) = true :=
    fun _ => rfl
  rw [Overview.listing, List.filter_eq_self.2 fun locale _ => everyone locale, List.mem_flatMap,
    records.overview_categories]
  simp only [mem_overview_locales made project distinct, Listing.mem_under_iff,
    records.mem_categories_listing_iff]
  constructor
  · rintro ⟨locale, member, rest, ⟨slot, inLocale, found, rfl⟩, rfl⟩
    exact ⟨locale, member, slot, inLocale, found, rfl⟩
  · rintro ⟨locale, member, slot, inLocale, found, rfl⟩
    exact ⟨locale, member, _, ⟨slot, inLocale, found, rfl⟩, rfl⟩

theorem Records.key_ne_empty (records : made.Records inferrer placements)
    (keyed : ∀ placement ∈ placements, placement.categoryKey ≠ "") :
    ∀ category ∈ made.categories.values, category.key ≠ "" := by
  intro category member
  obtain ⟨categoryKey, found⟩ := Dictionary.mem_values_iff.1 member
  have isThere : (made.categories.get? categoryKey).isSome := by rw [found]; rfl
  obtain ⟨placement, placed, rfl⟩ := (records.category_iff categoryKey).1 isThere
  rw [records.category_key _ _ found]
  exact keyed placement placed

/-- An import can be shown if every locale that has a rendering has a code, and then the document
has the texts of its slots as the listing shows them. -/
theorem Records.shown_eq_ok (records : made.Records inferrer placements) (project : Project)
    (keyed : ∀ placement ∈ placements, placement.categoryKey ≠ "")
    {locales : List Locale} (distinct : (locales.map (·.id)).Nodup) {code : LocaleCode}
    (coded : ∀ locale ∈ locales,
      (∃ category ∈ made.categories.values, category.holds locale.id = true) →
        locale.code code ≠ "") (separator : String) :
    ∃ document, made.shown project locales ⟨code, [], separator⟩ = .ok document ∧
      document.Pruned ∧ ∀ path text, document.filledAt? path = some text ↔
        ((made.overview project locales).listing ⟨code, [], separator⟩).Shows path text := by
  have locatesCoded : ∀ locale ∈ (made.overview project locales).locales.values,
      (∃ category ∈ (made.overview project locales).categories.values,
        category.holds locale.id = true) → locale.code code ≠ "" := by
    rw [records.overview_categories]
    intro locale member held
    exact coded locale ((mem_overview_locales made project distinct).1 member) held
  have exported : (made.overview project locales).export ⟨code, [], separator⟩ =
      .ok (Trie.ofLabels ((made.overview project locales).listing ⟨code, [], separator⟩)) :=
    (Overview.export_eq_ok_iff (records.key_ne_empty keyed) _ _).2 ⟨locatesCoded, rfl⟩
  have rooted :
      ((made.overview project locales).listing ⟨code, [], separator⟩).textAt [] = "" := by
    by_contra filled
    obtain ⟨locale, _, slot, _, _, same⟩ :=
      (records.mem_listing_iff project distinct code separator).1 (Listing.mem_of_textAt filled)
    exact List.cons_ne_nil _ _ same.symm
  rw [shown_eq made project distinct, exported]
  exact Listing.document_eq_ok rooted

/-! ## Texts of slots -/

theorem Records.renderingAt?_of_mem (records : made.Records inferrer placements)
    {placement : Placement} (member : placement ∈ placements) : ∃ rendering,
      made.renderingAt? placement.categoryKey placement.phraseKey placement.localeId =
        some rendering :=
  Option.isSome_iff_exists.1
    ((records.rendering_iff _ _ _).2 ⟨placement, member, rfl, rfl, rfl⟩)

end Import

theorem Placement.mem_textsIn {placements : List Placement} {slot : Slot} {text : String} :
    text ∈ textsIn placements slot ↔
      ∃ placement ∈ placements, placement.slot = slot ∧ placement.text = text := by
  simp [textsIn, and_assoc]

namespace Import

variable {made : Import} {inferrer : Inferrer} {placements : List Placement}

theorem exists_holds_iff {localeId : String} :
    (∃ category ∈ made.categories.values, category.holds localeId = true) ↔
      ∃ categoryKey phraseKey rendering,
        made.renderingAt? categoryKey phraseKey localeId = some rendering := by
  constructor
  · rintro ⟨category, member, holds⟩
    obtain ⟨phrase, phraseMember, rendering, found⟩ := Category.holds_iff.1 holds
    obtain ⟨categoryKey, atCategory⟩ := Dictionary.mem_values_iff.1 member
    obtain ⟨phraseKey, atPhrase⟩ := Dictionary.mem_values_iff.1 phraseMember
    refine ⟨categoryKey, phraseKey, rendering, ?_⟩
    rw [renderingAt?, phraseAt?, atCategory, Option.bind_some, atPhrase]
    exact found
  · rintro ⟨categoryKey, phraseKey, rendering, atRendering⟩
    obtain ⟨phrase, atPhrase, found⟩ := Option.bind_eq_some_iff.1 atRendering
    obtain ⟨category, atCategory, phraseFound⟩ := Option.bind_eq_some_iff.1 atPhrase
    exact ⟨category, Dictionary.mem_values_iff.2 ⟨_, atCategory⟩, Category.holds_iff.2
      ⟨phrase, Dictionary.mem_values_iff.2 ⟨_, phraseFound⟩, rendering, found⟩⟩

theorem Records.exists_placement (records : made.Records inferrer placements) {slot : Slot}
    {text : String} (found : made.textOf? slot = some text) (filled : text ≠ "") :
    ∃ placement ∈ placements, placement.slot = slot ∧ placement.text = text := by
  rw [← Placement.mem_textsIn]
  obtain ⟨categoryKey, phraseKey, localeId, context?⟩ := slot
  obtain ⟨rendering, atRendering, shown⟩ := Option.bind_eq_some_iff.1 found
  cases context? with
  | none =>
    obtain rfl := Option.some.inj shown
    rw [records.plain_text _ _ _ _ atRendering] at filled ⊢
    cases last : ((Placement.textsIn placements
        ⟨categoryKey, phraseKey, localeId, none⟩).filter (· ≠ "")).getLast? with
    | none =>
      rw [last] at filled
      exact absurd rfl filled
    | some text => exact (List.mem_filter.1 (List.mem_of_getLast? last)).1
  | some context =>
    rw [Rendering.textFor?, records.context_text _ _ _ _ atRendering] at shown
    exact List.mem_of_getLast? shown

theorem getLast?_eq_some_of_forall_eq {texts : List String} {text : String}
    (inside : text ∈ texts) (all : ∀ other ∈ texts, other = text) :
    texts.getLast? = some text := by
  cases last : texts.getLast? with
  | none =>
    rw [List.getLast?_eq_none_iff] at last
    rw [last] at inside
    cases inside
  | some other => rw [all other (List.mem_of_getLast? last)]

theorem Records.textOf?_eq_some (records : made.Records inferrer placements)
    {placement : Placement} (member : placement ∈ placements)
    (agreed : ∀ other ∈ placements, other.slot = placement.slot → other.text = placement.text) :
    made.textOf? placement.slot = some placement.text := by
  obtain ⟨rendering, atRendering⟩ := records.renderingAt?_of_mem member
  have all : ∀ text ∈ Placement.textsIn placements placement.slot, text = placement.text := by
    intro text inside
    obtain ⟨other, otherMember, same, rfl⟩ := Placement.mem_textsIn.1 inside
    exact agreed other otherMember same
  have inside : placement.text ∈ Placement.textsIn placements placement.slot :=
    Placement.mem_textsIn.2 ⟨placement, member, rfl, rfl⟩
  have found : made.textOf? placement.slot = rendering.textFor? placement.context? := by
    rw [textOf?, Placement.slot, atRendering, Option.bind_some]
  rw [found]
  rw [Placement.slot] at all inside
  cases context : placement.context? with
  | none =>
    rw [context] at all inside
    rw [Rendering.textFor?, records.plain_text _ _ _ _ atRendering]
    -- A plain rendering without a filled text has the empty one, which is that of the placement.
    by_cases empty : placement.text = ""
    · have nothing : (Placement.textsIn placements ⟨placement.categoryKey, placement.phraseKey,
          placement.localeId, none⟩).filter (· ≠ "") = [] := by
        rw [List.filter_eq_nil_iff]
        intro text member
        simp [all text member, empty]
      rw [nothing, empty]
      rfl
    · have last : ((Placement.textsIn placements ⟨placement.categoryKey, placement.phraseKey,
          placement.localeId, none⟩).filter (· ≠ "")).getLast? = some placement.text :=
        getLast?_eq_some_of_forall_eq (List.mem_filter.2 ⟨inside, decide_eq_true empty⟩)
          fun other otherInside => all other (List.mem_filter.1 otherInside).1
      rw [last, Option.getD_some]
  | some context =>
    rw [context] at all inside
    rw [Rendering.textFor?, records.context_text _ _ _ _ atRendering]
    exact getLast?_eq_some_of_forall_eq inside all

end Import

end Phrasebook
