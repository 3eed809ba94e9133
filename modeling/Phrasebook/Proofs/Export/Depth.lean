import Phrasebook.Proofs.Document.Members
import Phrasebook.Proofs.Import.Faithful

namespace Phrasebook

/-! ## Levels -/

def Outline.Within (outline : Outline) (levels : Nat) : Prop :=
  ∀ path, (outline.get? path).isSome → path.length ≤ levels

theorem Outline.within_ofLabels_iff (listing : Listing) (levels : Nat) :
    Outline.Within (Trie.ofLabels listing) levels ↔
      ∀ entry ∈ listing, entry.1.length ≤ levels := by
  simp only [Within, Trie.isSome_get?, Trie.isSome_labelAt?_ofLabels]
  constructor
  · intro within entry member
    exact within entry.1 (.inr ⟨entry, member, List.prefix_rfl⟩)
  · rintro bounded path (rfl | ⟨entry, member, leads⟩)
    · exact Nat.zero_le _
    · exact leads.length_le.trans (bounded entry member)

namespace LeafPath

def folders (path : LeafPath) : List String := path.tail.dropLast.dropLast

/-- The level of an outline on which a leaf stands: below the locale and the category. -/
def level (path : LeafPath) : Nat := (Category.pathOf (categoryKeyOf path.folders)).length + 2

end LeafPath

def Overview.Selects (overview : Overview) (options : ExportOptions) (localeId : String) : Prop :=
  ∃ locale ∈ overview.locales.values, locale.id = localeId ∧
    options.selects locale (locale.code options.localeCode) = true

def ImportTarget.localeIdAt? (target : ImportTarget) (path : LeafPath) : Option String :=
  (path.head?.bind target.localeFor?).map (·.id)

theorem Category.length_pathOf_categoryKeyOf_le (folders : List String) :
    (pathOf (categoryKeyOf folders)).length ≤ folders.length + Dotted.dots folders := by
  unfold categoryKeyOf pathOf
  by_cases none : folders = []
  · subst none
    decide
  · by_cases blank : Dotted.join folders = ""
    · rw [if_pos blank]
      simp
    · rw [if_neg blank]
      split
      · exact Nat.zero_le _
      · exact (Dotted.length_split_join none).le

namespace ImportTarget

variable {target : ImportTarget} {separator : String} {path : LeafPath} {placement : Placement}

theorem level_eq_of_place (placed : target.place separator path = .ok placement) :
    path.level = (Category.pathOf placement.categoryKey).length + 2 := by
  obtain ⟨first, keys, text, locale, rfl, -, rfl⟩ := exists_ofKeys_of_place placed
  rw [Placement.categoryKey_ofKeys, LeafPath.level, LeafPath.folders, List.tail_cons,
    List.dropLast_concat]

theorem localeIdAt?_of_place (placed : target.place separator path = .ok placement) :
    target.localeIdAt? path = some placement.localeId := by
  obtain ⟨first, keys, text, locale, rfl, located, rfl⟩ := exists_ofKeys_of_place placed
  rw [localeIdAt?, List.head?_cons, Option.bind_some, located]
  rfl

theorem level_le {document : Json} {limit : Nat} {leaves : List LeafPath}
    (nested : 0 < limit) (flat : document.leaves limit = .ok leaves)
    (member : path ∈ target.paths leaves) :
    path.level ≤ limit + 1 + Dotted.dots path.folders := by
  have length : path.length ≤ limit + 2 := by
    rw [paths, LeafPath.sort, List.mem_mergeSort] at member
    cases hint : target.hint? with
    | none =>
      rw [hint] at member
      exact (Json.length_le_of_mem_leaves (Nat.zero_le limit) flat member).trans (Nat.le_succ _)
    | some locale =>
      rw [hint] at member
      obtain ⟨leaf, inside, rfl⟩ := List.mem_map.1 member
      exact Nat.succ_le_succ (Json.length_le_of_mem_leaves (Nat.zero_le limit) flat inside)
  have segments := Category.length_pathOf_categoryKeyOf_le path.folders
  have folders : path.folders.length = path.length - 3 := by
    simp [LeafPath.folders]
    omega
  rw [LeafPath.level]
  omega

end ImportTarget

/-! ## Imports -/

theorem Store.categories_withLocales (store : Store) (locales : List Locale) :
    (store.withLocales locales).categories = store.categories := by
  induction locales generalizing store with
  | nil => rfl
  | cons locale rest ih =>
    have step : (store.addLocale locale).2.categories = store.categories := by
      unfold addLocale
      split <;> rfl
    exact (ih _).trans step

namespace Import

def stored (made : Import) (project : Project) (locales : List Locale) : Store :=
  (((Store.new project).withLocales locales).apply made.categories).2

variable {made : Import} {inferrer : Inferrer} {placements : List Placement}

theorem categories_stored (made : Import) (project : Project) (locales : List Locale) :
    (made.stored project locales).categories = made.categories := by
  rw [stored, Store.apply, Store.categories_withLocales]
  exact Dictionary.empty_merge _ _

theorem Records.categories_overview (records : made.Records inferrer placements)
    (project : Project) (locales : List Locale) (filter : List String) :
    ((made.stored project locales).overview filter).categories = made.categories := by
  rw [Store.overview, categories_stored]
  exact Dictionary.ofList_values records.category_key

theorem Records.listing_length_le_iff (records : made.Records inferrer placements)
    {overview : Overview} (same : overview.categories = made.categories)
    (options : ExportOptions) (levels : Nat) :
    (∀ entry ∈ overview.listing options, entry.1.length ≤ levels) ↔
      ∀ placement ∈ placements, overview.Selects options placement.localeId →
        (Category.pathOf placement.categoryKey).length + 2 ≤ levels := by
  have length : ∀ (code : String) (folders : List String) (key : String),
      ([code] ++ (folders ++ [key])).length = folders.length + 2 := by
    simp
  constructor
  · rintro bounded placement member ⟨locale, inside, ofLocale, selected⟩
    obtain ⟨rendering, found⟩ := records.renderingAt?_of_mem member
    have text : made.textOf?
        ⟨placement.categoryKey, placement.phraseKey, placement.localeId, none⟩ =
          some rendering.text := by
      rw [textOf?, found]
      rfl
    have below : (_, rendering.text) ∈ made.categories.values.flatMap
        (·.listing locale.id options.contextSeparator) :=
      records.mem_categories_listing_iff.2 ⟨_, ofLocale.symm, text, rfl⟩
    have listed := bounded _ (List.mem_flatMap.2 ⟨locale, List.mem_filter.2 ⟨inside, selected⟩,
      Listing.mem_under_iff.2 ⟨_, same ▸ below, rfl⟩⟩)
    rwa [length] at listed
  · rintro bounded ⟨path, text⟩ listed
    obtain ⟨locale, chosen, below⟩ := List.mem_flatMap.1 listed
    obtain ⟨inside, selected⟩ := List.mem_filter.1 chosen
    obtain ⟨rest, atRest, rfl⟩ := Listing.mem_under_iff.1 below
    rw [same] at atRest
    obtain ⟨slot, ofLocale, found, rfl⟩ := records.mem_categories_listing_iff.1 atRest
    obtain ⟨rendering, atRendering, -⟩ := Option.bind_eq_some_iff.1 found
    obtain ⟨placement, member, atCategory, -, atLocale⟩ :=
      (records.rendering_iff _ _ _).1 (Option.isSome_iff_exists.2 ⟨rendering, atRendering⟩)
    have level := bounded placement member
      ⟨locale, inside, (atLocale.trans ofLocale).symm, selected⟩
    rw [atCategory] at level
    exact (length _ _ _).trans_le level

end Import

/-- The outline of an import goes as deep as its leaves in selected locales. The bound on the
nesting of the document allows a leaf to stand one level below it, and each dot in the folders of
the leaf adds one more. -/
theorem ImportRules.run_export_within {rules : ImportRules} {target : ImportTarget}
    {document : Json} {made : Import} (imported : rules.run target document = .ok made)
    {project : Project} {locales : List Locale} {filter : List String} {options : ExportOptions}
    {outline : Outline}
    (exported : ((made.stored project locales).overview filter).export options = .ok outline) :
    ∃ leaves, document.leaves rules.maxDepth = .ok leaves ∧
      (∀ levels, outline.Within levels ↔ ∀ path ∈ target.paths leaves, ∀ localeId,
        target.localeIdAt? path = some localeId →
          ((made.stored project locales).overview filter).Selects options localeId →
            path.level ≤ levels) ∧
      ∀ path ∈ target.paths leaves,
        path.level ≤ rules.maxDepth + 1 + Dotted.dots path.folders := by
  obtain ⟨checked, leaves, placements, flat, placed, folded⟩ := run_eq_ok_iff.1 imported
  obtain ⟨⟨members, rfl, -⟩, -⟩ := ImportTarget.check_eq_ok_iff.1 checked
  have records : made.Records rules.inferrer placements :=
    folded ▸ Import.records_foldl_add rules target placements
  have located : ∀ placement ∈ placements, ∃ path ∈ target.paths leaves,
      target.place rules.contextSeparator path = .ok placement :=
    fun placement member => exists_result_of_forall₂ placed.flip member
  have keyed : ∀ placement ∈ placements, placement.categoryKey ≠ "" := by
    intro placement member
    obtain ⟨path, -, atPath⟩ := located placement member
    exact ImportTarget.categoryKey_ne_empty_of_place atPath
  have storedKeyed : ∀ category ∈ (made.stored project locales).categories.values,
      category.key ≠ "" := by
    rw [Import.categories_stored]
    exact records.key_ne_empty keyed
  obtain ⟨-, listed⟩ := (Overview.export_eq_ok_iff storedKeyed options outline).1 exported
  refine ⟨leaves, flat, fun levels => ?_, fun path member => ?_⟩
  · rw [listed, Outline.within_ofLabels_iff]
    refine (records.listing_length_le_iff (records.categories_overview project locales filter)
      options levels).trans ⟨?_, ?_⟩
    · intro bounded path member localeId ofLocale selected
      obtain ⟨placement, inside, atPath⟩ := exists_result_of_forall₂ placed member
      rw [ImportTarget.localeIdAt?_of_place atPath, Option.some.injEq] at ofLocale
      rw [ImportTarget.level_eq_of_place atPath]
      exact bounded placement inside (ofLocale ▸ selected)
    · intro bounded placement inside selected
      obtain ⟨path, member, atPath⟩ := located placement inside
      rw [← ImportTarget.level_eq_of_place atPath]
      exact bounded path member _ (ImportTarget.localeIdAt?_of_place atPath) selected
  · exact ImportTarget.level_le (Json.leaves_object_eq_ok_iff.1 flat).1 flat member

def dottedFolder : Json :=
  .object [("en", .object [("a.b.c", .object [("k", .string "v")])])]

namespace ImportRules

def shallow : ImportRules := { standard with maxDepth := 3 }

def dottedFolderImport : Import :=
  Import.add shallow sampleTarget Import.empty ⟨"en-GB", "a.b.c", "a.b.c", "k", none, "v"⟩

theorem paths_dottedFolder :
    sampleTarget.paths [["en", "a.b.c", "k", "v"]] = [["en", "a.b.c", "k", "v"]] :=
  List.mergeSort_singleton _

theorem dottedFolder_run : shallow.run sampleTarget dottedFolder = .ok dottedFolderImport := by
  refine run_eq_ok_iff.2 ⟨rfl, [["en", "a.b.c", "k", "v"]], [_], rfl, ?_, rfl⟩
  rw [paths_dottedFolder]
  exact mapM_eq_ok_iff.1 rfl

theorem dottedFolder_export :
    ((dottedFolderImport.stored sampleTarget.owner Locale.starters).overview []).export .standard =
      .ok (Trie.ofLabels [(["en", "a", "b", "c", "k"], "v")]) := by
  refine (Overview.export_eq_ok_iff ?_ _ _).2 ⟨?_, ?_⟩
  · decide
  · decide
  · exact congrArg Trie.ofLabels (by decide)

theorem dottedFolder_run_export_within : ∃ made outline,
    shallow.run sampleTarget dottedFolder = .ok made ∧
      ((made.stored sampleTarget.owner Locale.starters).overview []).export .standard =
        .ok outline ∧ outline.Within 5 := by
  refine ⟨_, _, dottedFolder_run, dottedFolder_export, ?_⟩
  obtain ⟨leaves, flat, within, -⟩ := run_export_within dottedFolder_run dottedFolder_export
  obtain rfl : [["en", "a.b.c", "k", "v"]] = leaves := Except.ok.inj flat
  rw [paths_dottedFolder] at within
  refine (within 5).2 fun path member _ _ _ => ?_
  obtain rfl := List.mem_singleton.1 member
  decide

/-- Objects lie under two keys at most, and yet the outline has a node on the fifth level. -/
theorem dottedFolder_not_within : ∃ made outline,
    shallow.run sampleTarget dottedFolder = .ok made ∧
      ((made.stored sampleTarget.owner Locale.starters).overview []).export .standard =
        .ok outline ∧ ¬outline.Within (shallow.maxDepth + 1) := by
  refine ⟨_, _, dottedFolder_run, dottedFolder_export, fun within => ?_⟩
  exact absurd (within ["en", "a", "b", "c", "k"] rfl) (by decide)

end ImportRules

end Phrasebook
