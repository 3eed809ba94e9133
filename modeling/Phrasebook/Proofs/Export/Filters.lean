import Phrasebook.Catalog.Store
import Phrasebook.Proofs.Export.Listing

namespace Phrasebook

def Locale.passes (locale : Locale) (filter : List String) : Bool :=
  filter.isEmpty || filter.any locale.isNamed

theorem Locale.isNamed_code {locale : Locale} {code : LocaleCode} (coded : locale.code code ≠ "") :
    locale.isNamed (locale.code code) = true := by
  cases code <;> simp_all [isNamed, aliases, Locale.code]

theorem ExportOptions.selects_eq_passes (options : ExportOptions) {locale : Locale}
    (coded : locale.code options.localeCode ≠ "") :
    options.selects locale (locale.code options.localeCode) =
      locale.passes options.localeFilter := by
  rw [selects, Locale.passes]
  congr 2
  funext entry
  by_cases same : entry = locale.code options.localeCode
  · simp [same, Locale.isNamed_code coded]
  · simp [same]

theorem Overview.export_eq_ok_iff_foldl (overview : Overview) (options : ExportOptions)
    (outline : Outline) : overview.export options = .ok outline ↔
      (∀ entry ∈ overview.shares.entries, entry.2.locale.code options.localeCode ≠ "") ∧
        outline = (overview.shares.entries.filter
            (·.2.locale.passes options.localeFilter)).foldl (fun outline entry =>
          outline.graft [entry.2.locale.code options.localeCode]
            (Export.ofShare entry.2 entry.1 options.contextSeparator)) Trie.blank := by
  rw [Overview.export, Export.foldlM_addShare, List.foldl_filter]
  refine and_congr_right fun coded => Eq.congr_right ?_
  refine List.foldl_ext _ _ _ fun outline entry member => ?_
  rw [options.selects_eq_passes (coded entry member)]

namespace Store

variable {store : Store}

theorem locales_overview (distinct : (store.locales.map (·.id)).Nodup) (filter : List String) :
    (store.overview filter).locales =
      (store.overview []).locales.filter fun _ locale => locale.passes filter := by
  have found : ∀ filter id locale, (store.overview filter).locales.get? id = some locale ↔
      locale ∈ store.locales.filter (·.passes filter) ∧ locale.id = id := by
    intro filter id locale
    exact Dictionary.get?_ofList_map_iff (distinct.sublist (List.filter_sublist.map _))
  refine Dictionary.ext_get? fun id => Option.ext fun locale => ?_
  rw [Dictionary.get?_filter, Option.filter_eq_some_iff, found, found, List.mem_filter,
    List.mem_filter]
  simp [Locale.passes, and_right_comm]

theorem shares_overview (distinct : (store.locales.map (·.id)).Nodup) (filter : List String) :
    (store.overview filter).shares =
      (store.overview []).shares.filter fun _ share => share.locale.passes filter := by
  have found : ∀ filter id share, (store.overview filter).shares.get? id = some share ↔
      (store.overview filter).locales.get? id = some share.locale ∧
        (store.overview []).tree.holdsBelow id = true ∧
        share.categories = (store.overview []).categories.values.filter (·.holds id) :=
    fun _ _ _ => Overview.get?_shares_ofLists
  refine Dictionary.ext_get? fun id => Option.ext fun share => ?_
  rw [Dictionary.get?_filter, Option.filter_eq_some_iff, found, found, locales_overview distinct,
    Dictionary.get?_filter, Option.filter_eq_some_iff]
  exact and_right_comm

/-- If an export for a filter succeeds, then so does an export of the overview for this filter, with
the same outline, whether it is for all locales or for the filter once more. No two locales of a
store have one identifier, because `Store.addLocale` refuses the second. -/
theorem export_overview_filter (distinct : (store.locales.map (·.id)).Nodup)
    {options : ExportOptions} {filter : List String} {outline : Outline}
    (exported :
      (store.overview []).export { options with localeFilter := filter } = .ok outline) :
    (store.overview filter).export { options with localeFilter := [] } = .ok outline ∧
      (store.overview filter).export { options with localeFilter := filter } = .ok outline := by
  obtain ⟨coded, rfl⟩ := (Overview.export_eq_ok_iff_foldl _ _ _).1 exported
  have entries : (store.overview filter).shares.entries =
      (store.overview []).shares.entries.filter (·.2.locale.passes filter) :=
    congrArg Dictionary.entries (shares_overview distinct filter)
  have covered : ∀ entry ∈ (store.overview filter).shares.entries,
      entry.2.locale.code options.localeCode ≠ "" := by
    rw [entries]
    exact fun entry member => coded entry (List.mem_filter.1 member).1
  constructor
  · refine (Overview.export_eq_ok_iff_foldl _ _ _).2 ⟨covered, ?_⟩
    have everyone : (store.overview filter).shares.entries.filter (·.2.locale.passes []) =
        (store.overview filter).shares.entries := List.filter_eq_self.2 fun _ _ => rfl
    rw [everyone, entries]
  · refine (Overview.export_eq_ok_iff_foldl _ _ _).2 ⟨covered, ?_⟩
    rw [entries, List.filter_filter]
    simp only [Bool.and_self]

def sharedStore : Store where
  project := ⟨"demo", "Demo", "ann", "acme"⟩
  locales := Locale.starters
  categories := (∅ : Dictionary Category).insert "people.near" Overview.sharedCategory

theorem sharedStore_export_overview_filter :
    let filter := ["", "en-US", "en-AU"]
    (sharedStore.locales.map (·.id)).Nodup ∧ ∃ outline,
      (sharedStore.overview []).export { ExportOptions.standard with localeFilter := filter } =
        .ok outline ∧
      (sharedStore.overview filter).export .standard = .ok outline ∧
      (sharedStore.overview filter).export
        { ExportOptions.standard with localeFilter := filter } = .ok outline ∧
      outline.labelAt? ["en", "people", "near", "friend_male"] = some "Buddy" := by
  intro filter
  have distinct : (sharedStore.locales.map (·.id)).Nodup := by decide
  have keyed : ∀ category ∈ sharedStore.categories.values, category.key ≠ "" := by decide
  obtain ⟨outline, exported, shown⟩ : ∃ outline, (sharedStore.overview []).export
      { ExportOptions.standard with localeFilter := filter } = .ok outline ∧
        outline.labelAt? ["en", "people", "near", "friend_male"] = some "Buddy" :=
    ⟨_, (Overview.export_eq_ok_iff keyed _ _).2 ⟨by decide, rfl⟩, by decide⟩
  obtain ⟨early, twice⟩ := export_overview_filter distinct exported
  exact ⟨distinct, outline, exported, early, twice, shown⟩

end Store

end Phrasebook
