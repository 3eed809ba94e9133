import Phrasebook.Proofs.Export.Listing

namespace Phrasebook

namespace Export

theorem foldlM_addShare_eq_error_iff (options : ExportOptions)
    (shares : List (String × LocaleShare)) (outline : Outline) (fault : OutlineFault) :
    shares.foldlM (addShare options) outline = .error fault ↔
      ∃ entry, shares.find? (·.2.locale.code options.localeCode = "") = some entry ∧
        fault = .emptyLocaleCode entry.1 := by
  induction shares generalizing outline with
  | nil => simp [pure, Except.pure]
  | cons entry rest ih =>
    obtain ⟨localeId, share⟩ := entry
    rw [List.foldlM_cons]
    by_cases blank : share.locale.code options.localeCode = ""
    · simp only [addShare, blank, if_true, bind, Except.bind, List.find?_cons, decide_true,
        Option.some.injEq, Except.error.injEq, exists_eq_left']
      exact eq_comm
    · rw [List.find?_cons_of_neg (by simpa using blank)]
      by_cases selected : options.selects share.locale (share.locale.code options.localeCode) <;>
        simp [addShare, blank, selected, bind, Except.bind, ih]

end Export

namespace Overview

variable {project : Project} {locales : List Locale} {categories : List Category}

/-- A locale that has a rendering lacks the code by which locales are named. -/
structure Nameless (overview : Overview) (options : ExportOptions) (locale : Locale) : Prop where
  member : locale ∈ overview.locales.values
  held : ∃ category ∈ overview.categories.values, category.holds locale.id = true
  blank : locale.code options.localeCode = ""

theorem Nameless.eq_of_id_eq {options : ExportOptions} {locale other : Locale}
    (nameless : (ofLists project locales categories).Nameless options locale)
    (otherNameless : (ofLists project locales categories).Nameless options other)
    (same : locale.id = other.id) : locale = other := by
  obtain ⟨id, found⟩ := Dictionary.mem_values_iff.1 nameless.member
  obtain ⟨otherId, otherFound⟩ := Dictionary.mem_values_iff.1 otherNameless.member
  obtain ⟨-, rfl⟩ := get?_locales_ofLists found
  obtain ⟨-, rfl⟩ := get?_locales_ofLists otherFound
  rw [same] at found
  exact Option.some.inj (found.symm.trans otherFound)

theorem nameless_iff (keyed : ∀ category ∈ categories, category.key ≠ "") {options : ExportOptions}
    {locale : Locale} : (ofLists project locales categories).Nameless options locale ↔
      ∃ share, (ofLists project locales categories).shares.get? locale.id = some share ∧
        share.locale = locale ∧ locale.code options.localeCode = "" := by
  constructor
  · rintro ⟨member, held, blank⟩
    obtain ⟨id, found⟩ := Dictionary.mem_values_iff.1 member
    obtain ⟨-, rfl⟩ := get?_locales_ofLists found
    exact ⟨⟨locale, _⟩, get?_shares_ofLists.2 ⟨found, (holdsBelow_ofLists keyed _).2 held, rfl⟩,
      rfl, blank⟩
  · rintro ⟨share, shared, rfl, blank⟩
    obtain ⟨found, holds, -⟩ := get?_shares_ofLists.1 shared
    exact ⟨Dictionary.mem_values_iff.2 ⟨_, found⟩, (holdsBelow_ofLists keyed _).1 holds, blank⟩

theorem export_eq_error_iff (keyed : ∀ category ∈ categories, category.key ≠ "")
    (options : ExportOptions) (fault : OutlineFault) :
    (ofLists project locales categories).export options = .error fault ↔
      ∃ locale, (ofLists project locales categories).Nameless options locale ∧
        fault = .emptyLocaleCode locale.id ∧
        ∀ other, (ofLists project locales categories).Nameless options other →
          locale.id ≤ other.id := by
  have walk := (ofLists project locales categories).shares.ascending
  rw [Overview.export, Export.foldlM_addShare_eq_error_iff]
  simp only [walk.find?_eq_some_iff]
  constructor
  · rintro ⟨⟨id, share⟩, ⟨member, blank, least⟩, rfl⟩
    have shared := Dictionary.mem_entries_iff.1 member
    obtain ⟨found, -⟩ := get?_shares_ofLists.1 shared
    obtain ⟨-, rfl⟩ := get?_locales_ofLists found
    refine ⟨share.locale, (nameless_iff keyed).2 ⟨share, shared, rfl, of_decide_eq_true blank⟩,
      rfl, fun other nameless => ?_⟩
    obtain ⟨otherShare, otherShared, rfl, otherBlank⟩ := (nameless_iff keyed).1 nameless
    exact least _ (Dictionary.mem_entries_iff.2 otherShared) (decide_eq_true otherBlank)
  · rintro ⟨locale, nameless, rfl, least⟩
    obtain ⟨share, shared, rfl, blank⟩ := (nameless_iff keyed).1 nameless
    refine ⟨(_, share), ⟨Dictionary.mem_entries_iff.2 shared, decide_eq_true blank, ?_⟩, rfl⟩
    rintro ⟨id, other⟩ member otherBlank
    have otherShared := Dictionary.mem_entries_iff.1 member
    obtain ⟨found, -⟩ := get?_shares_ofLists.1 otherShared
    obtain ⟨-, rfl⟩ := get?_locales_ofLists found
    exact least other.locale
      ((nameless_iff keyed).2 ⟨other, otherShared, rfl, of_decide_eq_true otherBlank⟩)

theorem exists_export_eq_error_iff (keyed : ∀ category ∈ categories, category.key ≠ "")
    (options : ExportOptions) :
    (∃ localeId, (ofLists project locales categories).export options =
      .error (.emptyLocaleCode localeId)) ↔
        ∃ locale, (ofLists project locales categories).Nameless options locale := by
  constructor
  · rintro ⟨localeId, failed⟩
    obtain ⟨locale, nameless, -⟩ := (export_eq_error_iff keyed options _).1 failed
    exact ⟨locale, nameless⟩
  · rintro ⟨locale, nameless⟩
    cases result : (ofLists project locales categories).export options with
    | ok outline =>
      obtain ⟨coded, -⟩ := (export_eq_ok_iff keyed options outline).1 result
      exact absurd nameless.blank (coded locale nameless.member nameless.held)
    | error fault =>
      obtain ⟨first, -, rfl, -⟩ := (export_eq_error_iff keyed options fault).1 result
      exact ⟨first.id, rfl⟩

def Lacking (overview : Overview) (options : ExportOptions) (locale : Locale) : Prop :=
  overview.Nameless options locale ∧
    options.selects locale (locale.code options.localeCode) = true

/-- An export fails for want of a code if and only if a locale that is selected lacks it, and then
its fault names such a locale: one that is left out never makes an export fail. -/
structure FailsBySelection (overview : Overview) (options : ExportOptions) : Prop where
  fails_iff : (∃ localeId, overview.export options = .error (.emptyLocaleCode localeId)) ↔
    ∃ locale, overview.Lacking options locale
  selected : ∀ localeId, overview.export options = .error (.emptyLocaleCode localeId) →
    ∃ locale, overview.Lacking options locale ∧ locale.id = localeId

/-- An export fails for the first locale that has a rendering but no code, selected or not. So it
fails by selection if and only if there is no such locale or the first of them is selected. -/
theorem export_fails_for_nameless (keyed : ∀ category ∈ categories, category.key ≠ "")
    (options : ExportOptions) :
    (∀ fault, (ofLists project locales categories).export options = .error fault ↔
      ∃ locale, (ofLists project locales categories).Nameless options locale ∧
        fault = .emptyLocaleCode locale.id ∧
        ∀ other, (ofLists project locales categories).Nameless options other →
          locale.id ≤ other.id) ∧
    ((ofLists project locales categories).FailsBySelection options ↔
      ∀ locale, (ofLists project locales categories).Nameless options locale →
        (∀ other, (ofLists project locales categories).Nameless options other →
          locale.id ≤ other.id) →
        options.selects locale (locale.code options.localeCode) = true) := by
  refine ⟨export_eq_error_iff keyed options, ?_⟩
  constructor
  · intro bySelection locale nameless least
    have failed := (export_eq_error_iff keyed options _).2 ⟨locale, nameless, rfl, least⟩
    obtain ⟨other, ⟨otherNameless, selected⟩, same⟩ := bySelection.selected locale.id failed
    exact otherNameless.eq_of_id_eq nameless same ▸ selected
  · intro firstSelected
    -- The fault names the first locale without a code, which is selected.
    have selected : ∀ localeId, (ofLists project locales categories).export options =
        .error (.emptyLocaleCode localeId) → ∃ locale,
          (ofLists project locales categories).Lacking options locale ∧ locale.id = localeId := by
      intro localeId failed
      obtain ⟨locale, nameless, fault, least⟩ := (export_eq_error_iff keyed options _).1 failed
      obtain rfl := OutlineFault.emptyLocaleCode.inj fault
      exact ⟨locale, ⟨nameless, firstSelected locale nameless least⟩, rfl⟩
    refine ⟨⟨?_, ?_⟩, selected⟩
    · rintro ⟨localeId, failed⟩
      obtain ⟨locale, lacking, -⟩ := selected localeId failed
      exact ⟨locale, lacking⟩
    · rintro ⟨locale, nameless, -⟩
      exact (exists_export_eq_error_iff keyed options).2 ⟨locale, nameless⟩

def klingon : Locale := ⟨"tlh", "", "", "", "tlh", "tlh", []⟩

def bilingualMenu : Category :=
  let owner : Project := ⟨"demo", "Demo", "ann", "acme"⟩
  let rendering (localeId text : String) : Rendering :=
    { Rendering.new localeId .imported owner with text }
  let phrase : Phrase :=
    { Phrase.new "open" "open" owner with
      renderings := Dictionary.ofList [
        ("en-GB", rendering "en-GB" "Open"), ("tlh", rendering "tlh" "poSmoH")] }
  { Category.new "menu" "menu" owner with
    phrases := (∅ : Dictionary Phrase).insert "open" phrase }

def bilingualOverview : Overview :=
  ofLists ⟨"demo", "Demo", "ann", "acme"⟩ [⟨"en-GB", "en", "", "", "en-GB", "en-GB", []⟩, klingon]
    [bilingualMenu]

theorem bilingualMenu_keyed : ∀ category ∈ [bilingualMenu], category.key ≠ "" := by decide

theorem nameless_bilingualOverview_iff (filter : List String) {locale : Locale} :
    bilingualOverview.Nameless { ExportOptions.standard with localeFilter := filter } locale ↔
      locale = klingon := by
  constructor
  · rintro ⟨member, -, blank⟩
    have coded : ∀ locale ∈ bilingualOverview.locales.values,
        locale.code .iso1 = "" → locale = klingon := by
      decide
    exact coded locale member blank
  · rintro rfl
    exact ⟨by decide, by decide, rfl⟩

theorem bilingualOverview_export_fails :
    bilingualOverview.export .standard = .error (.emptyLocaleCode "tlh") ∧
      bilingualOverview.FailsBySelection .standard := by
  obtain ⟨faults, bySelection⟩ : _ ∧ (bilingualOverview.FailsBySelection .standard ↔ _) :=
    export_fails_for_nameless bilingualMenu_keyed .standard
  refine ⟨(faults _).2 ⟨klingon, (nameless_bilingualOverview_iff []).2 rfl, rfl, ?_⟩,
    bySelection.2 fun locale _ _ => rfl⟩
  intro other nameless
  obtain rfl := (nameless_bilingualOverview_iff []).1 nameless
  exact String.le_refl _

theorem bilingualOverview_not_failsBySelection :
    ¬bilingualOverview.FailsBySelection
      { ExportOptions.standard with localeFilter := ["en"] } := by
  intro bySelection
  have failed := (exists_export_eq_error_iff bilingualMenu_keyed _).2
    ⟨klingon, (nameless_bilingualOverview_iff ["en"]).2 rfl⟩
  obtain ⟨locale, nameless, selected⟩ := bySelection.fails_iff.1 failed
  obtain rfl := (nameless_bilingualOverview_iff ["en"]).1 nameless
  exact absurd selected (by decide)

end Overview

end Phrasebook
