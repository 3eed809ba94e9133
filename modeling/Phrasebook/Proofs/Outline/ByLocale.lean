import Phrasebook.Proofs.Outline.Locales

namespace Phrasebook

namespace Outline

variable {locales? : Option (List Locale)} {key localeId otherId text : String} {path : List String}
  {outline : Outline} {start merged : LocaleOutline} {fault : OutlineFault}

/-! ## Names of locales -/

def StandsFor (locales? : Option (List Locale)) (key localeId : String) : Prop :=
  match locales? with
  | none => key = localeId
  | some locales => (Locale.resolve? locales key).map (·.id) = some localeId

instance : Decidable (StandsFor locales? key localeId) :=
  match locales? with
  | none => inferInstanceAs (Decidable (key = localeId))
  | some locales =>
    inferInstanceAs (Decidable ((Locale.resolve? locales key).map (·.id) = some localeId))

def Unresolved (locales? : Option (List Locale)) (key : String) : Prop :=
  ∃ locales, locales? = some locales ∧ Locale.resolve? locales key = none

theorem localeIdOf_eq_ok_iff :
    localeIdOf locales? key = .ok localeId ↔ StandsFor locales? key localeId := by
  cases locales? with
  | none => simp [localeIdOf, StandsFor]
  | some locales =>
    cases found : Locale.resolve? locales key <;> simp [localeIdOf, StandsFor, found]

theorem localeIdOf_eq_error_iff : localeIdOf locales? key = .error fault ↔
    Unresolved locales? key ∧ fault = .unknownLocale key := by
  cases locales? with
  | none => simp [localeIdOf, Unresolved]
  | some locales =>
    cases found : Locale.resolve? locales key <;> simp [localeIdOf, Unresolved, found, eq_comm]

theorem unresolved_or_standsFor (locales? : Option (List Locale)) (key : String) :
    Unresolved locales? key ∨ ∃ localeId, StandsFor locales? key localeId := by
  cases found : localeIdOf locales? key with
  | error fault => exact .inl (localeIdOf_eq_error_iff.1 found).1
  | ok localeId => exact .inr ⟨localeId, localeIdOf_eq_ok_iff.1 found⟩

namespace StandsFor

theorem iff_eq (stands : StandsFor locales? key localeId) :
    StandsFor locales? key otherId ↔ otherId = localeId := by
  rw [← localeIdOf_eq_ok_iff, localeIdOf_eq_ok_iff.2 stands, Except.ok.injEq, eq_comm]

theorem not_unresolved (stands : StandsFor locales? key localeId) : ¬Unresolved locales? key := by
  intro unresolved
  have fails := localeIdOf_eq_error_iff.2 ⟨unresolved, rfl⟩
  rw [localeIdOf_eq_ok_iff.2 stands] at fails
  cases fails

end StandsFor

/-! ## One locale -/

def belowFor (localeId : String) (outline : Outline) : LocaleOutline :=
  Trie.ofChildren ∅ (outline.children.mapValues fun _ child => forLocale child localeId)

theorem textAt_cons (outline : Outline) (key : String) (path : List String) :
    textAt outline (key :: path) =
      ((outline.children.get? key).map (textAt · path)).getD "" := by
  rw [textAt, Trie.labelAt?_cons]
  cases outline.children.get? key <;> rfl

theorem textAt?_belowFor (outline : Outline) (localeId otherId : String) (path : List String) :
    (belowFor localeId outline).textAt? otherId path =
      if path ≠ [] ∧ otherId = localeId ∧ textAt outline path ≠ "" then some (textAt outline path)
      else none := by
  cases path with
  | nil => rfl
  | cons key path =>
    rw [LocaleOutline.textAt?, belowFor, Trie.labelAt?_ofChildren, Dictionary.get?_mapValues,
      textAt_cons]
    cases outline.children.get? key with
    | none => simp
    | some child =>
      simp only [ne_eq, reduceCtorEq, not_false_eq_true, true_and]
      exact textAt?_forLocale child localeId otherId path

theorem mergeLocale_of_standsFor {entry : String × Outline}
    (stands : StandsFor locales? entry.1 localeId) (merged : LocaleOutline) :
    mergeLocale locales? merged entry = .ok (merged.merge (belowFor localeId entry.2)) := by
  rw [mergeLocale, localeIdOf_eq_ok_iff.2 stands]
  rfl

theorem mergeLocale_of_unresolved {entry : String × Outline}
    (unresolved : Unresolved locales? entry.1) (merged : LocaleOutline) :
    mergeLocale locales? merged entry = .error (.unknownLocale entry.1) := by
  rw [mergeLocale, localeIdOf_eq_error_iff.2 ⟨unresolved, rfl⟩]
  rfl

/-! ## All locales -/

theorem foldlM_mergeLocale_eq_error_iff {entries : List (String × Outline)}
    (ascending : Entries.Ascending entries) :
    entries.foldlM (mergeLocale locales?) start = .error fault ↔
      ∃ entry ∈ entries, Unresolved locales? entry.1 ∧ fault = .unknownLocale entry.1 ∧
        ∀ other ∈ entries, Unresolved locales? other.1 → entry.1 ≤ other.1 := by
  induction entries generalizing start with
  | nil => simp [pure, Except.pure]
  | cons head rest ih =>
    have later : ∀ other ∈ rest, head.1 ≤ other.1 := fun other member =>
      ((List.pairwise_cons.1 ascending).1 other member).le
    rw [List.foldlM_cons]
    obtain unresolved | ⟨localeId, stands⟩ := unresolved_or_standsFor locales? head.1
    · rw [mergeLocale_of_unresolved unresolved]
      simp only [bind, Except.bind, Except.error.injEq]
      constructor
      · rintro rfl
        refine ⟨head, List.mem_cons_self, unresolved, rfl, ?_⟩
        exact List.forall_mem_cons.2 ⟨fun _ => le_rfl, fun other member _ => later other member⟩
      · rintro ⟨entry, member, -, rfl, least⟩
        have above : head.1 ≤ entry.1 := by
          rcases List.mem_cons.1 member with rfl | member
          · exact le_rfl
          · exact later entry member
        rw [(least head List.mem_cons_self unresolved).antisymm above]
    · rw [mergeLocale_of_standsFor stands]
      refine (ih ascending.of_cons).trans ?_
      simp [stands.not_unresolved]

theorem exists_foldlM_mergeLocale_iff {entries : List (String × Outline)} :
    (∃ merged, entries.foldlM (mergeLocale locales?) start = .ok merged) ↔
      ∀ entry ∈ entries, ∃ localeId, StandsFor locales? entry.1 localeId := by
  induction entries generalizing start with
  | nil => simp [pure, Except.pure]
  | cons head rest ih =>
    rw [List.foldlM_cons, List.forall_mem_cons]
    obtain unresolved | ⟨localeId, stands⟩ := unresolved_or_standsFor locales? head.1
    · have nothing : ¬∃ localeId, StandsFor locales? head.1 localeId :=
        fun ⟨_, stands⟩ => stands.not_unresolved unresolved
      simp [mergeLocale_of_unresolved unresolved, nothing, bind, Except.bind]
    · rw [mergeLocale_of_standsFor stands]
      exact ih.trans (and_iff_right ⟨localeId, stands⟩).symm

def Gives (locales? : Option (List Locale)) (localeId : String) (path : List String)
    (entry : String × Outline) : Prop :=
  StandsFor locales? entry.1 localeId ∧ textAt entry.2 path ≠ ""

instance (entry : String × Outline) : Decidable (Gives locales? localeId path entry) :=
  inferInstanceAs (Decidable (_ ∧ _))

theorem textAt?_foldlM_mergeLocale {entries : List (String × Outline)}
    (laid : entries.foldlM (mergeLocale locales?) start = .ok merged) (localeId : String)
    (path : List String) : merged.textAt? localeId path =
      (if path = [] then none
        else (entries.filter (Gives locales? localeId path ·)).getLast?.map
          fun entry => textAt entry.2 path).or (start.textAt? localeId path) := by
  induction entries generalizing start with
  | nil =>
    obtain rfl : start = merged := by simpa [pure, Except.pure] using laid
    simp
  | cons head rest ih =>
    rw [List.foldlM_cons] at laid
    obtain unresolved | ⟨headId, stands⟩ := unresolved_or_standsFor locales? head.1
    · rw [mergeLocale_of_unresolved unresolved] at laid
      cases laid
    · rw [mergeLocale_of_standsFor stands] at laid
      rw [ih laid, LocaleOutline.textAt?_merge, textAt?_belowFor, List.filter_cons]
      simp only [Gives, stands.iff_eq]
      by_cases topmost : path = []
      · simp [topmost]
      · by_cases gives : localeId = headId ∧ textAt head.2 path ≠ ""
        · simp only [topmost, gives, ne_eq, not_false_eq_true, and_self, decide_true, if_true,
            if_false, List.getLast?_cons]
          cases (rest.filter _).getLast? <;> rfl
        · simp [topmost, gives]

/-! ## The outcome -/

/-- The text is that of the last topmost key which stands for the locale and has one at the path
below it. -/
def LastText (outline : Outline) (locales? : Option (List Locale)) (localeId : String)
    (path : List String) (text : String) : Prop :=
  ∃ key, StandsFor locales? key localeId ∧ textAt outline (key :: path) = text ∧ text ≠ "" ∧
    ∀ other, StandsFor locales? other localeId → textAt outline (other :: path) ≠ "" → other ≤ key

theorem textAt_of_mem {entry : String × Outline} (member : entry ∈ outline.children.entries)
    (path : List String) : textAt outline (entry.1 :: path) = textAt entry.2 path := by
  rw [textAt_cons, Dictionary.mem_entries_iff.1 member]
  rfl

theorem exists_mem_of_textAt_ne_empty (filled : textAt outline (key :: path) ≠ "") :
    ∃ child, (key, child) ∈ outline.children.entries := by
  rw [textAt_cons] at filled
  cases found : outline.children.get? key with
  | none => simp [found] at filled
  | some child => exact ⟨child, Dictionary.mem_entries_iff.2 found⟩

theorem getLast?_gives_iff :
    ((outline.children.entries.filter (Gives locales? localeId path ·)).getLast?.map
      fun entry => textAt entry.2 path) = some text ↔
        LastText outline locales? localeId path text := by
  have ascending := outline.children.ascending.filter (Gives locales? localeId path ·)
  simp only [Option.map_eq_some_iff, ascending.getLast?_eq_some_iff, List.mem_filter,
    decide_eq_true_eq, and_imp]
  constructor
  · rintro ⟨entry, ⟨⟨member, stands, filled⟩, greatest⟩, rfl⟩
    refine ⟨entry.1, stands, textAt_of_mem member path, filled, ?_⟩
    intro other otherStands otherFilled
    obtain ⟨child, inside⟩ := exists_mem_of_textAt_ne_empty otherFilled
    rw [textAt_of_mem inside] at otherFilled
    exact greatest (other, child) inside ⟨otherStands, otherFilled⟩
  · rintro ⟨key, stands, rfl, filled, greatest⟩
    obtain ⟨child, member⟩ := exists_mem_of_textAt_ne_empty filled
    rw [textAt_of_mem member] at filled ⊢
    refine ⟨(key, child), ⟨⟨member, stands, filled⟩, fun other inside gives => ?_⟩, rfl⟩
    exact greatest other.1 gives.1 (by rw [textAt_of_mem inside]; exact gives.2)

theorem exists_lastText (stands : StandsFor locales? key localeId)
    (filled : textAt outline (key :: path) ≠ "") :
    ∃ text, LastText outline locales? localeId path text := by
  obtain ⟨child, member⟩ := exists_mem_of_textAt_ne_empty filled
  rw [textAt_of_mem member] at filled
  have inside : (key, child) ∈
      outline.children.entries.filter (Gives locales? localeId path ·) :=
    List.mem_filter.2 ⟨member, decide_eq_true ⟨stands, filled⟩⟩
  have last := List.getLast?_eq_some_getLast (List.ne_nil_of_mem inside)
  exact ⟨_, getLast?_gives_iff.1 (congrArg (Option.map _) last)⟩

theorem byLocale_of_label_eq_empty (textless : outline.label = "") :
    byLocale outline locales? =
      outline.children.entries.foldlM (mergeLocale locales?) Trie.blank := by
  simp [byLocale, textless]

theorem byLocale_eq_error_iff : byLocale outline locales? = .error fault ↔
    (outline.label ≠ "" ∧ fault = .rootHasText outline.label) ∨
    (outline.label = "" ∧ ∃ key, outline.children.contains key = true ∧
      Unresolved locales? key ∧ fault = .unknownLocale key ∧
      ∀ other, outline.children.contains other = true → Unresolved locales? other →
        key ≤ other) := by
  by_cases textless : outline.label = ""
  · rw [byLocale_of_label_eq_empty textless,
      foldlM_mergeLocale_eq_error_iff outline.children.ascending]
    simp [textless, Prod.exists, Prod.forall, Dictionary.mem_entries_iff, Dictionary.contains,
      Option.isSome_iff_exists]
  · rw [byLocale, if_pos textless]
    simp only [Except.error.injEq, textless, ne_eq, not_false_eq_true, true_and, false_and,
      or_false]
    exact eq_comm

theorem textAt?_byLocale (laid : byLocale outline locales? = .ok merged) :
    merged.textAt? localeId path = some text ↔
      path ≠ [] ∧ LastText outline locales? localeId path text := by
  by_cases textless : outline.label = ""
  · rw [byLocale_of_label_eq_empty textless] at laid
    have nothing : LocaleOutline.textAt? Trie.blank localeId path = none := by
      cases path <;> rfl
    rw [textAt?_foldlM_mergeLocale laid, nothing, Option.or_none, ← getLast?_gives_iff]
    by_cases topmost : path = [] <;> simp [topmost]
  · simp [byLocale, textless] at laid

theorem exists_byLocale_iff : (∃ merged, byLocale outline locales? = .ok merged) ↔
    outline.label = "" ∧ ∀ key, outline.children.contains key = true →
      ∃ localeId, StandsFor locales? key localeId := by
  by_cases textless : outline.label = ""
  · rw [byLocale_of_label_eq_empty textless, exists_foldlM_mergeLocale_iff]
    simp [textless, Prod.forall, Dictionary.mem_entries_iff, Dictionary.contains,
      Option.isSome_iff_exists]
  · simp [byLocale, textless]

def KeepsTexts (outline : Outline) (locales? : Option (List Locale)) (merged : LocaleOutline) :
    Prop :=
  ∀ localeId path text, merged.textAt? localeId path = some text ↔
    LastText outline locales? localeId path text

theorem keepsTexts_iff (laid : byLocale outline locales? = .ok merged) :
    KeepsTexts outline locales? merged ↔ ∀ key, textAt outline [key] = "" := by
  constructor
  · intro keeps key
    by_contra filled
    obtain ⟨child, member⟩ := exists_mem_of_textAt_ne_empty filled
    obtain ⟨localeId, stands⟩ := (exists_byLocale_iff.1 ⟨merged, laid⟩).2 key
      (by rw [Dictionary.contains, Dictionary.mem_entries_iff.1 member]; rfl)
    obtain ⟨text, last⟩ := exists_lastText stands filled
    exact ((textAt?_byLocale laid).1 ((keeps localeId [] text).2 last)).1 rfl
  · intro textless localeId path text
    rw [textAt?_byLocale laid, and_iff_right_iff_imp]
    rintro ⟨key, -, here, filled, -⟩ rfl
    exact filled (here.symm.trans (textless key))

/-- An outline fails by the text of its topmost node, or else by the first topmost key that stands
for no locale. Otherwise each locale has the texts of the last topmost key that stands for it and
has one, except for those on the nodes of the locales themselves. -/
theorem byLocale_outcome (outline : Outline) (locales? : Option (List Locale)) :
    (∀ fault, byLocale outline locales? = .error fault ↔
      (outline.label ≠ "" ∧ fault = .rootHasText outline.label) ∨
      (outline.label = "" ∧ ∃ key, outline.children.contains key = true ∧
        Unresolved locales? key ∧ fault = .unknownLocale key ∧
        ∀ other, outline.children.contains other = true → Unresolved locales? other →
          key ≤ other)) ∧
    ((∃ merged, byLocale outline locales? = .ok merged) ↔
      outline.label = "" ∧ ∀ key, outline.children.contains key = true →
        ∃ localeId, StandsFor locales? key localeId) ∧
    ∀ merged : LocaleOutline, byLocale outline locales? = .ok merged →
      (∀ localeId path text, merged.textAt? localeId path = some text ↔
        path ≠ [] ∧ LastText outline locales? localeId path text) ∧
      (KeepsTexts outline locales? merged ↔ ∀ key, textAt outline [key] = "") := by
  refine ⟨fun fault => byLocale_eq_error_iff, exists_byLocale_iff, fun merged laid => ?_⟩
  exact ⟨fun localeId path text => textAt?_byLocale laid, keepsTexts_iff laid⟩

def aliasOutline : Outline :=
  Trie.ofLabels [(["en", "menu"], "Menu"), (["en", "open"], "Open"), (["eng", "menu"], "The menu")]

theorem aliasOutline_byLocale_outcome : ∃ merged : LocaleOutline,
    byLocale aliasOutline (some Locale.starters) = .ok merged ∧
      merged.textAt? "en-GB" ["menu"] = some "The menu" ∧
      merged.textAt? "en-GB" ["open"] = some "Open" ∧
      KeepsTexts aliasOutline (some Locale.starters) merged := by
  have keys : ∀ key path, textAt aliasOutline (key :: path) ≠ "" → key = "en" ∨ key = "eng" := by
    intro key path filled
    obtain ⟨child, member⟩ := exists_mem_of_textAt_ne_empty filled
    have inside : key ∈ aliasOutline.children.keys := List.mem_map_of_mem (f := (·.1)) member
    have listed : aliasOutline.children.keys = ["en", "eng"] := by decide
    simpa [listed] using inside
  obtain ⟨-, -, shows⟩ := byLocale_outcome aliasOutline (some Locale.starters)
  obtain ⟨merged, laid⟩ : ∃ merged, byLocale aliasOutline (some Locale.starters) = .ok merged :=
    ⟨_, rfl⟩
  obtain ⟨texts, keeps⟩ := shows merged laid
  refine ⟨merged, laid, ?_, ?_, ?_⟩
  · refine (texts _ _ _).2 ⟨by decide, "eng", by decide, by decide, by decide, ?_⟩
    intro other _ filled
    rcases keys other _ filled with rfl | rfl <;> decide
  · refine (texts _ _ _).2 ⟨by decide, "en", by decide, by decide, by decide, ?_⟩
    intro other _ filled
    rcases keys other _ filled with rfl | rfl
    · decide
    · exact absurd (by decide) filled
  · rw [keeps]
    intro key
    by_contra filled
    rcases keys key [] filled with rfl | rfl <;> exact absurd (by decide) filled

def greetingOutline : Outline := Trie.ofLabels [(["en"], "Hello"), (["nb", "menu"], "Meny")]

theorem greetingOutline_not_keepsTexts : ∃ merged : LocaleOutline,
    byLocale greetingOutline none = .ok merged ∧ ¬KeepsTexts greetingOutline none merged := by
  refine ⟨_, rfl, fun keeps => ?_⟩
  exact absurd ((keepsTexts_iff rfl).1 keeps "en") (by decide)

end Outline

end Phrasebook
