import Mathlib.Data.List.Basic
import Phrasebook.Export.Basic
import Phrasebook.Proofs.Catalog.Sharing

/-!
# What an export shows

The texts that take part in an export are listed with the paths at which they stand: locales by
identifier, the categories of each by key, their phrases in order, and of each phrase the plain
text and then its contexts (`Overview.listing`).

The outline of a successful export has a node for each prefix of these paths, and the text of a
node is the first text for its path that is not empty. An export succeeds if and only if every
locale that has a rendering has a code (`Overview.export_eq_ok_iff`).
-/

namespace Phrasebook

instance : LawfulLabel String where
  blank_combine label := by simp [Label.combine, Label.blank]
  combine_blank label := by by_cases blank : label = "" <;> simp [Label.combine, Label.blank, blank]
  combine_assoc first second third := by
    by_cases blank : first = "" <;> simp [Label.combine, blank]

/-- Texts with the paths at which they stand, in the order in which they are placed. -/
abbrev Listing := List (List String × String)

namespace Listing

def under (place : List String) (listing : Listing) : Listing :=
  listing.map fun entry => (place ++ entry.1, entry.2)

def textAt (listing : Listing) (path : List String) : String :=
  ((listing.find? fun entry => entry.1 = path ∧ entry.2 ≠ "").map (·.2)).getD ""

theorem foldl_combine (texts : List String) (first : String) :
    texts.foldl Label.combine first =
      if first = "" then (texts.find? (· ≠ "")).getD "" else first := by
  induction texts generalizing first with
  | nil => simp +contextual
  | cons text rest ih =>
    rw [List.foldl_cons, ih]
    by_cases blank : first = "" <;> by_cases empty : text = "" <;>
      simp [Label.combine, blank, empty]

theorem foldl_combine_eq_textAt (listing : Listing) (path : List String) :
    ((listing.filter (·.1 = path)).map (·.2)).foldl Label.combine Label.blank =
      listing.textAt path := by
  rw [foldl_combine, List.find?_map, List.find?_filter, textAt]
  simp [Label.blank]

theorem mem_of_textAt {listing : Listing} {path : List String}
    (filled : listing.textAt path ≠ "") : (path, listing.textAt path) ∈ listing := by
  unfold textAt at filled ⊢
  cases found : listing.find? fun entry => entry.1 = path ∧ entry.2 ≠ "" with
  | none =>
    rw [found] at filled
    exact absurd rfl filled
  | some entry =>
    have holds := List.find?_some found
    have member := List.mem_of_find?_eq_some found
    simp only [decide_eq_true_eq] at holds
    obtain ⟨rfl, -⟩ := holds
    simpa using member

theorem textAt_ne_empty {listing : Listing} {path : List String} {text : String}
    (member : (path, text) ∈ listing) (filled : text ≠ "") : listing.textAt path ≠ "" := by
  unfold textAt
  cases found : listing.find? fun entry => entry.1 = path ∧ entry.2 ≠ "" with
  | none =>
    have absent := List.find?_eq_none.1 found _ member
    simp [filled] at absent
  | some entry =>
    have holds := List.find?_some found
    simp only [decide_eq_true_eq] at holds
    simpa using holds.2

theorem graft_ofLabels (outline : Outline) (place : List String) {listing : Listing}
    (nonempty : listing ≠ []) : outline.graft place (Trie.ofLabels listing) =
      (listing.under place).foldl (fun outline entry => outline.graft entry.1 (Trie.leaf entry.2))
        outline := by
  rw [under, List.foldl_map, Trie.graft_ofLabels outline place nonempty]

end Listing

def Phrase.listing (phrase : Phrase) (localeId separator : String) : Listing :=
  match phrase.renderings.get? localeId with
  | none => []
  | some rendering =>
    ([phrase.key], rendering.text) :: rendering.contexts.entries.map fun context =>
      ([phrase.key ++ separator ++ context.1], context.2)

def Category.listing (category : Category) (localeId separator : String) : Listing :=
  Listing.under category.path (category.phrases.values.flatMap (·.listing localeId separator))

def Overview.listing (overview : Overview) (options : ExportOptions) : Listing :=
  (overview.locales.values.filter fun locale =>
      options.selects locale (locale.code options.localeCode)).flatMap fun locale =>
    Listing.under [locale.code options.localeCode]
      (overview.categories.values.flatMap (·.listing locale.id options.contextSeparator))

namespace Export

theorem ofCategory_eq (category : Category) (localeId separator : String) :
    ofCategory category localeId separator =
      Trie.ofLabels (category.phrases.values.flatMap (·.listing localeId separator)) := by
  have pairs : ∀ phrase : Phrase, phrase.listing localeId separator =
      (((phrase.renderings.get? localeId).map fun rendering =>
        texts phrase rendering separator).getD []).map fun pair => ([pair.1], pair.2) := by
    intro phrase
    unfold Phrase.listing
    cases phrase.renderings.get? localeId with
    | none => rfl
    | some rendering => simp [texts, Key.joinContext]
  simp only [ofCategory, Trie.ofLabels, pairs, ← List.map_flatMap, List.foldl_map]

theorem listing_ne_nil {category : Category} {localeId : String} (separator : String)
    (holds : category.holds localeId = true) :
    category.phrases.values.flatMap (·.listing localeId separator) ≠ [] := by
  obtain ⟨phrase, member, rendering, found⟩ := Category.holds_iff.1 holds
  intro empty
  have silent := List.flatMap_eq_nil_iff.1 empty phrase member
  simp [Phrase.listing, found] at silent

theorem listing_eq_nil {category : Category} {localeId : String} (separator : String)
    (lacks : category.holds localeId = false) : category.listing localeId separator = [] := by
  have silent : ∀ phrase ∈ category.phrases.values, phrase.listing localeId separator = [] := by
    intro phrase member
    unfold Phrase.listing
    split
    · rfl
    · rename_i rendering found
      rw [Category.holds_iff.2 ⟨phrase, member, rendering, found⟩] at lacks
      cases lacks
  rw [Category.listing, List.flatMap_eq_nil_iff.2 silent, Listing.under, List.map_nil]

theorem flatMap_listing_filter (categories : List Category) (localeId separator : String) :
    (categories.filter (·.holds localeId)).flatMap (·.listing localeId separator) =
      categories.flatMap (·.listing localeId separator) := by
  induction categories with
  | nil => rfl
  | cons category rest ih =>
    cases holds : category.holds localeId with
    | true => simp [holds, ih]
    | false => simp [holds, ih, listing_eq_nil separator holds]

theorem ofShare_eq {share : LocaleShare} {localeId : String} (separator : String)
    (held : ∀ category ∈ share.categories, category.holds localeId = true) :
    ofShare share localeId separator =
      Trie.ofLabels (share.categories.flatMap (·.listing localeId separator)) := by
  rw [ofShare, Trie.ofLabels, List.foldl_flatMap]
  refine List.foldl_ext _ _ _ fun outline category member => ?_
  rw [ofCategory_eq, Listing.graft_ofLabels _ _ (listing_ne_nil separator (held _ member))]
  rfl

theorem foldlM_addShare (options : ExportOptions) (shares : List (String × LocaleShare))
    (outline result : Outline) : shares.foldlM (addShare options) outline = .ok result ↔
      (∀ entry ∈ shares, entry.2.locale.code options.localeCode ≠ "") ∧
        result = shares.foldl (fun outline entry =>
          if options.selects entry.2.locale (entry.2.locale.code options.localeCode) then
            outline.graft [entry.2.locale.code options.localeCode]
              (ofShare entry.2 entry.1 options.contextSeparator)
          else outline) outline := by
  induction shares generalizing outline with
  | nil =>
    rw [List.foldlM_nil, List.foldl_nil]
    constructor
    · intro ended
      exact ⟨fun _ member => absurd member List.not_mem_nil, (Except.ok.inj ended).symm⟩
    · rintro ⟨-, rfl⟩
      rfl
  | cons entry rest ih =>
    obtain ⟨localeId, share⟩ := entry
    rw [List.foldlM_cons, List.forall_mem_cons, List.foldl_cons]
    by_cases coded : share.locale.code options.localeCode = ""
    · simp [addShare, coded, bind, Except.bind]
    · by_cases selected : options.selects share.locale (share.locale.code options.localeCode)
      · simp [addShare, coded, selected, bind, Except.bind, ih]
      · simp [addShare, coded, selected, bind, Except.bind, ih]

end Export

namespace Overview

variable {project : Project} {locales : List Locale} {categories : List Category}

theorem shares_entries (overview : Overview) : overview.shares.entries =
    (overview.locales.entries.filter fun entry => overview.tree.holdsBelow entry.2.id).map
      fun entry => (entry.1, ⟨entry.2, overview.categories.values.filter (·.holds entry.2.id)⟩) :=
  rfl

theorem graft_ofShare {overview : Overview} {locale : Locale}
    (faithful : overview.tree.holdsBelow locale.id = true ↔
      ∃ category ∈ overview.categories.values, category.holds locale.id = true)
    (code separator : String) (outline : Outline) :
    (if overview.tree.holdsBelow locale.id then
      outline.graft [code] (Export.ofShare
        ⟨locale, overview.categories.values.filter (·.holds locale.id)⟩ locale.id separator)
    else outline) =
      (Listing.under [code]
        (overview.categories.values.flatMap (·.listing locale.id separator))).foldl
          (fun outline entry => outline.graft entry.1 (Trie.leaf entry.2)) outline := by
  by_cases held : overview.tree.holdsBelow locale.id = true
  · obtain ⟨category, member, holds⟩ := faithful.1 held
    have nonempty :
        overview.categories.values.flatMap (·.listing locale.id separator) ≠ [] := by
      intro empty
      have silent := List.flatMap_eq_nil_iff.1 empty category member
      rw [Category.listing, Listing.under, List.map_eq_nil_iff] at silent
      exact Export.listing_ne_nil separator holds silent
    rw [if_pos held, Export.ofShare_eq separator (by simp), Export.flatMap_listing_filter,
      Listing.graft_ofLabels _ _ nonempty]
  · have silent : ∀ category ∈ overview.categories.values,
        category.listing locale.id separator = [] := by
      intro category member
      refine Export.listing_eq_nil separator (Bool.eq_false_iff.2 fun holds => held ?_)
      exact faithful.2 ⟨category, member, holds⟩
    rw [if_neg held, List.flatMap_eq_nil_iff.2 silent]
    rfl

theorem foldl_shares_entries {overview : Overview}
    (faithful : ∀ localeId, overview.tree.holdsBelow localeId = true ↔
      ∃ category ∈ overview.categories.values, category.holds localeId = true)
    (identified : ∀ entry ∈ overview.locales.entries, entry.1 = entry.2.id)
    (options : ExportOptions) : overview.shares.entries.foldl (fun outline entry =>
      if options.selects entry.2.locale (entry.2.locale.code options.localeCode) then
        outline.graft [entry.2.locale.code options.localeCode]
          (Export.ofShare entry.2 entry.1 options.contextSeparator)
      else outline) Trie.blank = Trie.ofLabels (overview.listing options) := by
  have values : overview.locales.values = overview.locales.entries.map (·.2) := rfl
  rw [shares_entries, List.foldl_map, List.foldl_filter, Trie.ofLabels, Overview.listing,
    List.foldl_flatMap, List.foldl_filter, values, List.foldl_map]
  refine List.foldl_ext _ _ _ fun outline entry member => ?_
  rw [← graft_ofShare (faithful entry.2.id), identified entry member]
  by_cases selected : options.selects entry.2 (entry.2.code options.localeCode) <;>
    simp [selected]

theorem export_eq_ok_iff (keyed : ∀ category ∈ categories, category.key ≠ "")
    (options : ExportOptions) (outline : Outline) :
    (ofLists project locales categories).export options = .ok outline ↔
      (∀ locale ∈ (ofLists project locales categories).locales.values,
        (∃ category ∈ (ofLists project locales categories).categories.values,
          category.holds locale.id = true) → locale.code options.localeCode ≠ "") ∧
      outline = Trie.ofLabels ((ofLists project locales categories).listing options) := by
  have faithful : ∀ localeId, (ofLists project locales categories).tree.holdsBelow localeId ↔ _ :=
    holdsBelow_ofLists keyed
  have identified : ∀ entry ∈ (ofLists project locales categories).locales.entries,
      entry.1 = entry.2.id := fun entry member =>
    (get?_locales_ofLists (Dictionary.mem_entries_iff.1 member)).2.symm
  generalize ofLists project locales categories = overview at faithful identified
  rw [Overview.export, Export.foldlM_addShare, foldl_shares_entries faithful identified,
    shares_entries]
  simp only [List.forall_mem_map, List.mem_filter, and_imp, Dictionary.values, faithful]

/-- An exported outline has the nodes that lead to listed texts, and each node has the first text
for its path that is not empty. -/
theorem export_shows_listing (keyed : ∀ category ∈ categories, category.key ≠ "")
    {options : ExportOptions} {outline : Outline}
    (exported : (ofLists project locales categories).export options = .ok outline)
    (path : List String) :
    ((outline.get? path).isSome ↔ path = [] ∨
      ∃ entry ∈ (ofLists project locales categories).listing options, path <+: entry.1) ∧
    ∀ node, outline.get? path = some node →
      node.label = ((ofLists project locales categories).listing options).textAt path := by
  obtain ⟨-, rfl⟩ := (export_eq_ok_iff keyed options outline).1 exported
  refine ⟨?_, fun node located => ?_⟩
  · rw [Trie.isSome_get?, Trie.isSome_labelAt?_ofLabels]
  · rw [← Listing.foldl_combine_eq_textAt]
    apply Trie.labelAt?_ofLabels
    rw [← Trie.map_label_get?, located, Option.map_some]

def sharedCategory : Category :=
  let owner : Project := ⟨"demo", "Demo", "ann", "acme"⟩
  let british : Rendering :=
    { Rendering.new "en-GB" .imported owner with
      contexts := (∅ : Dictionary String).insert "male" "Mate" }
  let american : Rendering := { Rendering.new "en-US" .imported owner with text := "Buddy" }
  let plain : Phrase :=
    { Phrase.new "friend" "Friend" owner with
      renderings := (∅ : Dictionary Rendering).insert "en-GB" british }
  let joined : Phrase :=
    { Phrase.new "friend_male" "Friend male" owner with
      renderings := (∅ : Dictionary Rendering).insert "en-US" american }
  { Category.new "people.near" "Near" owner with
    phrases := Dictionary.ofList [("friend", plain), ("friend_male", joined)] }

theorem sharedCategory_export_shows_listing : ∃ outline node,
    (ofLists ⟨"demo", "Demo", "ann", "acme"⟩ Locale.starters [sharedCategory]).export .standard =
      .ok outline ∧
    outline.get? ["en", "people", "near", "friend_male"] = some node ∧ node.label = "Mate" := by
  have keyed : ∀ category ∈ [sharedCategory], category.key ≠ "" := by decide
  obtain ⟨outline, exported⟩ : ∃ outline, (ofLists ⟨"demo", "Demo", "ann", "acme"⟩
      Locale.starters [sharedCategory]).export .standard = .ok outline :=
    ⟨_, (export_eq_ok_iff keyed .standard _).2 ⟨by decide, rfl⟩⟩
  have shown := export_shows_listing keyed exported ["en", "people", "near", "friend_male"]
  obtain ⟨node, located⟩ := Option.isSome_iff_exists.1 (shown.1.2 (.inr (by decide)))
  refine ⟨outline, node, exported, located, ?_⟩
  rw [shown.2 node located]
  decide

end Overview

end Phrasebook
