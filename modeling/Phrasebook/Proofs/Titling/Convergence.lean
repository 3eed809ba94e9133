import Phrasebook.Proofs.Titling.Coverage

namespace Phrasebook

/-! ## Setting titles -/

def Dictionary.modify {α : Type} (dictionary : Dictionary α) (key : String) (image : α → α) :
    Dictionary α :=
  dictionary.mapValues fun query value => if query = key then image value else value

namespace TitleChange

def address : TitleChange → String × Option String
  | category categoryKey _ _ => (categoryKey, none)
  | phrase categoryKey phraseKey _ _ => (categoryKey, some phraseKey)

def title : TitleChange → String
  | category _ _ title => title
  | phrase _ _ _ title => title

def within : TitleChange → Category → Category
  | category _ _ title, former => { former with title }
  | phrase _ phraseKey _ title, former =>
    { former with phrases := former.phrases.modify phraseKey fun phrase => { phrase with title } }

end TitleChange

namespace Overview

def setTitle (overview : Overview) (change : TitleChange) : Overview :=
  let categories := overview.categories.modify change.address.1 change.within
  { overview with categories, tree := CategoryTree.ofCategories categories.values }

def retitle (overview : Overview) (changes : List TitleChange) : Overview :=
  changes.foldl setTitle overview

structure Keyed (overview : Overview) : Prop where
  category : ∀ key category, overview.categories.get? key = some category → category.key = key
  phrase : ∀ category ∈ overview.categories.values, ∀ key phrase,
    category.phrases.get? key = some phrase → phrase.key = key

end Overview

namespace Dictionary

variable {α : Type} {dictionary : Dictionary α} {keyOf : α → String} {image : α → α}

theorem values_modify
    (keyed : ∀ key value, dictionary.get? key = some value → keyOf value = key) (key : String) :
    (dictionary.modify key image).values =
      dictionary.values.map fun value => if keyOf value = key then image value else value :=
  values_mapValues keyed _

theorem keyed_modify
    (keyed : ∀ key value, dictionary.get? key = some value → keyOf value = key)
    (same : ∀ value, keyOf (image value) = keyOf value) (key : String) :
    ∀ query value, (dictionary.modify key image).get? query = some value → keyOf value = query := by
  intro query value found
  rw [modify, get?_mapValues, Option.map_eq_some_iff] at found
  obtain ⟨former, found, rfl⟩ := found
  split
  · rw [same, keyed query former found]
  · exact keyed query former found

end Dictionary

/-! ## Targets -/

namespace TitleTarget

def address (target : TitleTarget) : String × Option String :=
  (target.categoryKey, target.phraseKey?)

def after (target : TitleTarget) (change : TitleChange) : TitleTarget :=
  if change.address = target.address then { target with title := change.title } else target

variable {target other : TitleTarget} {change : TitleChange} {title : String}

theorem position_eq_of_address_eq (same : target.address = other.address) :
    target.position = other.position := by
  obtain ⟨sameCategory, samePhrase⟩ := Prod.mk.inj same
  rw [position, position, sameCategory, samePhrase]

theorem after_of_address_ne (elsewhere : change.address ≠ target.address) :
    target.after change = target :=
  if_neg elsewhere

theorem after_of_categoryKey_ne (elsewhere : target.categoryKey ≠ change.address.1) :
    target.after change = target :=
  after_of_address_ne fun same => elsewhere (congrArg Prod.fst same).symm

@[simp] theorem address_after : (target.after change).address = target.address := by
  unfold after
  split <;> rfl

@[simp] theorem position_after : (target.after change).position = target.position :=
  position_eq_of_address_eq address_after

theorem change?_eq_none_iff : target.change? title = none ↔ target.title = title := by
  simp [change?]

theorem of_change?_eq_some (changed : target.change? title = some change) :
    change.address = target.address ∧ change.title = title := by
  obtain ⟨categoryKey, phraseKey?, previous⟩ := target
  rw [change?, Option.ite_none_left_eq_some] at changed
  obtain ⟨-, changed⟩ := changed
  cases phraseKey? <;> obtain rfl := Option.some.inj changed <;> exact ⟨rfl, rfl⟩

theorem title_foldl_after {changes : List TitleChange}
    (agree : ∀ change ∈ changes, change.address = target.address → change.title = title)
    (given : target.title = title ∨ ∃ change ∈ changes, change.address = target.address) :
    (changes.foldl after target).title = title := by
  induction changes generalizing target with
  | nil => simpa using given
  | cons change rest ih =>
    obtain ⟨here, there⟩ := List.forall_mem_cons.1 agree
    refine ih (fun later inside => ?_) ?_
    · rw [address_after]
      exact there later inside
    · -- A change with the address sets the title now. Any other leaves it to the rest.
      rw [address_after, after]
      split
      · exact .inl (here ‹_›)
      · simpa [‹¬_›] using given

end TitleTarget

/-! ## One change -/

namespace TitleChange

variable {change : TitleChange} {former : Category}

@[simp] theorem key_within : (change.within former).key = former.key := by
  cases change <;> rfl

theorem target_within (addressed : former.key = change.address.1) :
    (change.within former).target = former.target.after change := by
  cases change with
  | category categoryKey previous title =>
    obtain rfl : former.key = categoryKey := addressed
    exact (if_pos rfl).symm
  | phrase categoryKey phraseKey previous title =>
    exact (TitleTarget.after_of_address_ne (by
      simp [address, TitleTarget.address, Category.target])).symm

theorem phraseTargets_within (addressed : former.key = change.address.1)
    (keyed : ∀ key phrase, former.phrases.get? key = some phrase → phrase.key = key) :
    (change.within former).phraseTargets = former.phraseTargets.map (·.after change) := by
  cases change with
  | category categoryKey previous title =>
    rw [Category.phraseTargets, Category.phraseTargets, List.map_map]
    refine List.map_congr_left fun phrase _ => ?_
    exact (TitleTarget.after_of_address_ne (by simp [address, TitleTarget.address])).symm
  | phrase categoryKey phraseKey previous title =>
    obtain rfl : former.key = categoryKey := addressed
    simp only [Category.phraseTargets, within, Dictionary.values_modify keyed, List.map_map]
    refine List.map_congr_left fun phrase _ => ?_
    by_cases here : phrase.key = phraseKey
    · subst here
      simp [TitleTarget.after, address, TitleTarget.address, TitleChange.title]
    · simp [TitleTarget.after, address, TitleTarget.address, here, Ne.symm here]

theorem map_after_phraseTargets (elsewhere : former.key ≠ change.address.1) :
    former.phraseTargets.map (·.after change) = former.phraseTargets := by
  rw [Category.phraseTargets, List.map_map]
  exact List.map_congr_left fun phrase _ => TitleTarget.after_of_categoryKey_ne elsewhere

end TitleChange

namespace Overview

variable {overview : Overview} {document : Json} {changes : List TitleChange}

theorem Keyed.setTitle (keyed : overview.Keyed) (change : TitleChange) :
    (overview.setTitle change).Keyed where
  category := Dictionary.keyed_modify keyed.category (fun _ => TitleChange.key_within) _
  phrase := by
    simp only [Overview.setTitle, Dictionary.values_modify keyed.category, List.forall_mem_map]
    intro category inside
    have former := keyed.phrase category inside
    split
    · cases change with
      | category => exact former
      | phrase _ phraseKey _ title =>
        refine Dictionary.keyed_modify former ?_ phraseKey
        exact fun _ => rfl
    · exact former

theorem titledCategories_setTitle (keyed : overview.Keyed) (change : TitleChange) :
    (overview.setTitle change).titledCategories =
      overview.titledCategories.map (·.after change) := by
  simp only [titledCategories, setTitle, Dictionary.values_modify keyed.category, List.map_map]
  refine List.map_congr_left fun category _ => ?_
  dsimp only [Function.comp]
  split
  · exact TitleChange.target_within ‹_›
  · exact (TitleTarget.after_of_categoryKey_ne ‹_›).symm

theorem titledPhrases_setTitle (keyed : overview.Keyed) (change : TitleChange) :
    (overview.setTitle change).titledPhrases = overview.titledPhrases.map (·.after change) := by
  simp only [titledPhrases, setTitle, Dictionary.values_modify keyed.category, List.flatMap_map,
    List.map_flatMap]
  refine List.flatMap_congr fun category inside => ?_
  split
  · exact TitleChange.phraseTargets_within ‹_› (keyed.phrase category inside)
  · exact (TitleChange.map_after_phraseTargets ‹_›).symm

theorem filter_position_after (targets : List TitleTarget) (change : TitleChange) (key : String) :
    (targets.map (·.after change)).filter (·.position = key) =
      (targets.filter (·.position = key)).map (·.after change) := by
  simp [List.filter_map, Function.comp_def]

theorem reached_setTitle (keyed : overview.Keyed) (change : TitleChange) (key : String) :
    (overview.setTitle change).reached key = (overview.reached key).map (·.after change) := by
  rw [reached, categoriesAt, phrasesAt, titledCategories_setTitle keyed,
    titledPhrases_setTitle keyed, filter_position_after, filter_position_after, List.getLast?_map,
    List.getLast?_map]
  simp only [reached, categoriesAt, phrasesAt, List.map_append, Option.toList_map]

/-! ## All changes -/

theorem reached_retitle (keyed : overview.Keyed) (changes : List TitleChange) (key : String) :
    (overview.retitle changes).reached key =
      (overview.reached key).map fun target => changes.foldl TitleTarget.after target := by
  induction changes generalizing overview with
  | nil => simp [retitle]
  | cons change rest ih =>
    have later := ih (keyed.setTitle change)
    rw [reached_setTitle keyed, List.map_map] at later
    exact later

theorem position_of_mem_reached {key : String} {target : TitleTarget}
    (inside : target ∈ overview.reached key) : target.position = key := by
  simp only [reached, List.mem_append, Option.mem_toList] at inside
  rcases inside with last | last
  all_goals
    have among := List.mem_of_getLast? last
    simpa using (List.mem_filter.1 among).2

theorem title_of_mem_changes {titles : Dictionary String} {key title : String}
    (given : titles.get? key = some title) {target : TitleTarget}
    (inside : target ∈ overview.reached key) {change : TitleChange}
    (listed : change ∈ titles.entries.flatMap overview.changesAt)
    (addressed : change.address = target.address) : change.title = title := by
  obtain ⟨⟨otherKey, otherTitle⟩, entry, listed⟩ := List.mem_flatMap.1 listed
  obtain ⟨other, otherInside, changed⟩ := List.mem_filterMap.1 listed
  obtain ⟨same, rfl⟩ := TitleTarget.of_change?_eq_some changed
  -- One address is one position, which is the key that either target was reached by.
  have samePosition := TitleTarget.position_eq_of_address_eq (same.symm.trans addressed)
  rw [position_of_mem_reached otherInside, position_of_mem_reached inside] at samePosition
  subst samePosition
  exact Option.some.inj ((Dictionary.mem_entries_iff.1 entry).symm.trans given)

theorem title_of_mem_reached_retitle (keyed : overview.Keyed) {titles : Dictionary String}
    {entry : String × String} (inside : entry ∈ titles.entries) {target : TitleTarget}
    (reaches : target ∈
      (overview.retitle (titles.entries.flatMap overview.changesAt)).reached entry.1) :
    target.title = entry.2 := by
  rw [reached_retitle keyed] at reaches
  obtain ⟨former, before, rfl⟩ := List.mem_map.1 reaches
  have given := Dictionary.mem_entries_iff.1 inside
  refine TitleTarget.title_foldl_after ?_ ?_
  · exact fun change listed => title_of_mem_changes given before listed
  · cases changed : former.change? entry.2 with
    | none => exact .inl (TitleTarget.change?_eq_none_iff.1 changed)
    | some change =>
      have listed : change ∈ overview.changesAt entry :=
        List.mem_filterMap.2 ⟨former, before, changed⟩
      exact .inr ⟨change, List.mem_flatMap.2 ⟨entry, inside, listed⟩,
        (TitleTarget.of_change?_eq_some changed).1⟩

/-- With the titles set that a document asks for, it asks for nothing more: all targets that its
titles reach have these titles. -/
theorem describe_retitle (keyed : overview.Keyed)
    (described : overview.describe document = .ok changes) :
    (overview.retitle changes).describe document = .ok [] ∧
      ∃ titles, titlesOf document = .ok titles ∧ ∀ entry ∈ titles.entries,
        ∀ target ∈ (overview.retitle changes).reached entry.1, target.title = entry.2 := by
  obtain ⟨titles, collected, known, rfl⟩ := describe_eq_ok_iff.1 described
  have settled : ∀ entry ∈ titles.entries, ∀ target ∈ (overview.retitle _).reached entry.1,
      target.title = entry.2 :=
    fun entry inside target reaches => title_of_mem_reached_retitle keyed inside reaches
  refine ⟨describe_eq_ok_iff.2 ⟨titles, collected, fun entry inside => ?_, ?_⟩, titles, collected,
    settled⟩
  · rw [reached_retitle keyed, ne_eq, List.map_eq_nil_iff]
    exact known entry inside
  · refine (List.flatMap_eq_nil_iff.2 fun entry inside => ?_).symm
    rw [changesAt, List.filterMap_eq_nil_iff]
    exact fun target reaches =>
      TitleTarget.change?_eq_none_iff.2 (settled entry inside target reaches)

theorem keyed_formOverview : formOverview.Keyed where
  category key category found := by
    have own : ∀ entry ∈ formOverview.categories.entries, entry.2.key = entry.1 := by decide
    exact own (key, category) (Dictionary.mem_entries_iff.2 found)
  phrase := by
    have own : ∀ category ∈ formOverview.categories.values,
        ∀ entry ∈ category.phrases.entries, entry.2.key = entry.1 := by decide
    intro category inside key phrase found
    exact own category inside (key, phrase) (Dictionary.mem_entries_iff.2 found)

theorem submitTitles_describe_retitle :
    let updated := formOverview.retitle [.category "form.submit" "form.submit" "Submit it",
      .phrase "form" "submit" "submit" "Submit it"]
    updated.describe submitTitles = .ok [] ∧
      updated.reached "form.submit" =
        [⟨"form.submit", none, "Submit it"⟩, ⟨"form", some "submit", "Submit it"⟩] :=
  ⟨(describe_retitle keyed_formOverview submitTitles_describe).1, by decide⟩

end Overview

end Phrasebook
