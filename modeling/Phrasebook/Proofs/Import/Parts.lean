import Phrasebook.Proofs.Catalog.Arguments
import Phrasebook.Proofs.Import.Marks

namespace Phrasebook

/-! ## One placement -/

def Phrase.learn (phrase : Phrase) (inferred : Inferred) : Phrase :=
  { phrase with
    examples := phrase.examples.merge (fun _ new => new) inferred.examples
    references := phrase.references.merge (fun former _ => former) inferred.references }

theorem Phrase.absorb_learn (phrase other : Phrase) (inferred : Inferred) :
    phrase.absorb (other.learn inferred) = (phrase.absorb other).learn inferred := by
  simp only [absorb, learn]
  rw [Dictionary.merge_assoc _ (fun _ _ _ => rfl), Dictionary.merge_assoc _ (fun _ _ _ => rfl)]

theorem Phrase.absorb_new (phrase : Phrase) (key title : String) (owner : Project) :
    phrase.absorb (Phrase.new key title owner) = phrase := rfl

namespace Import

section Add

variable (rules : ImportRules) (target : ImportTarget) (made : Import) (placement : Placement)

theorem bareCategoryAt?_add (key : String) :
    Catalog.bareCategoryAt? (add rules target made placement).categories key =
      if key = placement.categoryKey then
        some ((Catalog.bareCategoryAt? made.categories key).getD
          (Category.new key (Title.ofKey placement.folder) target.owner))
      else Catalog.bareCategoryAt? made.categories key := by
  obtain ⟨examples, stepped⟩ := get?_categories_add rules target made placement
  rw [Catalog.bareCategoryAt?, Catalog.bareCategoryAt?, stepped]
  split
  · cases made.categories.get? key <;> rfl
  · rfl

theorem barePhraseAt?_add (place : String × String) :
    Catalog.barePhraseAt? (add rules target made placement).categories place =
      if place.1 = placement.categoryKey ∧ place.2 = placement.phraseKey then
        some (((Catalog.barePhraseAt? made.categories place).getD
          (Phrase.new place.2 (Title.ofKey place.2) target.owner)).learn
            (rules.inferrer.infer placement.site))
      else Catalog.barePhraseAt? made.categories place := by
  obtain ⟨examples, stepped⟩ := phraseAt?_add rules target made placement
  have here := stepped place.1 place.2
  have told := examplesAt_add rules target made placement place.1 place.2
  change ((add rules target made placement).phraseAt? place.1 place.2).map Phrase.bare = _
  split
  · rename_i atPhrase
    rw [if_pos atPhrase] at here told
    have known : examples = (made.examplesAt place.1 place.2).merge (fun _ new => new)
        (rules.inferrer.infer placement.site).examples :=
      (examplesAt_of_phraseAt? here).symm.trans told
    have former : Catalog.barePhraseAt? made.categories place =
        (made.phraseAt? place.1 place.2).map Phrase.bare := rfl
    rw [here, known, former, examplesAt]
    cases made.phraseAt? place.1 place.2 <;> rfl
  · rename_i elsewhere
    rw [here, if_neg elsewhere]
    rfl

theorem renderingAt?_categories_add (place : (String × String) × String) :
    Catalog.renderingAt? (add rules target made placement).categories place =
      if place.1.1 = placement.categoryKey ∧ place.1.2 = placement.phraseKey ∧
          place.2 = placement.localeId then
        some (((Catalog.renderingAt? made.categories place).getD
          (Rendering.new place.2 target.origin target.owner)).receive target.origin
            placement.context? placement.text)
      else Catalog.renderingAt? made.categories place :=
  renderingAt?_add rules target made placement place.1.1 place.1.2 place.2

theorem categories_add_of_merge {former : Dictionary Category} {later : Import}
    (merged : made.categories = Catalog.merge former later.categories)
    (fresh : Catalog.renderingAt? former
      ((placement.categoryKey, placement.phraseKey), placement.localeId) = none) :
    (add rules target made placement).categories =
      Catalog.merge former (add rules target later placement).categories := by
  refine Catalog.ext (fun key => ?_) (fun place => ?_) fun place => ?_
  · rw [Catalog.bareCategoryAt?_merge, bareCategoryAt?_add, bareCategoryAt?_add, merged,
      Catalog.bareCategoryAt?_merge]
    by_cases atCategory : key = placement.categoryKey
    · rw [if_pos atCategory, if_pos atCategory]
      cases Catalog.bareCategoryAt? former key <;> rfl
    · rw [if_neg atCategory, if_neg atCategory]
  · rw [Catalog.barePhraseAt?_merge, barePhraseAt?_add, barePhraseAt?_add, merged,
      Catalog.barePhraseAt?_merge]
    split
    · cases Catalog.barePhraseAt? former place <;>
        cases Catalog.barePhraseAt? later.categories place <;>
        simp [Phrase.absorb_learn, Phrase.absorb_new]
    · rfl
  · rw [Catalog.renderingAt?_merge, renderingAt?_categories_add, renderingAt?_categories_add,
      merged, Catalog.renderingAt?_merge]
    split
    · rename_i here
      have absent : Catalog.renderingAt? former place = none := by
        obtain ⟨⟨categoryKey, phraseKey⟩, localeId⟩ := place
        obtain ⟨rfl, rfl, rfl⟩ := here
        exact fresh
      simp [absent]
    · rfl

end Add

section Parts

variable (rules : ImportRules) (target : ImportTarget)

theorem renderingAt?_eq_none_of_forall_ne {placements : List Placement}
    {place : (String × String) × String}
    (elsewhere : ∀ placement ∈ placements, placement.localeId ≠ place.2) :
    Catalog.renderingAt? (placements.foldl (add rules target) empty).categories place = none := by
  have records := records_foldl_add rules target placements
  rw [← Option.not_isSome_iff_eq_none]
  intro present
  obtain ⟨placement, member, -, -, same⟩ := (records.rendering_iff _ _ _).1 present
  exact elsewhere placement member same

theorem categories_append {front back : List Placement}
    (apart : ∀ placement ∈ front, ∀ other ∈ back, placement.localeId ≠ other.localeId) :
    ((front ++ back).foldl (add rules target) empty).categories =
      Catalog.merge (front.foldl (add rules target) empty).categories
        (back.foldl (add rules target) empty).categories := by
  -- From the end, so that each step adds a placement behind both folds.
  induction back using List.reverseRecOn with
  | nil =>
    rw [List.append_nil]
    rfl
  | append_singleton back placement ih =>
    have before := ih fun other member further inside =>
      apart other member further (List.mem_append_left _ inside)
    rw [← List.append_assoc, List.foldl_append, List.foldl_append (l := back)]
    exact categories_add_of_merge rules target _ placement before <|
      renderingAt?_eq_none_of_forall_ne rules target fun other member =>
        apart other member placement (by simp)

theorem renderings_apart {front back : List Placement}
    (apart : ∀ placement ∈ front, ∀ other ∈ back, placement.localeId ≠ other.localeId)
    (place : (String × String) × String) :
    Catalog.renderingAt? (front.foldl (add rules target) empty).categories place = none ∨
      Catalog.renderingAt? (back.foldl (add rules target) empty).categories place = none := by
  by_cases inFront : ∃ placement ∈ front, placement.localeId = place.2
  · obtain ⟨placement, member, inLocale⟩ := inFront
    refine .inr (renderingAt?_eq_none_of_forall_ne rules target fun other further same => ?_)
    exact apart placement member other further (inLocale.trans same.symm)
  · refine .inl (renderingAt?_eq_none_of_forall_ne rules target fun placement member same => ?_)
    exact inFront ⟨placement, member, same⟩

theorem renderingAt?_filter (placements : List Placement) (place : (String × String) × String) :
    Catalog.renderingAt? ((placements.filter (·.localeId = place.2)).foldl (add rules target)
      empty).categories place =
      Catalog.renderingAt? (placements.foldl (add rules target) empty).categories place := by
  induction placements using List.reverseRecOn with
  | nil => rfl
  | append_singleton placements placement ih =>
    rw [List.filter_append, List.foldl_append, List.foldl_append, List.foldl_cons, List.foldl_nil,
      renderingAt?_categories_add, ← ih]
    by_cases inLocale : placement.localeId = place.2
    · rw [List.filter_cons_of_pos (by simpa using inLocale), List.filter_nil, List.foldl_cons,
        List.foldl_nil, renderingAt?_categories_add]
    · have elsewhere : ¬(place.1.1 = placement.categoryKey ∧ place.1.2 = placement.phraseKey ∧
          place.2 = placement.localeId) := fun here => inLocale here.2.2.symm
      simp [inLocale, elsewhere]

end Parts

/-! ## Order -/

section Order

variable {inferrer : Inferrer} {target : ImportTarget} {made other : Import}
  {placements others : List Placement} {title : String → String}

theorem Marked.eq_new_of_bareCategoryAt? (marked : made.Marked target placements)
    (titled : ∀ placement ∈ placements,
      Title.ofKey placement.folder = title placement.categoryKey)
    {key : String} {category : Category}
    (found : Catalog.bareCategoryAt? made.categories key = some category) :
    category = Category.new key (title key) target.owner := by
  obtain ⟨full, present, rfl⟩ := Option.map_eq_some_iff.1 found
  obtain ⟨placement, member, rfl, bare⟩ := marked.category key full present
  rw [bare, titled placement member]

theorem withoutArguments_bare_eq (records : made.Records inferrer placements)
    (otherRecords : other.Records inferrer others) (marked : made.Marked target placements)
    (otherMarked : other.Marked target others)
    (same : ∀ placement, placement ∈ placements ↔ placement ∈ others)
    {categoryKey phraseKey : String} {phrase phrase' : Phrase}
    (found : made.phraseAt? categoryKey phraseKey = some phrase)
    (found' : other.phraseAt? categoryKey phraseKey = some phrase') :
    phrase.bare.withoutArguments = phrase'.bare.withoutArguments := by
  have heading : phrase.heading = phrase'.heading :=
    (marked.phrase _ _ _ found).trans (otherMarked.phrase _ _ _ found').symm
  have examples : phrase.examples = phrase'.examples := by
    rw [← examplesAt_of_phraseAt? found, ← examplesAt_of_phraseAt? found']
    exact records.examplesAt_eq otherRecords same categoryKey phraseKey
  have references : (phrase.references.mapValues fun _ _ => (none : Option String)) =
      phrase'.references.mapValues fun _ _ => none := by
    refine Dictionary.ext_get? fun name => ?_
    rw [Dictionary.get?_mapValues, Dictionary.get?_mapValues, records.reference _ _ _ found,
      otherRecords.reference _ _ _ found']
    refine Dictionary.eq_of_isSome_iff ?_ ?_
    · simp [Placement.isSome_argumentOf?, same]
    · intro _ _ argument argument'
      obtain ⟨_, -, rfl⟩ := Option.map_eq_some_iff.1 argument
      obtain ⟨_, -, rfl⟩ := Option.map_eq_some_iff.1 argument'
      rfl
  simp only [Phrase.heading, Phrase.mk.injEq] at heading
  simp only [Phrase.withoutArguments, Phrase.bare, references, examples, heading]

/-- But for titles of categories and arguments of references, it does not matter in which order
the placements in different locales come. -/
theorem withoutArguments_eq (rules : ImportRules) (target : ImportTarget)
    (titled : ∀ placement ∈ placements,
      Title.ofKey placement.folder = title placement.categoryKey)
    (same : ∀ localeId, placements.filter (·.localeId = localeId) =
      others.filter (·.localeId = localeId)) :
    Catalog.withoutArguments (placements.foldl (add rules target) empty).categories =
      Catalog.withoutArguments (others.foldl (add rules target) empty).categories := by
  have sameMembers : ∀ placement, placement ∈ placements ↔ placement ∈ others := by
    intro placement
    have inside := congrArg (placement ∈ ·) (same placement.localeId)
    simpa using inside
  have otherTitled : ∀ placement ∈ others,
      Title.ofKey placement.folder = title placement.categoryKey :=
    fun placement member => titled placement ((sameMembers placement).2 member)
  have records := records_foldl_add rules target placements
  have otherRecords := records_foldl_add rules target others
  have marked := marked_foldl_add rules target placements
  have otherMarked := marked_foldl_add rules target others
  refine Catalog.ext (fun key => ?_) (fun place => ?_) fun place => ?_
  · rw [Catalog.bareCategoryAt?_withoutArguments, Catalog.bareCategoryAt?_withoutArguments]
    refine Dictionary.eq_of_isSome_iff ?_ fun category category' found found' => ?_
    · simp only [Catalog.bareCategoryAt?, Option.isSome_map, records.category_iff,
        otherRecords.category_iff, sameMembers]
    · rw [marked.eq_new_of_bareCategoryAt? titled found,
        otherMarked.eq_new_of_bareCategoryAt? otherTitled found']
  · rw [Catalog.barePhraseAt?, Catalog.barePhraseAt?, Catalog.phraseAt?_withoutArguments,
      Catalog.phraseAt?_withoutArguments, Option.map_map, Option.map_map]
    refine Dictionary.eq_of_isSome_iff ?_ fun phrase phrase' found found' => ?_
    · rw [Option.isSome_map, Option.isSome_map]
      refine (records.phrase_iff place.1 place.2).trans ?_
      refine .trans ?_ (otherRecords.phrase_iff place.1 place.2).symm
      simp only [sameMembers]
    · obtain ⟨full, present, rfl⟩ := Option.map_eq_some_iff.1 found
      obtain ⟨full', present', rfl⟩ := Option.map_eq_some_iff.1 found'
      exact withoutArguments_bare_eq records otherRecords marked otherMarked sameMembers present
        present'
  · rw [Catalog.renderingAt?_withoutArguments, Catalog.renderingAt?_withoutArguments,
      ← renderingAt?_filter, same, renderingAt?_filter]

end Order

end Import

/-! ## One after the other -/

namespace Store

def applyAll (store : Store) : List Import → Summary × Store
  | [] => (Summary.zero, store)
  | made :: rest =>
    let applied := store.apply made.categories
    let result := applied.2.applyAll rest
    (applied.1 + result.1, result.2)

theorem applyAll_eq_apply (store : Store) (rules : ImportRules) (target : ImportTarget)
    {parts : List (List Placement)}
    (apart : parts.Pairwise fun part other => ∀ placement ∈ part, ∀ further ∈ other,
      placement.localeId ≠ further.localeId) :
    store.applyAll (parts.map fun part => part.foldl (Import.add rules target) Import.empty) =
      store.apply (parts.flatten.foldl (Import.add rules target) Import.empty).categories := by
  induction parts generalizing store with
  | nil => rfl
  | cons part rest ih =>
    obtain ⟨apartHere, apartThere⟩ := List.pairwise_cons.1 apart
    have different : ∀ placement ∈ part, ∀ further ∈ rest.flatten,
        placement.localeId ≠ further.localeId := by
      intro placement member further inside
      obtain ⟨other, among, further_mem⟩ := List.mem_flatten.1 inside
      exact apartHere other among placement member further further_mem
    have renderings := Import.renderings_apart rules target different
    rw [List.map_cons, applyAll, ih _ apartThere, List.flatten_cons,
      Import.categories_append rules target different]
    exact Prod.ext (store.apply_merge_fst renderings).symm (store.apply_merge_snd renderings).symm

end Store

/-! ## Parts by locale -/

section Parts

variable {α κ : Type} [DecidableEq κ]

theorem filter_flatten_filter (keyOf : α → κ) {keys : List κ} (distinct : keys.Nodup)
    {values : List α} (covered : ∀ value ∈ values, keyOf value ∈ keys) (key : κ) :
    (keys.map fun part => values.filter (keyOf · = part)).flatten.filter (keyOf · = key) =
      values.filter (keyOf · = key) := by
  have parted : (keys.map fun part => values.filter (keyOf · = part)).flatten.filter
      (keyOf · = key) = if key ∈ keys then values.filter (keyOf · = key) else [] := by
    clear covered
    induction keys with
    | nil => simp
    | cons part rest ih =>
      obtain ⟨fresh, distinct⟩ := List.nodup_cons.1 distinct
      rw [List.map_cons, List.flatten_cons, List.filter_append, ih distinct, List.filter_filter]
      by_cases here : key = part
      · subst here
        simp [fresh]
      · have empty : values.filter (fun value =>
            decide (keyOf value = key) && decide (keyOf value = part)) = [] := by
          rw [List.filter_eq_nil_iff]
          intro value _ both
          simp only [Bool.and_eq_true, decide_eq_true_eq] at both
          exact here (both.1.symm.trans both.2)
        simp [empty, here]
  rw [parted]
  split
  · rfl
  · rename_i absent
    refine (List.filter_eq_nil_iff.2 fun value member same => absent ?_).symm
    exact of_decide_eq_true same ▸ covered value member

end Parts

namespace Placement

def partsBy (placements : List Placement) (localeIds : List (Option String)) :
    List (List Placement) :=
  localeIds.map fun localeId? => placements.filter fun placement =>
    some placement.localeId = localeId?

variable {placements : List Placement} {localeIds : List (Option String)}

theorem pairwise_partsBy (distinct : localeIds.Nodup) :
    (partsBy placements localeIds).Pairwise fun part other => ∀ placement ∈ part,
      ∀ further ∈ other, placement.localeId ≠ further.localeId := by
  refine List.pairwise_map.2 (distinct.imp ?_)
  intro localeId? other? different placement inPart further inOther same
  have here := of_decide_eq_true (List.mem_filter.1 inPart).2
  have there := of_decide_eq_true (List.mem_filter.1 inOther).2
  exact different (here.symm.trans ((congrArg some same).trans there))

theorem filter_flatten_partsBy (distinct : localeIds.Nodup)
    (covered : ∀ placement ∈ placements, some placement.localeId ∈ localeIds) (localeId : String) :
    (partsBy placements localeIds).flatten.filter (·.localeId = localeId) =
      placements.filter (·.localeId = localeId) := by
  have found := filter_flatten_filter (fun placement : Placement => some placement.localeId)
    distinct covered (some localeId)
  simp only [Option.some.injEq] at found
  exact found

end Placement

theorem Store.applyAll_partsBy (store : Store) (rules : ImportRules) (target : ImportTarget)
    {placements : List Placement} {localeIds : List (Option String)} (distinct : localeIds.Nodup)
    (covered : ∀ placement ∈ placements, some placement.localeId ∈ localeIds)
    {title : String → String} (titled : ∀ placement ∈ placements,
      Title.ofKey placement.folder = title placement.categoryKey) :
    let parts := (Placement.partsBy placements localeIds).map
      (·.foldl (Import.add rules target) Import.empty)
    let made := placements.foldl (Import.add rules target) Import.empty
    (store.applyAll parts).2.withoutArguments =
      (store.apply made.categories).2.withoutArguments ∧
    (store.applyAll parts).1 = (store.apply made.categories).1 := by
  have same := Import.withoutArguments_eq rules target titled fun localeId =>
    (Placement.filter_flatten_partsBy distinct covered localeId).symm
  obtain ⟨summary, after⟩ := store.apply_of_withoutArguments_eq same
  simp only [store.applyAll_eq_apply rules target (Placement.pairwise_partsBy distinct)]
  exact ⟨after.symm, summary.symm⟩

end Phrasebook
