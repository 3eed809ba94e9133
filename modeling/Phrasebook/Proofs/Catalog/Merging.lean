import Phrasebook.Proofs.Catalog.Accounting

/-!
# Merging catalogs

A catalog is seen at its places: categories without their phrases, phrases without their
renderings, and renderings. Catalogs that agree at every place are equal (`Catalog.ext`), and
merging two of them acts on each place alone.

Merging catalogs that share no rendering is associative (`Catalog.merge_assoc`). What it makes is
applied in one step or in two, with the same result and the same counts
(`Store.apply_merge_snd`, `Store.apply_merge_fst`).
-/

namespace Phrasebook

def Category.bare (category : Category) : Category := { category with phrases := ∅ }

def Phrase.bare (phrase : Phrase) : Phrase := { phrase with renderings := ∅ }

theorem Phrase.bare_absorb_assoc (phrase first second : Phrase) :
    ((phrase.absorb first).absorb second).bare = (phrase.absorb (first.absorb second)).bare := by
  simp only [absorb, bare]
  rw [Dictionary.merge_assoc _ (fun _ _ _ => rfl), Dictionary.merge_assoc _ (fun _ _ _ => rfl)]

namespace Catalog

def merge (former incoming : Dictionary Category) : Dictionary Category :=
  former.merge Category.absorb incoming

def bareCategoryAt? (categories : Dictionary Category) (key : String) : Option Category :=
  (categories.get? key).map Category.bare

def barePhraseAt? (categories : Dictionary Category) (place : String × String) : Option Phrase :=
  (phraseAt? categories place).map Phrase.bare

section Places

variable {former incoming : Dictionary Category}

theorem ext (categories : ∀ key, bareCategoryAt? former key = bareCategoryAt? incoming key)
    (phrases : ∀ place, barePhraseAt? former place = barePhraseAt? incoming place)
    (renderings : ∀ place, renderingAt? former place = renderingAt? incoming place) :
    former = incoming := by
  have samePhrases : ∀ place, phraseAt? former place = phraseAt? incoming place := by
    intro place
    have bare := phrases place
    have inside := fun localeId => renderings (place, localeId)
    unfold barePhraseAt? at bare
    simp only [renderingAt?] at inside
    cases left : phraseAt? former place with
    | none => simpa [left, eq_comm] using bare
    | some phrase =>
      cases right : phraseAt? incoming place with
      | none => simp [left, right] at bare
      | some other =>
        simp only [left, right, Option.map_some, Option.some.injEq, Option.bind_some] at bare inside
        have held : phrase.renderings = other.renderings := Dictionary.ext_get? inside
        cases phrase
        cases other
        simp_all [Phrase.bare]
  refine Dictionary.ext_get? fun key => ?_
  have bare := categories key
  have inside := fun phraseKey => samePhrases (key, phraseKey)
  unfold bareCategoryAt? at bare
  simp only [phraseAt?] at inside
  cases left : former.get? key with
  | none => simpa [left, eq_comm] using bare
  | some category =>
    cases right : incoming.get? key with
    | none => simp [left, right] at bare
    | some other =>
      simp only [left, right, Option.map_some, Option.some.injEq, Option.bind_some] at bare inside
      have held : category.phrases = other.phrases := Dictionary.ext_get? inside
      cases category
      cases other
      simp_all [Category.bare]

variable (former incoming)

theorem get?_merge (key : String) : (merge former incoming).get? key =
    Option.merge Category.absorb (former.get? key) (incoming.get? key) :=
  Dictionary.get?_merge _ _ _ _

theorem bareCategoryAt?_merge (key : String) : bareCategoryAt? (merge former incoming) key =
    (bareCategoryAt? former key).or (bareCategoryAt? incoming key) := by
  simp only [bareCategoryAt?, get?_merge]
  cases former.get? key <;> cases incoming.get? key <;> rfl

theorem phraseAt?_merge (place : String × String) : phraseAt? (merge former incoming) place =
    Option.merge Phrase.absorb (phraseAt? former place) (phraseAt? incoming place) := by
  simp only [phraseAt?, get?_merge]
  cases former.get? place.1 <;> cases incoming.get? place.1 <;> simp [Category.absorb]

theorem barePhraseAt?_merge (place : String × String) :
    barePhraseAt? (merge former incoming) place =
      Option.merge Phrase.absorb (barePhraseAt? former place) (barePhraseAt? incoming place) := by
  simp only [barePhraseAt?, phraseAt?_merge]
  cases phraseAt? former place <;> cases phraseAt? incoming place <;>
    simp [Phrase.absorb, Phrase.bare]

theorem renderingAt?_merge (place : (String × String) × String) :
    renderingAt? (merge former incoming) place = Option.merge Rendering.absorb
      (renderingAt? former place) (renderingAt? incoming place) := by
  simp only [renderingAt?, phraseAt?_merge]
  cases phraseAt? former place.1 <;> cases phraseAt? incoming place.1 <;> simp [Phrase.absorb]

end Places

/-! ## Laws -/

section Laws

variable {first second : Dictionary Category}

theorem merge_assoc (former : Dictionary Category)
    (apart : ∀ place, renderingAt? first place = none ∨ renderingAt? second place = none) :
    merge (merge former first) second = merge former (merge first second) := by
  refine ext (fun key => ?_) (fun place => ?_) fun place => ?_
  · simp only [bareCategoryAt?_merge, Option.or_assoc]
  · simp only [barePhraseAt?, phraseAt?_merge]
    cases phraseAt? former place <;> cases phraseAt? first place <;>
      cases phraseAt? second place <;> simp [Phrase.bare_absorb_assoc]
  · simp only [renderingAt?_merge]
    rcases apart place with absent | absent <;> simp [absent]

theorem renderingAt?_eq_none {categories : Dictionary Category} {place : String × String}
    (absent : phraseAt? categories place = none) (localeId : String) :
    renderingAt? categories (place, localeId) = none := by
  simp [renderingAt?, absent]

theorem merge_comm
    (apart : ∀ place, phraseAt? first place = none ∨ phraseAt? second place = none)
    (agree : ∀ key category other, first.get? key = some category →
      second.get? key = some other → category.bare = other.bare) :
    merge first second = merge second first := by
  refine ext (fun key => ?_) (fun place => ?_) fun place => ?_
  · rw [bareCategoryAt?_merge, bareCategoryAt?_merge]
    simp only [bareCategoryAt?]
    cases left : first.get? key with
    | none => simp
    | some category =>
      cases right : second.get? key with
      | none => simp
      | some other => simp [agree key category other left right]
  · rw [barePhraseAt?_merge, barePhraseAt?_merge]
    rcases apart place with absent | absent <;> simp [barePhraseAt?, absent]
  · rw [renderingAt?_merge, renderingAt?_merge]
    rcases apart place.1 with absent | absent <;>
      simp [renderingAt?_eq_none absent place.2]

end Laws

end Catalog

/-! ## Repetition -/

namespace Rendering

theorem text_absorb (former incoming : Rendering) :
    (former.absorb incoming).text = incoming.text := by
  cases differs : former.differsFrom incoming with
  | true => rw [absorb, if_pos differs]
  | false => simp [absorb, differs, (differsFrom_eq_false_iff.1 differs).1]

theorem contexts_absorb (former incoming : Rendering) :
    (former.absorb incoming).contexts = incoming.contexts := by
  cases differs : former.differsFrom incoming with
  | true => rw [absorb, if_pos differs]
  | false => simp [absorb, differs, (differsFrom_eq_false_iff.1 differs).2]

theorem absorb_of_same {rendering other : Rendering} (text : rendering.text = other.text)
    (contexts : rendering.contexts = other.contexts) : rendering.absorb other = rendering :=
  (joins_absorb rendering other).unchanged text contexts

theorem absorb_self (rendering : Rendering) : rendering.absorb rendering = rendering :=
  absorb_of_same rfl rfl

theorem absorb_absorb_self (rendering other : Rendering) :
    (rendering.absorb other).absorb other = rendering.absorb other :=
  absorb_of_same (text_absorb rendering other) (contexts_absorb rendering other)

end Rendering

namespace Phrase

theorem absorb_self (phrase : Phrase) : phrase.absorb phrase = phrase := by
  rw [absorb, Dictionary.merge_self _ (fun _ => rfl), Dictionary.merge_self _ (fun _ => rfl),
    Dictionary.merge_self _ Rendering.absorb_self]

theorem absorb_absorb_self (phrase other : Phrase) :
    (phrase.absorb other).absorb other = phrase.absorb other := by
  simp only [absorb]
  rw [Dictionary.merge_merge_self (fun _ new => new) (fun _ _ => rfl) (fun _ => rfl),
    Dictionary.merge_merge_self (fun former _ => former) (fun _ _ => rfl) (fun _ => rfl),
    Dictionary.merge_merge_self _ Rendering.absorb_absorb_self Rendering.absorb_self]

end Phrase

namespace Category

theorem absorb_self (category : Category) : category.absorb category = category := by
  rw [absorb, Dictionary.merge_self _ Phrase.absorb_self]

theorem absorb_absorb_self (category other : Category) :
    (category.absorb other).absorb other = category.absorb other := by
  simp only [absorb]
  rw [Dictionary.merge_merge_self _ Phrase.absorb_absorb_self Phrase.absorb_self]

end Category

theorem Catalog.merge_merge_self (former incoming : Dictionary Category) :
    merge (merge former incoming) incoming = merge former incoming :=
  Dictionary.merge_merge_self _ Category.absorb_absorb_self Category.absorb_self former incoming

/-! ## Counts -/

section Counts

variable {ι α : Type}

theorem finite_places (entries : List (ι × α)) :
    {place | ∃ value, (place, value) ∈ entries}.Finite := by
  refine (List.finite_toSet (entries.map (·.1))).subset ?_
  rintro place ⟨value, member⟩
  exact List.mem_map.2 ⟨(place, value), member, rfl⟩

/-- What two values create one after the other is what they create together. -/
theorem ncard_created_merge (combine : α → α → α) (former : ι → Option α)
    {first second : ι → Option α} (finite : {place | ∃ new, first place = some new}.Finite)
    (finite' : {place | ∃ new, second place = some new}.Finite) :
    {place | ∃ new, Option.merge combine (first place) (second place) = some new ∧
      former place = none}.ncard =
    {place | ∃ new, first place = some new ∧ former place = none}.ncard +
      {place | ∃ new, second place = some new ∧
        Option.merge combine (former place) (first place) = none}.ncard := by
  have early : {place | ∃ new, first place = some new ∧ former place = none}.Finite :=
    finite.subset fun place ⟨new, found, _⟩ => ⟨new, found⟩
  have late : {place | ∃ new, second place = some new ∧
      Option.merge combine (former place) (first place) = none}.Finite :=
    finite'.subset fun place ⟨new, found, _⟩ => ⟨new, found⟩
  rw [← Set.ncard_union_eq ?_ early late]
  · congr 1
    ext place
    simp only [Set.mem_ofPred_eq, Set.mem_union]
    cases former place <;> cases first place <;> cases second place <;> simp
  · rw [Set.disjoint_left]
    rintro place ⟨new, found, -⟩ ⟨other, -, absent⟩
    simp [found] at absent

theorem ncard_met_merge (combine : α → α → α) (former : ι → Option α)
    {first second : ι → Option α} (finite : {place | ∃ new, first place = some new}.Finite)
    (finite' : {place | ∃ new, second place = some new}.Finite)
    (apart : ∀ place, first place = none ∨ second place = none) (meets : α → α → Prop) :
    {place | ∃ new, Option.merge combine (first place) (second place) = some new ∧
      ∃ old, former place = some old ∧ meets old new}.ncard =
    {place | ∃ new, first place = some new ∧
      ∃ old, former place = some old ∧ meets old new}.ncard +
      {place | ∃ new, second place = some new ∧
        ∃ old, Option.merge combine (former place) (first place) = some old ∧
          meets old new}.ncard := by
  have early : {place | ∃ new, first place = some new ∧
      ∃ old, former place = some old ∧ meets old new}.Finite :=
    finite.subset fun place ⟨new, found, _⟩ => ⟨new, found⟩
  have late : {place | ∃ new, second place = some new ∧
      ∃ old, Option.merge combine (former place) (first place) = some old ∧
        meets old new}.Finite :=
    finite'.subset fun place ⟨new, found, _⟩ => ⟨new, found⟩
  rw [← Set.ncard_union_eq ?_ early late]
  · congr 1
    ext place
    simp only [Set.mem_ofPred_eq, Set.mem_union]
    rcases apart place with absent | absent <;> simp [absent]
  · rw [Set.disjoint_left]
    rintro place ⟨new, found, -⟩ ⟨other, found', -⟩
    rcases apart place with absent | absent
    · simp [absent] at found
    · simp [absent] at found'

end Counts

namespace Catalog

variable (categories : Dictionary Category)

theorem finite_categories : {key | ∃ category, categories.get? key = some category}.Finite := by
  simpa only [Dictionary.mem_entries_iff] using finite_places categories.entries

theorem finite_phrases : {place | ∃ phrase, phraseAt? categories place = some phrase}.Finite := by
  simpa only [mem_phrases] using finite_places (phrases categories)

theorem finite_renderings :
    {place | ∃ rendering, renderingAt? categories place = some rendering}.Finite := by
  simpa only [mem_renderings] using finite_places (renderings categories)

end Catalog

namespace Store

open Catalog

variable (store : Store) {first second : Dictionary Category}

theorem apply_merge_snd
    (apart : ∀ place, renderingAt? first place = none ∨ renderingAt? second place = none) :
    (store.apply (merge first second)).2 = ((store.apply first).2.apply second).2 :=
  congrArg (fun categories => { store with categories })
    (merge_assoc store.categories apart).symm

theorem apply_merge_fst
    (apart : ∀ place, renderingAt? first place = none ∨ renderingAt? second place = none) :
    (store.apply (merge first second)).1 =
      (store.apply first).1 + ((store.apply first).2.apply second).1 := by
  have together := store.counts_apply (merge first second)
  have before := store.counts_apply first
  have behind := (store.apply first).2.counts_apply second
  have applied : (store.apply first).2.categories = merge store.categories first := rfl
  rw [applied] at behind
  ext
  · refine together.categoriesCreated.trans ?_
    refine .trans ?_ (congrArg₂ (· + ·) before.categoriesCreated behind.categoriesCreated).symm
    simp only [get?_merge]
    exact ncard_created_merge _ _ (finite_categories first) (finite_categories second)
  · refine together.phrasesCreated.trans ?_
    refine .trans ?_ (congrArg₂ (· + ·) before.phrasesCreated behind.phrasesCreated).symm
    simp only [phraseAt?_merge]
    exact ncard_created_merge _ _ (finite_phrases first) (finite_phrases second)
  · refine together.renderingsCreated.trans ?_
    refine .trans ?_ (congrArg₂ (· + ·) before.renderingsCreated behind.renderingsCreated).symm
    simp only [renderingAt?_merge]
    exact ncard_created_merge _ _ (finite_renderings first) (finite_renderings second)
  · refine together.renderingsUpdated.trans ?_
    refine .trans ?_ (congrArg₂ (· + ·) before.renderingsUpdated behind.renderingsUpdated).symm
    simp only [renderingAt?_merge]
    exact ncard_met_merge _ _ (finite_renderings first) (finite_renderings second) apart
      fun old new => old.text ≠ new.text ∨ old.contexts ≠ new.contexts
  · refine together.renderingsUnchanged.trans ?_
    refine .trans ?_ (congrArg₂ (· + ·) before.renderingsUnchanged behind.renderingsUnchanged).symm
    simp only [renderingAt?_merge]
    exact ncard_met_merge _ _ (finite_renderings first) (finite_renderings second) apart
      fun old new => old.text = new.text ∧ old.contexts = new.contexts

end Store

end Phrasebook
