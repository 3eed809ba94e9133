import Mathlib.Data.List.Induction
import Phrasebook.Import.Basic
import Phrasebook.Proofs.Inference.Outcome

/-!
# What an import records

A placement belongs in a slot: a phrase of a category, in a locale, plain or for a context. The
slots of its placements tell what an import makes (`Import.Records`):

* entities exist where something was placed and nowhere else;
* a context has the last text of its slot, and a plain rendering the last that is not empty;
* a reference has the argument of the first text of the phrase that refers to it;
* a variable has the example for its name, and a phrase has those that its texts name.

Each placement keeps this (`Records.add`), so that it holds of a whole import
(`records_foldl_add`).
-/

namespace Phrasebook

/-- Where a text belongs: in a rendering of a phrase, plain or for a context. -/
structure Slot where
  categoryKey : String
  phraseKey : String
  localeId : String
  context? : Option String
deriving DecidableEq

namespace Placement

def slot (placement : Placement) : Slot :=
  ⟨placement.categoryKey, placement.phraseKey, placement.localeId, placement.context?⟩

def textsIn (placements : List Placement) (slot : Slot) : List String :=
  (placements.filter (·.slot = slot)).map (·.text)

theorem textsIn_append_singleton (placements : List Placement) (placement : Placement)
    (slot : Slot) : textsIn (placements ++ [placement]) slot =
      if placement.slot = slot then textsIn placements slot ++ [placement.text]
      else textsIn placements slot := by
  by_cases here : placement.slot = slot <;> simp [textsIn, here]

def site (placement : Placement) : MessageSite :=
  ⟨placement.categoryKey, placement.phraseKey, placement.text⟩

def argumentOf? (inferrer : Inferrer) (placements : List Placement)
    (categoryKey phraseKey name : String) : Option (Option String) :=
  (placements.filter fun placement =>
    placement.categoryKey = categoryKey ∧ placement.phraseKey = phraseKey).findSome?
      fun placement => inferrer.argumentIn? placement.text name

theorem argumentOf?_append_singleton (inferrer : Inferrer) (placements : List Placement)
    (placement : Placement) (categoryKey phraseKey name : String) :
    argumentOf? inferrer (placements ++ [placement]) categoryKey phraseKey name =
      if categoryKey = placement.categoryKey ∧ phraseKey = placement.phraseKey then
        (argumentOf? inferrer placements categoryKey phraseKey name).or
          (inferrer.argumentIn? placement.text name)
      else argumentOf? inferrer placements categoryKey phraseKey name := by
  by_cases here : categoryKey = placement.categoryKey ∧ phraseKey = placement.phraseKey
  · obtain ⟨rfl, rfl⟩ := here
    simp [argumentOf?, List.findSome?_append]
  · have elsewhere :
        ¬(placement.categoryKey = categoryKey ∧ placement.phraseKey = phraseKey) :=
      fun ⟨category, phrase⟩ => here ⟨category.symm, phrase.symm⟩
    rw [if_neg here]
    simp [argumentOf?, elsewhere]

theorem isSome_argumentOf? (inferrer : Inferrer) (placements : List Placement)
    (categoryKey phraseKey name : String) :
    (argumentOf? inferrer placements categoryKey phraseKey name).isSome ↔
      ∃ placement ∈ placements, placement.categoryKey = categoryKey ∧
        placement.phraseKey = phraseKey ∧ (inferrer.argumentIn? placement.text name).isSome := by
  simp [argumentOf?, List.findSome?_isSome_iff, and_assoc]

end Placement

namespace Rendering

@[simp] theorem localeId_receive (rendering : Rendering) (origin : Origin)
    (context? : Option String) (text : String) :
    (rendering.receive origin context? text).localeId = rendering.localeId := by
  cases context? <;> rfl

theorem get?_contexts_receive (rendering : Rendering) (origin : Origin)
    (context? : Option String) (text context : String) :
    (rendering.receive origin context? text).contexts.get? context =
      if context? = some context then some text else rendering.contexts.get? context := by
  cases context? with
  | none => simp [receive]
  | some given => simp [receive, Dictionary.get?_insert, eq_comm]

theorem text_receive (rendering : Rendering) (origin : Origin) (context? : Option String)
    (text : String) : (rendering.receive origin context? text).text =
      if context? = none ∧ text ≠ "" then text else rendering.text := by
  cases context? with
  | none => by_cases blank : text = "" <;> simp [receive, blank]
  | some given => simp [receive]

end Rendering

namespace Import

def phraseAt? (made : Import) (categoryKey phraseKey : String) : Option Phrase :=
  (made.categories.get? categoryKey).bind (·.phrases.get? phraseKey)

def renderingAt? (made : Import) (categoryKey phraseKey localeId : String) : Option Rendering :=
  (made.phraseAt? categoryKey phraseKey).bind (·.renderings.get? localeId)

def examplesAt (made : Import) (categoryKey phraseKey : String) : Dictionary Json :=
  ((made.phraseAt? categoryKey phraseKey).map Phrase.examples).getD ∅

theorem examplesAt_of_phraseAt? {made : Import} {categoryKey phraseKey : String} {phrase : Phrase}
    (found : made.phraseAt? categoryKey phraseKey = some phrase) :
    made.examplesAt categoryKey phraseKey = phrase.examples := by
  rw [examplesAt, found]
  rfl

/-! ## One placement -/

theorem get?_categories_add (rules : ImportRules) (target : ImportTarget) (made : Import)
    (placement : Placement) : ∃ examples, ∀ categoryKey,
      (add rules target made placement).categories.get? categoryKey =
        if categoryKey = placement.categoryKey then
          let category := (made.categories.get? categoryKey).getD
            (Category.new categoryKey (Title.ofKey placement.folder) target.owner)
          some { category with
            phrases := category.phrases.alter placement.phraseKey fun phrase? =>
              (phrase?.getD (Phrase.new placement.phraseKey (Title.ofKey placement.phraseKey)
                target.owner)).receive target placement examples
                  (rules.inferrer.infer ⟨placement.categoryKey, placement.phraseKey,
                    placement.text⟩).references }
        else made.categories.get? categoryKey := by
  let inferred := rules.inferrer.infer
    ⟨placement.categoryKey, placement.phraseKey, placement.text⟩
  let former := ((made.phrase? placement).map (·.examples)).getD ∅
  refine ⟨(mergeVariables former inferred.examples).1, fun categoryKey => ?_⟩
  rw [add, Dictionary.get?_alter]
  by_cases here : categoryKey = placement.categoryKey
  · subst here
    rfl
  · rw [if_neg here, if_neg here]

theorem phraseAt?_add (rules : ImportRules) (target : ImportTarget) (made : Import)
    (placement : Placement) : ∃ examples, ∀ categoryKey phraseKey,
      (add rules target made placement).phraseAt? categoryKey phraseKey =
        if categoryKey = placement.categoryKey ∧ phraseKey = placement.phraseKey then
          some (((made.phraseAt? categoryKey phraseKey).getD
            (Phrase.new phraseKey (Title.ofKey phraseKey) target.owner)).receive target placement
              examples (rules.inferrer.infer ⟨placement.categoryKey, placement.phraseKey,
                placement.text⟩).references)
        else made.phraseAt? categoryKey phraseKey := by
  obtain ⟨examples, stepped⟩ := get?_categories_add rules target made placement
  refine ⟨examples, fun categoryKey phraseKey => ?_⟩
  rw [phraseAt?, stepped]
  by_cases atCategory : categoryKey = placement.categoryKey
  · subst atCategory
    rw [if_pos rfl, Option.bind_some, Dictionary.get?_alter, phraseAt?]
    by_cases atPhrase : phraseKey = placement.phraseKey
    · subst atPhrase
      cases made.categories.get? placement.categoryKey <;> simp [Category.new]
    · cases made.categories.get? placement.categoryKey <;> simp [Category.new, atPhrase]
  · simp [atCategory, phraseAt?]

theorem renderingAt?_add (rules : ImportRules) (target : ImportTarget) (made : Import)
    (placement : Placement) (categoryKey phraseKey localeId : String) :
    (add rules target made placement).renderingAt? categoryKey phraseKey localeId =
      if categoryKey = placement.categoryKey ∧ phraseKey = placement.phraseKey ∧
          localeId = placement.localeId then
        some (((made.renderingAt? categoryKey phraseKey localeId).getD
          (Rendering.new localeId target.origin target.owner)).receive target.origin
            placement.context? placement.text)
      else made.renderingAt? categoryKey phraseKey localeId := by
  obtain ⟨examples, stepped⟩ := phraseAt?_add rules target made placement
  rw [renderingAt?, stepped]
  by_cases atPhrase : categoryKey = placement.categoryKey ∧ phraseKey = placement.phraseKey
  · obtain ⟨rfl, rfl⟩ := atPhrase
    rw [if_pos ⟨rfl, rfl⟩, Option.bind_some, Phrase.receive, Dictionary.get?_alter, renderingAt?]
    by_cases atLocale : localeId = placement.localeId
    · subst atLocale
      cases made.phraseAt? placement.categoryKey placement.phraseKey <;> simp [Phrase.new]
    · cases made.phraseAt? placement.categoryKey placement.phraseKey <;>
        simp [Phrase.new, atLocale]
  · have elsewhere : ¬(categoryKey = placement.categoryKey ∧ phraseKey = placement.phraseKey ∧
        localeId = placement.localeId) := fun ⟨category, phrase, _⟩ => atPhrase ⟨category, phrase⟩
    rw [if_neg atPhrase, if_neg elsewhere, renderingAt?]

theorem examplesAt_add (rules : ImportRules) (target : ImportTarget) (made : Import)
    (placement : Placement) (categoryKey phraseKey : String) :
    (add rules target made placement).examplesAt categoryKey phraseKey =
      if categoryKey = placement.categoryKey ∧ phraseKey = placement.phraseKey then
        (made.examplesAt categoryKey phraseKey).merge (fun _ new => new)
          (rules.inferrer.infer placement.site).examples
      else made.examplesAt categoryKey phraseKey := by
  simp only [examplesAt, phraseAt?, add, Dictionary.get?_alter]
  by_cases atCategory : categoryKey = placement.categoryKey
  · subst atCategory
    rw [if_pos rfl, Option.bind_some, Dictionary.get?_alter]
    by_cases atPhrase : phraseKey = placement.phraseKey
    · subst atPhrase
      rw [if_pos rfl, if_pos ⟨rfl, rfl⟩]
      rfl
    · cases made.categories.get? placement.categoryKey <;> simp [Category.new, atPhrase]
  · simp [atCategory]

/-! ## All placements -/

structure Records (made : Import) (inferrer : Inferrer) (placements : List Placement) : Prop where
  category_iff : ∀ categoryKey, (made.categories.get? categoryKey).isSome ↔
    ∃ placement ∈ placements, placement.categoryKey = categoryKey
  phrase_iff : ∀ categoryKey phraseKey, (made.phraseAt? categoryKey phraseKey).isSome ↔
    ∃ placement ∈ placements,
      placement.categoryKey = categoryKey ∧ placement.phraseKey = phraseKey
  rendering_iff : ∀ categoryKey phraseKey localeId,
    (made.renderingAt? categoryKey phraseKey localeId).isSome ↔
      ∃ placement ∈ placements, placement.categoryKey = categoryKey ∧
        placement.phraseKey = phraseKey ∧ placement.localeId = localeId
  category_key : ∀ categoryKey category, made.categories.get? categoryKey = some category →
    category.key = categoryKey
  phrase_key : ∀ categoryKey phraseKey phrase,
    made.phraseAt? categoryKey phraseKey = some phrase → phrase.key = phraseKey
  rendering_locale : ∀ categoryKey phraseKey localeId rendering,
    made.renderingAt? categoryKey phraseKey localeId = some rendering →
      rendering.localeId = localeId
  context_text : ∀ categoryKey phraseKey localeId rendering,
    made.renderingAt? categoryKey phraseKey localeId = some rendering → ∀ context,
      rendering.contexts.get? context = (Placement.textsIn placements
        ⟨categoryKey, phraseKey, localeId, some context⟩).getLast?
  plain_text : ∀ categoryKey phraseKey localeId rendering,
    made.renderingAt? categoryKey phraseKey localeId = some rendering →
      rendering.text = (((Placement.textsIn placements
        ⟨categoryKey, phraseKey, localeId, none⟩).filter (· ≠ "")).getLast?).getD ""
  reference : ∀ categoryKey phraseKey phrase,
    made.phraseAt? categoryKey phraseKey = some phrase → ∀ name,
      phrase.references.get? name =
        Placement.argumentOf? inferrer placements categoryKey phraseKey name
  variable_iff : ∀ categoryKey phraseKey phrase,
    made.phraseAt? categoryKey phraseKey = some phrase → ∀ name shown,
      phrase.examples.get? name = some shown ↔ shown = Example.forName name ∧
        ∃ placement ∈ placements, placement.categoryKey = categoryKey ∧
          placement.phraseKey = phraseKey ∧ inferrer.Names placement.text name

theorem records_empty (inferrer : Inferrer) : empty.Records inferrer [] where
  category_iff categoryKey := by simp [empty]
  phrase_iff categoryKey phraseKey := by simp [empty, phraseAt?]
  rendering_iff categoryKey phraseKey localeId := by simp [empty, renderingAt?, phraseAt?]
  category_key _ _ found := by cases found
  phrase_key _ _ _ found := by cases found
  rendering_locale _ _ _ _ found := by cases found
  context_text _ _ _ _ found := by cases found
  plain_text _ _ _ _ found := by cases found
  reference _ _ _ found := by cases found
  variable_iff _ _ _ found := by cases found

section Former

variable {made : Import} {inferrer : Inferrer} {placements : List Placement}

theorem Records.textsIn_eq_nil (records : made.Records inferrer placements)
    {categoryKey phraseKey localeId : String}
    (absent : made.renderingAt? categoryKey phraseKey localeId = none)
    (context? : Option String) :
    Placement.textsIn placements ⟨categoryKey, phraseKey, localeId, context?⟩ = [] := by
  have nowhere : ¬∃ placement ∈ placements, placement.categoryKey = categoryKey ∧
      placement.phraseKey = phraseKey ∧ placement.localeId = localeId := by
    rw [← records.rendering_iff, absent]
    exact Bool.false_ne_true
  rw [Placement.textsIn, List.map_eq_nil_iff, List.filter_eq_nil_iff]
  intro placement member inSlot
  obtain ⟨category, phrase, locale, -⟩ := Slot.mk.inj (of_decide_eq_true inSlot)
  exact nowhere ⟨placement, member, category, phrase, locale⟩

/-- A rendering that is missing tells the same as a new one. -/
theorem Records.context_text_former (records : made.Records inferrer placements)
    (target : ImportTarget) (categoryKey phraseKey localeId context : String) :
    ((made.renderingAt? categoryKey phraseKey localeId).getD
      (Rendering.new localeId target.origin target.owner)).contexts.get? context =
        (Placement.textsIn placements
          ⟨categoryKey, phraseKey, localeId, some context⟩).getLast? := by
  cases found : made.renderingAt? categoryKey phraseKey localeId with
  | none => simp [records.textsIn_eq_nil found, Rendering.new]
  | some rendering => exact records.context_text _ _ _ _ found context

theorem Records.plain_text_former (records : made.Records inferrer placements)
    (target : ImportTarget) (categoryKey phraseKey localeId : String) :
    ((made.renderingAt? categoryKey phraseKey localeId).getD
      (Rendering.new localeId target.origin target.owner)).text =
        (((Placement.textsIn placements ⟨categoryKey, phraseKey, localeId, none⟩).filter
          (· ≠ "")).getLast?).getD "" := by
  cases found : made.renderingAt? categoryKey phraseKey localeId with
  | none => simp [records.textsIn_eq_nil found, Rendering.new]
  | some rendering => exact records.plain_text _ _ _ _ found

theorem Records.not_placed (records : made.Records inferrer placements)
    {categoryKey phraseKey : String} (absent : made.phraseAt? categoryKey phraseKey = none) :
    ¬∃ placement ∈ placements,
      placement.categoryKey = categoryKey ∧ placement.phraseKey = phraseKey := by
  rw [← records.phrase_iff, absent]
  exact Bool.false_ne_true

theorem Records.reference_former (records : made.Records inferrer placements)
    (target : ImportTarget) (categoryKey phraseKey title name : String) :
    ((made.phraseAt? categoryKey phraseKey).getD
      (Phrase.new phraseKey title target.owner)).references.get? name =
        Placement.argumentOf? inferrer placements categoryKey phraseKey name := by
  cases found : made.phraseAt? categoryKey phraseKey with
  | some phrase => exact records.reference _ _ _ found name
  | none =>
    have silent : placements.filter (fun placement =>
        placement.categoryKey = categoryKey ∧ placement.phraseKey = phraseKey) = [] := by
      rw [List.filter_eq_nil_iff]
      intro placement member here
      exact records.not_placed found ⟨placement, member, of_decide_eq_true here⟩
    rw [Placement.argumentOf?, silent]
    rfl

theorem Records.get?_examplesAt_iff (records : made.Records inferrer placements)
    (categoryKey phraseKey name : String) (shown : Json) :
    (made.examplesAt categoryKey phraseKey).get? name = some shown ↔
      shown = Example.forName name ∧ ∃ placement ∈ placements,
        placement.categoryKey = categoryKey ∧ placement.phraseKey = phraseKey ∧
          inferrer.Names placement.text name := by
  cases found : made.phraseAt? categoryKey phraseKey with
  | some phrase =>
    rw [examplesAt_of_phraseAt? found]
    exact records.variable_iff _ _ _ found name shown
  | none =>
    have nothing : made.examplesAt categoryKey phraseKey = ∅ := by
      rw [examplesAt, found]
      rfl
    constructor
    · intro known
      rw [nothing] at known
      cases known
    · rintro ⟨-, placement, member, category, phrase, -⟩
      exact absurd ⟨placement, member, category, phrase⟩ (records.not_placed found)

theorem Records.suitable (records : made.Records inferrer placements)
    (categoryKey phraseKey : String) :
    Example.Suitable (made.examplesAt categoryKey phraseKey) :=
  fun name shown found => ((records.get?_examplesAt_iff _ _ name shown).1 found).1

theorem Records.isSome_examplesAt_iff (records : made.Records inferrer placements)
    (categoryKey phraseKey name : String) :
    ((made.examplesAt categoryKey phraseKey).get? name).isSome ↔ ∃ placement ∈ placements,
      placement.categoryKey = categoryKey ∧ placement.phraseKey = phraseKey ∧
        inferrer.Names placement.text name := by
  simp only [Option.isSome_iff_exists, records.get?_examplesAt_iff, exists_eq_left]

theorem Records.examplesAt_eq {other : Import} {others : List Placement}
    (records : made.Records inferrer placements) (otherRecords : other.Records inferrer others)
    (same : ∀ placement, placement ∈ placements ↔ placement ∈ others)
    (categoryKey phraseKey : String) :
    made.examplesAt categoryKey phraseKey = other.examplesAt categoryKey phraseKey := by
  refine (records.suitable _ _).ext (otherRecords.suitable _ _) fun name => ?_
  simp only [records.isSome_examplesAt_iff, otherRecords.isSome_examplesAt_iff, same]

end Former

section Step

variable {made : Import} {rules : ImportRules} {placements : List Placement}

theorem Records.category_iff_add (records : made.Records rules.inferrer placements)
    (target : ImportTarget) (placement : Placement) (categoryKey : String) :
    ((add rules target made placement).categories.get? categoryKey).isSome ↔
      ∃ other ∈ placements ++ [placement], other.categoryKey = categoryKey := by
  obtain ⟨examples, stepped⟩ := get?_categories_add rules target made placement
  rw [stepped]
  split
  · rename_i here
    simp [here]
  · rename_i elsewhere
    simp [records.category_iff, Ne.symm elsewhere]

theorem Records.phrase_iff_add (records : made.Records rules.inferrer placements)
    (target : ImportTarget) (placement : Placement) (categoryKey phraseKey : String) :
    ((add rules target made placement).phraseAt? categoryKey phraseKey).isSome ↔
      ∃ other ∈ placements ++ [placement],
        other.categoryKey = categoryKey ∧ other.phraseKey = phraseKey := by
  obtain ⟨examples, stepped⟩ := phraseAt?_add rules target made placement
  rw [stepped]
  split
  · rename_i here
    simp [here]
  · rename_i elsewhere
    have other : ¬(placement.categoryKey = categoryKey ∧ placement.phraseKey = phraseKey) :=
      fun ⟨category, phrase⟩ => elsewhere ⟨category.symm, phrase.symm⟩
    simp [records.phrase_iff, or_and_right, exists_or, other]

theorem Records.rendering_iff_add (records : made.Records rules.inferrer placements)
    (target : ImportTarget) (placement : Placement) (categoryKey phraseKey localeId : String) :
    ((add rules target made placement).renderingAt? categoryKey phraseKey localeId).isSome ↔
      ∃ other ∈ placements ++ [placement], other.categoryKey = categoryKey ∧
        other.phraseKey = phraseKey ∧ other.localeId = localeId := by
  rw [renderingAt?_add]
  split
  · rename_i here
    simp [here]
  · rename_i elsewhere
    have other : ¬(placement.categoryKey = categoryKey ∧ placement.phraseKey = phraseKey ∧
        placement.localeId = localeId) :=
      fun ⟨category, phrase, locale⟩ => elsewhere ⟨category.symm, phrase.symm, locale.symm⟩
    simp [records.rendering_iff, or_and_right, exists_or, other]

theorem Records.category_key_add (records : made.Records rules.inferrer placements)
    (target : ImportTarget) (placement : Placement) (categoryKey : String) (category : Category)
    (found : (add rules target made placement).categories.get? categoryKey = some category) :
    category.key = categoryKey := by
  obtain ⟨examples, stepped⟩ := get?_categories_add rules target made placement
  rw [stepped] at found
  split at found
  · obtain rfl := Option.some.inj found
    cases former : made.categories.get? categoryKey with
    | none => rfl
    | some category =>
      have kept : category.key = categoryKey := records.category_key _ _ former
      exact kept
  · exact records.category_key _ _ found

theorem Records.phrase_key_add (records : made.Records rules.inferrer placements)
    (target : ImportTarget) (placement : Placement) (categoryKey phraseKey : String)
    (phrase : Phrase)
    (found : (add rules target made placement).phraseAt? categoryKey phraseKey = some phrase) :
    phrase.key = phraseKey := by
  obtain ⟨examples, stepped⟩ := phraseAt?_add rules target made placement
  rw [stepped] at found
  split at found
  · obtain rfl := Option.some.inj found
    cases former : made.phraseAt? categoryKey phraseKey with
    | none => rfl
    | some phrase =>
      have kept : phrase.key = phraseKey := records.phrase_key _ _ _ former
      exact kept
  · exact records.phrase_key _ _ _ found

theorem Records.rendering_locale_add (records : made.Records rules.inferrer placements)
    (target : ImportTarget) (placement : Placement) (categoryKey phraseKey localeId : String)
    (rendering : Rendering)
    (found : (add rules target made placement).renderingAt? categoryKey phraseKey localeId =
      some rendering) : rendering.localeId = localeId := by
  rw [renderingAt?_add] at found
  split at found
  · obtain rfl := Option.some.inj found
    rw [Rendering.localeId_receive]
    cases former : made.renderingAt? categoryKey phraseKey localeId with
    | none => rfl
    | some rendering => exact records.rendering_locale _ _ _ _ former
  · exact records.rendering_locale _ _ _ _ found

theorem Records.context_text_add (records : made.Records rules.inferrer placements)
    (target : ImportTarget) (placement : Placement) (categoryKey phraseKey localeId : String)
    (rendering : Rendering)
    (found : (add rules target made placement).renderingAt? categoryKey phraseKey localeId =
      some rendering) (context : String) :
    rendering.contexts.get? context = (Placement.textsIn (placements ++ [placement])
      ⟨categoryKey, phraseKey, localeId, some context⟩).getLast? := by
  rw [Placement.textsIn_append_singleton]
  rw [renderingAt?_add] at found
  split at found
  · rename_i here
    obtain ⟨rfl, rfl, rfl⟩ := here
    obtain rfl := Option.some.inj found
    rw [Rendering.get?_contexts_receive, records.context_text_former]
    by_cases same : placement.context? = some context <;> simp [Placement.slot, same]
  · rename_i elsewhere
    rw [if_neg fun inSlot => elsewhere ?_]
    · exact records.context_text _ _ _ _ found context
    · obtain ⟨rfl, rfl, rfl, -⟩ := Slot.mk.inj inSlot
      exact ⟨rfl, rfl, rfl⟩

theorem Records.plain_text_add (records : made.Records rules.inferrer placements)
    (target : ImportTarget) (placement : Placement) (categoryKey phraseKey localeId : String)
    (rendering : Rendering)
    (found : (add rules target made placement).renderingAt? categoryKey phraseKey localeId =
      some rendering) :
    rendering.text = (((Placement.textsIn (placements ++ [placement])
      ⟨categoryKey, phraseKey, localeId, none⟩).filter (· ≠ "")).getLast?).getD "" := by
  rw [Placement.textsIn_append_singleton]
  rw [renderingAt?_add] at found
  split at found
  · rename_i here
    obtain ⟨rfl, rfl, rfl⟩ := here
    obtain rfl := Option.some.inj found
    rw [Rendering.text_receive, records.plain_text_former]
    by_cases plain : placement.context? = none
    · by_cases blank : placement.text = "" <;> simp [Placement.slot, plain, blank]
    · simp [Placement.slot, plain]
  · rename_i elsewhere
    rw [if_neg fun inSlot => elsewhere ?_]
    · exact records.plain_text _ _ _ _ found
    · obtain ⟨rfl, rfl, rfl, -⟩ := Slot.mk.inj inSlot
      exact ⟨rfl, rfl, rfl⟩

theorem Records.reference_add (records : made.Records rules.inferrer placements)
    (target : ImportTarget) (placement : Placement) (categoryKey phraseKey : String)
    (phrase : Phrase)
    (found : (add rules target made placement).phraseAt? categoryKey phraseKey = some phrase)
    (name : String) :
    phrase.references.get? name = Placement.argumentOf? rules.inferrer
      (placements ++ [placement]) categoryKey phraseKey name := by
  obtain ⟨examples, stepped⟩ := phraseAt?_add rules target made placement
  rw [Placement.argumentOf?_append_singleton]
  rw [stepped] at found
  split at found
  · rename_i here
    obtain rfl := Option.some.inj found
    rw [if_pos here, Phrase.receive, Dictionary.get?_merge, records.reference_former,
      Inferrer.get?_references_infer]
    cases Placement.argumentOf? rules.inferrer placements categoryKey phraseKey name <;>
      cases rules.inferrer.argumentIn? placement.text name <;> simp
  · rename_i elsewhere
    rw [if_neg elsewhere]
    exact records.reference _ _ _ found name

theorem Records.variable_iff_add (records : made.Records rules.inferrer placements)
    (target : ImportTarget) (placement : Placement) (categoryKey phraseKey : String)
    (phrase : Phrase)
    (found : (add rules target made placement).phraseAt? categoryKey phraseKey = some phrase)
    (name : String) (shown : Json) :
    phrase.examples.get? name = some shown ↔ shown = Example.forName name ∧
      ∃ other ∈ placements ++ [placement], other.categoryKey = categoryKey ∧
        other.phraseKey = phraseKey ∧ rules.inferrer.Names other.text name := by
  rw [← examplesAt_of_phraseAt? found, examplesAt_add]
  split
  · rename_i here
    obtain ⟨rfl, rfl⟩ := here
    have suitable := records.suitable placement.categoryKey placement.phraseKey
    have new := rules.inferrer.isSome_examples_infer placement.site name
    rw [(suitable.merge (rules.inferrer.suitable_infer placement.site)).get?_eq_some_iff,
      Dictionary.get?_merge, Option.isSome_merge, Bool.or_eq_true, records.isSome_examplesAt_iff,
      new]
    simp [Placement.site, or_and_right, exists_or]
  · rename_i elsewhere
    have other : ¬(placement.categoryKey = categoryKey ∧ placement.phraseKey = phraseKey ∧
        rules.inferrer.Names placement.text name) :=
      fun ⟨category, phrase, _⟩ => elsewhere ⟨category.symm, phrase.symm⟩
    simp [records.get?_examplesAt_iff, or_and_right, exists_or, other]

theorem Records.add (records : made.Records rules.inferrer placements) (target : ImportTarget)
    (placement : Placement) :
    (Import.add rules target made placement).Records rules.inferrer (placements ++ [placement]) where
  category_iff := records.category_iff_add target placement
  phrase_iff := records.phrase_iff_add target placement
  rendering_iff := records.rendering_iff_add target placement
  category_key := records.category_key_add target placement
  phrase_key := records.phrase_key_add target placement
  rendering_locale := records.rendering_locale_add target placement
  context_text := records.context_text_add target placement
  plain_text := records.plain_text_add target placement
  reference := records.reference_add target placement
  variable_iff := records.variable_iff_add target placement

end Step

theorem records_foldl_add (rules : ImportRules) (target : ImportTarget)
    (placements : List Placement) :
    (placements.foldl (add rules target) empty).Records rules.inferrer placements := by
  -- From the end, since a fold makes its last step last.
  induction placements using List.reverseRecOn with
  | nil => exact records_empty rules.inferrer
  | append_singleton placements placement ih =>
    rw [List.foldl_append]
    exact ih.add target placement

end Import

end Phrasebook
