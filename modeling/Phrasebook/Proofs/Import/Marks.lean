import Phrasebook.Proofs.Catalog.Merging
import Phrasebook.Proofs.Import.Records

namespace Phrasebook

def Phrase.heading (phrase : Phrase) : Phrase :=
  { phrase with examples := ∅, references := ∅, renderings := ∅ }

def Rendering.heading (rendering : Rendering) : Rendering :=
  { rendering with text := "", contexts := ∅ }

namespace Import

structure Marked (made : Import) (target : ImportTarget) (placements : List Placement) :
    Prop where
  category : ∀ categoryKey category, made.categories.get? categoryKey = some category →
    ∃ placement ∈ placements, placement.categoryKey = categoryKey ∧
      category.bare = Category.new categoryKey (Title.ofKey placement.folder) target.owner
  phrase : ∀ categoryKey phraseKey phrase,
    made.phraseAt? categoryKey phraseKey = some phrase →
      phrase.heading = Phrase.new phraseKey (Title.ofKey phraseKey) target.owner
  rendering : ∀ categoryKey phraseKey localeId rendering,
    made.renderingAt? categoryKey phraseKey localeId = some rendering →
      rendering.heading = Rendering.new localeId target.origin target.owner

theorem marked_empty (target : ImportTarget) : empty.Marked target [] where
  category _ _ found := by cases found
  phrase _ _ _ found := by cases found
  rendering _ _ _ _ found := by cases found

section Step

variable {made : Import} {rules : ImportRules} {target : ImportTarget}
  {placements : List Placement}

theorem Marked.category_add (marked : made.Marked target placements)
    (placement : Placement) (categoryKey : String) (category : Category)
    (found : (add rules target made placement).categories.get? categoryKey = some category) :
    ∃ other ∈ placements ++ [placement], other.categoryKey = categoryKey ∧
      category.bare = Category.new categoryKey (Title.ofKey other.folder) target.owner := by
  obtain ⟨examples, stepped⟩ := get?_categories_add rules target made placement
  have earlier : ∀ former, made.categories.get? categoryKey = some former →
      ∃ other ∈ placements ++ [placement], other.categoryKey = categoryKey ∧
        former.bare = Category.new categoryKey (Title.ofKey other.folder) target.owner := by
    intro former present
    obtain ⟨other, member, same, bare⟩ := marked.category _ _ present
    exact ⟨other, List.mem_append_left _ member, same, bare⟩
  rw [stepped] at found
  split at found
  · rename_i here
    obtain rfl := Option.some.inj found
    cases former : made.categories.get? categoryKey with
    | none => exact ⟨placement, by simp, here.symm, rfl⟩
    | some category => exact earlier category former
  · exact earlier category found

theorem Marked.phrase_add (marked : made.Marked target placements)
    (placement : Placement) (categoryKey phraseKey : String) (phrase : Phrase)
    (found : (add rules target made placement).phraseAt? categoryKey phraseKey = some phrase) :
    phrase.heading = Phrase.new phraseKey (Title.ofKey phraseKey) target.owner := by
  obtain ⟨examples, stepped⟩ := phraseAt?_add rules target made placement
  rw [stepped] at found
  split at found
  · obtain rfl := Option.some.inj found
    cases former : made.phraseAt? categoryKey phraseKey with
    | none => rfl
    | some phrase => exact marked.phrase _ _ phrase former
  · exact marked.phrase _ _ _ found

theorem heading_receive (rendering : Rendering) (origin : Origin) (context? : Option String)
    (text : String) : (rendering.receive origin context? text).heading =
      { rendering.heading with origin } := by
  cases context? <;> rfl

theorem Marked.rendering_add (marked : made.Marked target placements)
    (placement : Placement) (categoryKey phraseKey localeId : String) (rendering : Rendering)
    (found : (add rules target made placement).renderingAt? categoryKey phraseKey localeId =
      some rendering) :
    rendering.heading = Rendering.new localeId target.origin target.owner := by
  rw [renderingAt?_add] at found
  split at found
  · obtain rfl := Option.some.inj found
    rw [heading_receive]
    cases former : made.renderingAt? categoryKey phraseKey localeId with
    | none => rfl
    | some rendering =>
      rw [Option.getD_some, marked.rendering _ _ _ _ former]
      rfl
  · exact marked.rendering _ _ _ _ found

theorem Marked.add (marked : made.Marked target placements)
    (placement : Placement) :
    (Import.add rules target made placement).Marked target
      (placements ++ [placement]) where
  category := marked.category_add placement
  phrase := marked.phrase_add placement
  rendering := marked.rendering_add placement

end Step

theorem marked_foldl_add (rules : ImportRules) (target : ImportTarget)
    (placements : List Placement) :
    (placements.foldl (add rules target) empty).Marked target placements := by
  induction placements using List.reverseRecOn with
  | nil => exact marked_empty target
  | append_singleton placements placement ih =>
    rw [List.foldl_append]
    exact ih.add placement

end Import

end Phrasebook
