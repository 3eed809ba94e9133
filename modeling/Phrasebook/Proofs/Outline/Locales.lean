import Phrasebook.Proofs.Outline.Merging

namespace Phrasebook

instance {α : Type} : LawfulLabel (Dictionary α) where
  blank_combine label := Dictionary.empty_merge _ label
  combine_blank label := Dictionary.ext_get? fun key => by simp [Label.combine, Label.blank]
  combine_assoc := Dictionary.merge_assoc _ fun _ _ _ => rfl

namespace LocaleOutline

def textAt? (outline : LocaleOutline) (localeId : String) (path : List String) : Option String :=
  (outline.labelAt? path).bind (·.get? localeId)

theorem textAt?_merge (first second : LocaleOutline) (localeId : String) (path : List String) :
    textAt? (first.merge second) localeId path =
      (textAt? second localeId path).or (textAt? first localeId path) := by
  rw [textAt?, textAt?, textAt?, Trie.labelAt?_merge]
  cases first.labelAt? path with
  | none => simp
  | some texts =>
    cases second.labelAt? path with
    | none => simp
    | some others =>
      simp only [Option.merge_some_some, Option.bind_some, Label.combine, Dictionary.get?_merge]
      cases texts.get? localeId <;> cases others.get? localeId <;> rfl

end LocaleOutline

namespace Outline

theorem get?_textFor (localeId text otherId : String) :
    (textFor localeId text).get? otherId =
      if otherId = localeId ∧ text ≠ "" then some text else none := by
  by_cases blank : text = "" <;> simp [textFor, blank, Dictionary.get?_insert]

theorem textFor_combine (localeId text other : String) :
    textFor localeId (Label.combine text other) =
      Label.combine (textFor localeId other) (textFor localeId text) := by
  refine Dictionary.ext_get? fun otherId => ?_
  by_cases blank : text = "" <;> by_cases otherBlank : other = "" <;>
    by_cases atLocale : otherId = localeId <;>
      simp [Label.combine, get?_textFor, blank, otherBlank, atLocale]

theorem forLocale_merge (first second : Outline) (localeId : String) :
    forLocale (first.merge second) localeId =
      (forLocale second localeId).merge (forLocale first localeId) := by
  refine Trie.ext_labelAt? fun path => ?_
  simp only [forLocale, Trie.labelAt?_map, Trie.labelAt?_merge]
  cases first.labelAt? path <;> cases second.labelAt? path <;> simp [textFor_combine]

theorem textAt?_forLocale (outline : Outline) (localeId otherId : String) (path : List String) :
    (forLocale outline localeId).textAt? otherId path =
      if otherId = localeId ∧ textAt outline path ≠ "" then some (textAt outline path)
      else none := by
  rw [LocaleOutline.textAt?, forLocale, Trie.labelAt?_map, textAt]
  cases outline.labelAt? path <;> simp [get?_textFor]

end Outline

namespace LocaleOutline

theorem merging_reversed :
    (∀ first second third : LocaleOutline,
      (first.merge second).merge third = first.merge (second.merge third)) ∧
    (∀ outline : LocaleOutline, outline.merge outline = outline) ∧
    (∀ outline : LocaleOutline, Trie.blank.merge outline = outline ∧
      outline.merge Trie.blank = outline) ∧
    (∀ (first second : LocaleOutline) (localeId : String) (path : List String),
      textAt? (first.merge second) localeId path =
        (textAt? second localeId path).or (textAt? first localeId path)) ∧
    ∀ (first second : Outline) (localeId : String),
      Outline.forLocale (first.merge second) localeId =
        (Outline.forLocale second localeId).merge (Outline.forLocale first localeId) := by
  refine ⟨Trie.merge_assoc, ?_, ?_, textAt?_merge, Outline.forLocale_merge⟩
  · exact Trie.merge_self (Dictionary.merge_self _ fun _ => rfl)
  · exact fun outline => ⟨Trie.blank_merge outline, Trie.merge_blank outline⟩

end LocaleOutline

end Phrasebook
