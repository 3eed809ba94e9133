import Phrasebook.Proofs.Checks
import Phrasebook.Proofs.Import.Shown
import Phrasebook.Titling.Basic

namespace Phrasebook

/-- The key that stands for a target: its own for a category, and for a phrase the path of its
category and its key. -/
def TitleTarget.position (target : TitleTarget) : String :=
  match target.phraseKey? with
  | none => target.categoryKey
  | some key => Dotted.join (Category.pathOf target.categoryKey ++ [key])

def Category.target (category : Category) : TitleTarget := ⟨category.key, none, category.title⟩

def Category.phraseTargets (category : Category) : List TitleTarget :=
  category.phrases.values.map fun phrase => ⟨category.key, some phrase.key, phrase.title⟩

namespace Overview

def titledCategories (overview : Overview) : List TitleTarget :=
  overview.categories.values.map Category.target

def titledPhrases (overview : Overview) : List TitleTarget :=
  overview.categories.values.flatMap Category.phraseTargets

def categoriesAt (overview : Overview) (key : String) : List TitleTarget :=
  overview.titledCategories.filter (·.position = key)

def phrasesAt (overview : Overview) (key : String) : List TitleTarget :=
  overview.titledPhrases.filter (·.position = key)

def reached (overview : Overview) (key : String) : List TitleTarget :=
  (overview.categoriesAt key).getLast?.toList ++ (overview.phrasesAt key).getLast?.toList

def changesAt (overview : Overview) (entry : String × String) : List TitleChange :=
  (overview.reached entry.1).filterMap (·.change? entry.2)

def unknownKey (overview : Overview) (key : String) : TitleFault :=
  .unknownKey key overview.project.id
    (Suggestion.forKey key (overview.categoryTargets.keys ++ overview.phraseTargets.keys))

variable (overview : Overview)

theorem get?_categoryTargets (key : String) :
    overview.categoryTargets.get? key = (overview.categoriesAt key).getLast? := by
  rw [categoriesAt, ← Dictionary.get?_ofList_map, titledCategories, List.map_map]
  rfl

theorem get?_phraseTargets (key : String) :
    overview.phraseTargets.get? key = (overview.phrasesAt key).getLast? := by
  rw [phrasesAt, ← Dictionary.get?_ofList_map, titledPhrases, List.map_flatMap, phraseTargets]
  simp only [Category.phraseTargets, List.map_map, Category.path_eq]
  rfl

theorem changesFor_eq (entry : String × String) :
    changesFor overview overview.categoryTargets overview.phraseTargets entry =
      if (overview.reached entry.1).isEmpty then .error (overview.unknownKey entry.1)
      else .ok (overview.changesAt entry) := by
  obtain ⟨key, title⟩ := entry
  simp only [changesFor, get?_categoryTargets, get?_phraseTargets, changesAt, reached]
  cases (overview.categoriesAt key).getLast? with
  | none => cases (overview.phrasesAt key).getLast? <;> rfl
  | some category => rfl

variable {overview} {document : Json}

theorem describe_eq_error {fault : TitleFault} (failed : titlesOf document = .error fault) :
    overview.describe document = .error fault := by
  rw [describe, failed]
  rfl

theorem describe_eq {titles : Dictionary String} (given : titlesOf document = .ok titles) :
    overview.describe document =
      (titles.entries.find? fun entry => (overview.reached entry.1).isEmpty).elim
        (.ok (titles.entries.flatMap overview.changesAt))
        fun entry => .error (overview.unknownKey entry.1) := by
  simp only [describe, given, bind, Except.bind, mapM_eq_of_refuses (changesFor_eq overview)]
  cases titles.entries.find? fun entry => (overview.reached entry.1).isEmpty <;> rfl

theorem describe_eq_ok_iff {changes : List TitleChange} :
    overview.describe document = .ok changes ↔ ∃ titles, titlesOf document = .ok titles ∧
      (∀ entry ∈ titles.entries, overview.reached entry.1 ≠ []) ∧
      changes = titles.entries.flatMap overview.changesAt := by
  cases given : titlesOf document with
  | error fault => simp [describe_eq_error given]
  | ok titles =>
    rw [describe_eq given]
    cases unknown : titles.entries.find? fun entry => (overview.reached entry.1).isEmpty with
    | some entry =>
      have nothing : overview.reached entry.1 = [] := by simpa using List.find?_some unknown
      refine iff_of_false (fun succeeded => by cases succeeded) ?_
      rintro ⟨_, ⟨⟩, known, -⟩
      exact known entry (List.mem_of_find?_eq_some unknown) nothing
    | none =>
      have known : ∀ entry ∈ titles.entries, overview.reached entry.1 ≠ [] :=
        fun entry member => by simpa using List.find?_eq_none.1 unknown entry member
      constructor
      · rintro ⟨⟩
        exact ⟨titles, rfl, known, rfl⟩
      · rintro ⟨_, ⟨⟩, -, rfl⟩
        rfl

def formOverview : Overview :=
  let owner : Project := ⟨"demo", "Demo", "ann", "acme"⟩
  let category (key : String) (phraseKeys : List String) : Category :=
    { Category.new key key owner with
      phrases := Dictionary.ofList (phraseKeys.map fun key => (key, Phrase.new key key owner)) }
  ofLists owner [] [category "form" ["submit", "submit.label"], category "form.submit" ["label"]]

example : formOverview.reached "form.submit.label" = [⟨"form.submit", some "label", "label"⟩] := by
  decide

end Overview

end Phrasebook
