import Phrasebook.Proofs.Dictionary.Lookup
import Phrasebook.Proofs.Inference.Endings
import Phrasebook.Proofs.Inference.Warnings

namespace Phrasebook

def Example.Suitable (examples : Dictionary Json) : Prop :=
  ∀ name shown, examples.get? name = some shown → shown = Example.forName name

namespace Example.Suitable

variable {examples further : Dictionary Json}

theorem empty : Suitable ∅ := fun _ _ found => nomatch found

theorem insert (suitable : Suitable examples) (name : String) :
    Suitable (examples.insert name (Example.forName name)) := by
  intro query shown found
  rw [Dictionary.get?_insert] at found
  split at found
  · rename_i same
    subst same
    exact (Option.some.inj found).symm
  · exact suitable query shown found

theorem insertNew (suitable : Suitable examples) (name : String) :
    Suitable (examples.insertNew name (Example.forName name)) := by
  intro query shown found
  rw [Dictionary.get?_insertNew] at found
  split at found
  · rename_i same
    subst same
    cases former : examples.get? query with
    | none => simpa [former, eq_comm] using found
    | some other =>
      rw [former, Option.getD_some, Option.some.injEq] at found
      exact found ▸ suitable query other former
  · exact suitable query shown found

theorem merge (suitable : Suitable examples) (furtherSuitable : Suitable further) :
    Suitable (examples.merge (fun _ new => new) further) := by
  intro name shown found
  rw [Dictionary.get?_merge] at found
  cases new : further.get? name with
  | none =>
    rw [new, Option.merge_none_right] at found
    exact suitable name shown found
  | some other =>
    have same : other = shown := by
      cases former : examples.get? name <;> simpa [former, new] using found
    exact same ▸ furtherSuitable name other new

theorem get?_eq_some_iff (suitable : Suitable examples) {name : String} {shown : Json} :
    examples.get? name = some shown ↔
      shown = Example.forName name ∧ (examples.get? name).isSome := by
  rw [Option.isSome_iff_exists]
  constructor
  · exact fun found => ⟨suitable name shown found, shown, found⟩
  · rintro ⟨rfl, other, found⟩
    exact suitable name other found ▸ found

theorem ext (suitable : Suitable examples) (furtherSuitable : Suitable further)
    (same : ∀ name, (examples.get? name).isSome ↔ (further.get? name).isSome) :
    examples = further := by
  refine Dictionary.ext_get? fun name => Dictionary.eq_of_isSome_iff (same name) ?_
  intro shown other found found'
  rw [suitable name shown found, furtherSuitable name other found']

end Example.Suitable

namespace Example

theorem forName_cases (name : String) :
    forName name = unknown ∨ ∃ entry ∈ table, forName name = entry.2 := by
  unfold forName
  simp only
  split
  · rename_i entry found
    exact .inr ⟨entry, List.mem_of_find?_eq_some found, rfl⟩
  · cases ending : longestEnding? (Text.lower name.toList) table with
    | none => exact .inl rfl
    | some entry => exact .inr ⟨entry, (of_longestEnding? ending).1, rfl⟩

/-- No example has a fraction, so that each is the same as itself. -/
theorem same_forName (name : String) : (forName name).same (forName name) = true := by
  have plain : ∀ entry ∈ table, entry.2.same entry.2 = true := by
    simp [table, number, Json.same, Number.same]
  rcases forName_cases name with unlisted | ⟨entry, member, listed⟩
  · simp [unlisted, unknown, Json.same]
  · rw [listed]
    exact plain entry member

theorem Suitable.no_conflict {examples further : Dictionary Json} (suitable : Suitable examples)
    (furtherSuitable : Suitable further) : (mergeVariables examples further).2 = [] := by
  refine List.filterMap_eq_nil_iff.2 fun entry member => ?_
  have latter := furtherSuitable entry.1 entry.2 (Dictionary.mem_entries_iff.1 member)
  rw [conflict?]
  cases found : examples.get? entry.1 with
  | none => rfl
  | some former =>
    rw [suitable entry.1 former found, latter]
    simp [same_forName]

end Example

theorem Inferred.closed_suitable : Closed fun inferred => Example.Suitable inferred.examples where
  ofNames _ := List.foldlRecOn _ _ Example.Suitable.empty fun _ former name _ => former.insert name
  warn _ _ _ former := former
  withVariable _ name former := former.insert name
  withNewVariable _ name former := former.insertNew name
  withReference _ _ _ former := former

theorem Inferrer.suitable_infer (inferrer : Inferrer) (site : MessageSite) :
    Example.Suitable (inferrer.infer site).examples :=
  Inferred.closed_suitable.infer inferrer site

end Phrasebook
