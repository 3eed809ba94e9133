import Phrasebook.Proofs.Document.Refusals

namespace Phrasebook.Json

variable {limit : Nat} {keys : List String}

def innerType? : Json → Option String
  | string _ => none
  | number _ => none
  | value => some value.typeName

/-- Two documents have nodes of the same types at the same paths, but for leaves, whose texts and
numbers may differ. -/
def Alike (document other : Json) : Prop :=
  ∀ path, (document.at? path).map innerType? = (other.at? path).map innerType?

theorem alike_of_innerType?_eq {value other : Json} (isLeaf : value.members? = none)
    (otherLeaf : other.members? = none) (same : value.innerType? = other.innerType?) :
    value.Alike other := by
  intro path
  cases path with
  | nil => exact congrArg some same
  | cons key path => rw [at?_cons_of_isLeaf isLeaf, at?_cons_of_isLeaf otherLeaf]

theorem alike_nil : (object []).Alike (object []) := fun _ => rfl

theorem Alike.cons {value other : Json} {members others : List (String × Json)} (key : String)
    (here : value.Alike other) (there : (object members).Alike (object others)) :
    (object ((key, value) :: members)).Alike (object ((key, other) :: others)) := by
  intro path
  cases path with
  | nil => rfl
  | cons query path =>
    have below := there (query :: path)
    simp only [at?, member?, Entries.lookup_cons_eq] at below ⊢
    split
    · exact here path
    · exact below

section Alike

variable {document other : Json}

theorem Alike.symm (alike : document.Alike other) : other.Alike document :=
  fun path => (alike path).symm

theorem Alike.exists_at? (alike : document.Alike other) {path : List String} {node : Json}
    (located : document.at? path = some node) :
    ∃ further, other.at? path = some further ∧ further.innerType? = node.innerType? := by
  have same := alike path
  rw [located, Option.map_some, eq_comm, Option.map_eq_some_iff] at same
  exact same

theorem refusal?_eq_of_innerType?_eq {node further : Json}
    (same : node.innerType? = further.innerType?) (limit : Nat) (keys : List String) :
    node.refusal? limit keys = further.refusal? limit keys := by
  cases node <;> cases further <;> simp_all [innerType?, refusal?, typeName]

theorem Alike.admitted (alike : document.Alike other) (admitted : document.Admitted limit keys) :
    other.Admitted limit keys := by
  intro path node located
  obtain ⟨further, found, same⟩ := alike.symm.exists_at? located
  rw [← refusal?_eq_of_innerType?_eq same]
  exact admitted path further found

theorem innerType?_eq_none_iff {node : Json} :
    node.innerType? = none ↔ ∃ text, node.leafText? = some text := by
  cases node <;> simp [innerType?, leafText?]

theorem Alike.exists_textAt? (alike : document.Alike other) {path : List String} {text : String}
    (leaf : document.textAt? path = some text) : ∃ changed, other.textAt? path = some changed := by
  obtain ⟨node, located, isLeaf⟩ := Option.bind_eq_some_iff.1 leaf
  obtain ⟨further, found, same⟩ := alike.exists_at? located
  rw [innerType?_eq_none_iff.2 ⟨text, isLeaf⟩, innerType?_eq_none_iff] at same
  obtain ⟨changed, isLeaf⟩ := same
  exact ⟨changed, Option.bind_eq_some_iff.2 ⟨further, found, isLeaf⟩⟩

theorem Alike.exists_members (alike : document.Alike other)
    (filled : ∃ members, document = .object members ∧ members ≠ []) :
    ∃ members, other = .object members ∧ members ≠ [] := by
  obtain ⟨members, rfl, filled⟩ := filled
  obtain ⟨⟨key, value⟩, rest, rfl⟩ := List.exists_cons_of_ne_nil filled
  have top : (object ((key, value) :: rest)).at? [] = some (object ((key, value) :: rest)) := rfl
  obtain ⟨node, located, same⟩ := alike.exists_at? top
  obtain rfl := Option.some.inj located
  have first : (object ((key, value) :: rest)).at? [key] = some value := by simp [at?, member?]
  obtain ⟨further, found, -⟩ := alike.exists_at? first
  cases other with
  | object others =>
    refine ⟨others, rfl, ?_⟩
    rintro rfl
    cases found
  | _ => simp [innerType?, typeName] at same

end Alike

end Phrasebook.Json
