import Phrasebook.Export.Outline
import Phrasebook.Proofs.Document.Texts

namespace Phrasebook

/-! ## Texts of numbers -/

theorem Decimal.placePoint_ne_empty {digits : String} (some : digits ≠ "") (point : Int)
    (wholeMark : String) : placePoint digits point wholeMark ≠ "" := by
  unfold placePoint
  simp only
  split_ifs <;> simp [some]

theorem Number.leafText_ne_empty (value : Number) : value.leafText ≠ "" := by
  cases value with
  | integer value =>
    cases value with
    | ofNat value => exact Nat.repr_ne_empty
    | negSucc value =>
      have sign : (Number.integer (Int.negSucc value)).leafText = "-" ++ (value + 1).repr := rfl
      rw [sign]
      simp
  | float value =>
    rw [leafText, Decimal.Layout.write]
    split
    · simp
    · rename_i decimal _
      have digits : decimal.significand.repr ≠ "" := Nat.repr_ne_empty
      simp [Decimal.plain, Decimal.placePoint_ne_empty digits]

namespace Json

variable {α : Type}

def filledAt? (path : List String) (value : Json) : Option String :=
  (value.textAt? path).filter (· ≠ "")

theorem filledAt?_eq_some_iff {path : List String} {value : Json} {text : String} :
    value.filledAt? path = some text ↔ value.textAt? path = some text ∧ text ≠ "" := by
  rw [filledAt?, Option.filter_eq_some_iff, decide_eq_true_eq]

theorem filledAt?_cons (key : String) (path : List String) (value : Json) :
    value.filledAt? (key :: path) = (value.member? key).bind (filledAt? path) := by
  rw [filledAt?, textAt?_cons]
  cases value.member? key <;> rfl

theorem filledAt?_append (path rest : List String) (value : Json) :
    value.filledAt? (path ++ rest) = (value.at? path).bind (filledAt? rest) := by
  rw [filledAt?, textAt?_append]
  cases value.at? path <;> rfl

theorem filledAt?_of_isVoid {value : Json} (void : value.isVoid = true) (path : List String) :
    value.filledAt? path = none := by
  cases value with
  | string text =>
    obtain rfl : text = "" := of_decide_eq_true void
    cases path <;> rfl
  | object members =>
    obtain rfl := List.isEmpty_iff.1 void
    cases path <;> rfl
  | _ => cases void

/-! ## Filled documents -/

/-- Every branch ends in a text that is not empty, and members are in key order. -/
inductive Filled : Json → Prop
  | string {text : String} (filled : text ≠ "") : Filled (.string text)
  | object {members : List (String × Json)} (ascending : Entries.Ascending members)
      (nonempty : members ≠ []) (below : ∀ member ∈ members, member.2.Filled) :
      Filled (.object members)

theorem Filled.textual {value : Json} (filled : value.Filled) : value.Textual := by
  induction filled with
  | string filled => exact .string _
  | object ascending nonempty below ih => exact .object ascending ih

theorem Filled.exists_filledAt? {value : Json} (filled : value.Filled) :
    ∃ path text, value.filledAt? path = some text := by
  induction filled with
  | @string text filled => exact ⟨[], text, filledAt?_eq_some_iff.2 ⟨rfl, filled⟩⟩
  | @object members ascending nonempty below ih =>
    obtain ⟨⟨key, value⟩, rest, rfl⟩ := List.exists_cons_of_ne_nil nonempty
    obtain ⟨path, text, located⟩ := ih _ List.mem_cons_self
    refine ⟨key :: path, text, ?_⟩
    rw [filledAt?_cons, member?, List.lookup_cons_self]
    exact located

theorem Filled.at? {path : List String} {value found : Json} (filled : value.Filled)
    (located : value.at? path = some found) : found.Filled := by
  induction path generalizing value with
  | nil =>
    obtain rfl := Option.some.inj located
    exact filled
  | cons key path ih =>
    obtain ⟨member, isMember, below⟩ := Option.bind_eq_some_iff.1 located
    cases filled with
    | string filled => cases isMember
    | object ascending nonempty all =>
      exact ih (all _ (ascending.lookup_eq_some_iff.1 isMember)) below

theorem Filled.filledAt?_of_textAt? {path : List String} {value : Json} {text : String}
    (filled : value.Filled) (leaf : value.textAt? path = some text) :
    value.filledAt? path = some text := by
  obtain ⟨found, located, isLeaf⟩ := Option.bind_eq_some_iff.1 leaf
  cases filled.at? located with
  | string nonempty =>
    obtain rfl := Option.some.inj isLeaf
    exact filledAt?_eq_some_iff.2 ⟨leaf, nonempty⟩
  | object ascending nonempty below => cases isLeaf

theorem members_eq_of_filledAt?_eq {members others : List (String × Json)}
    (ascending : Entries.Ascending members) (otherAscending : Entries.Ascending others)
    (below : ∀ member ∈ members, member.2.Filled) (otherBelow : ∀ other ∈ others, other.2.Filled)
    (determined : ∀ member ∈ members, ∀ other : Json, other.Filled →
      (∀ path, member.2.filledAt? path = other.filledAt? path) → member.2 = other)
    (same : ∀ path, (object members).filledAt? path = (object others).filledAt? path) :
    members = others := by
  refine Entries.eq_of_lookup_eq ascending otherAscending fun key => ?_
  have sameBelow : ∀ path, (members.lookup key).bind (filledAt? path) =
      (others.lookup key).bind (filledAt? path) := by
    intro path
    have equal := same (key :: path)
    rwa [filledAt?_cons, filledAt?_cons] at equal
  -- A filled value has a text somewhere, so both sides have a member at the key or neither has.
  cases found : members.lookup key with
  | none =>
    cases otherFound : others.lookup key with
    | none => rfl
    | some other =>
      have inside := otherAscending.lookup_eq_some_iff.1 otherFound
      obtain ⟨path, text, located⟩ := (otherBelow _ inside).exists_filledAt?
      have nothing := sameBelow path
      rw [found, otherFound, Option.bind_none, Option.bind_some, located] at nothing
      cases nothing
  | some value =>
    have inside := ascending.lookup_eq_some_iff.1 found
    cases otherFound : others.lookup key with
    | none =>
      obtain ⟨path, text, located⟩ := (below _ inside).exists_filledAt?
      have nothing := sameBelow path
      rw [found, otherFound, Option.bind_none, Option.bind_some, located] at nothing
      cases nothing
    | some other =>
      have otherInside := otherAscending.lookup_eq_some_iff.1 otherFound
      refine congrArg some (determined _ inside other (otherBelow _ otherInside) fun path => ?_)
      have equal := sameBelow path
      rwa [found, otherFound] at equal

theorem Filled.eq_of_filledAt?_eq {value other : Json} (filled : value.Filled)
    (otherFilled : other.Filled) (same : ∀ path, value.filledAt? path = other.filledAt? path) :
    value = other := by
  induction filled generalizing other with
  | @string text filled =>
    have atTop : other.filledAt? [] = some text :=
      (same []).symm.trans (filledAt?_eq_some_iff.2 ⟨rfl, filled⟩)
    cases otherFilled with
    | string otherNonempty =>
      obtain rfl := Option.some.inj (filledAt?_eq_some_iff.1 atTop).1
      rfl
    | object otherAscending otherNonempty otherBelow => cases atTop
  | @object members ascending nonempty below ih =>
    cases otherFilled with
    | @string text otherNonempty =>
      have nothing := (same []).trans (filledAt?_eq_some_iff.2 ⟨rfl, otherNonempty⟩)
      cases nothing
    | object otherAscending otherNonempty otherBelow =>
      rw [members_eq_of_filledAt?_eq ascending otherAscending below otherBelow
        (fun member inside other otherFilled same => ih member inside otherFilled same) same]

inductive Pruned : Json → Prop
  | object {members : List (String × Json)} (ascending : Entries.Ascending members)
      (below : ∀ member ∈ members, member.2.Filled) : Pruned (.object members)

theorem Pruned.filled {value : Json} (pruned : value.Pruned) (nonempty : value ≠ .object []) :
    value.Filled := by
  cases pruned with
  | object ascending below =>
    exact .object ascending (fun empty => nonempty (congrArg Json.object empty)) below

theorem Pruned.eq_of_filledAt?_eq {value other : Json} (pruned : value.Pruned)
    (otherPruned : other.Pruned) (same : ∀ path, value.filledAt? path = other.filledAt? path) :
    value = other := by
  cases pruned with
  | object ascending below =>
    cases otherPruned with
    | object otherAscending otherBelow =>
      rw [members_eq_of_filledAt?_eq ascending otherAscending below otherBelow
        (fun member inside other otherFilled same =>
          (below member inside).eq_of_filledAt?_eq otherFilled same) same]

theorem Filled.at?_eq_string_iff {value : Json} (filled : value.Filled) {path : List String}
    {text : String} : value.at? path = some (.string text) ↔ value.filledAt? path = some text := by
  constructor
  · intro located
    apply filled.filledAt?_of_textAt?
    rw [textAt?, located]
    rfl
  · intro shown
    obtain ⟨found, located, isLeaf⟩ := Option.bind_eq_some_iff.1 (filledAt?_eq_some_iff.1 shown).1
    cases filled.at? located with
    | string nonempty =>
      obtain rfl := Option.some.inj isLeaf
      exact located
    | object ascending nonempty below => cases isLeaf

theorem Pruned.at?_eq_string_iff {document : Json} (pruned : document.Pruned) {path : List String}
    {text : String} :
    document.at? path = some (.string text) ↔ document.filledAt? path = some text := by
  by_cases empty : document = .object []
  · subst empty
    cases path <;> simp [at?, member?, filledAt?, textAt?, leafText?]
  · exact (pruned.filled empty).at?_eq_string_iff

theorem Pruned.eq_of_at?_iff {value other : Json} (pruned : value.Pruned)
    (otherPruned : other.Pruned) (same : ∀ path text,
      value.at? path = some (.string text) ↔ other.at? path = some (.string text)) :
    value = other := by
  apply pruned.eq_of_filledAt?_eq otherPruned
  intro path
  apply Option.ext
  intro text
  rw [← pruned.at?_eq_string_iff, ← otherPruned.at?_eq_string_iff]
  exact same path text

/-! ## Pruning -/

def prunedMembers (image : α → Json) (entries : List (String × α)) : List (String × Json) :=
  (entries.map fun entry => (entry.1, image entry.2)).filter fun member => !member.2.isVoid

theorem ascending_prunedMembers (image : α → Json) {entries : List (String × α)}
    (ascending : Entries.Ascending entries) :
    Entries.Ascending (prunedMembers image entries) :=
  (ascending.mapValues fun _ => image).filter _

theorem filled_of_mem_prunedMembers {image : α → Json} {entries : List (String × α)}
    (each : ∀ entry ∈ entries, (image entry.2).isVoid = true ∨ (image entry.2).Filled) :
    ∀ member ∈ prunedMembers image entries, member.2.Filled := by
  intro member inside
  obtain ⟨inside, kept⟩ := List.mem_filter.1 inside
  obtain ⟨entry, entryInside, rfl⟩ := List.mem_map.1 inside
  rcases each entry entryInside with void | filled
  · simp [void] at kept
  · exact filled

theorem prunedMembers_void_or_filled {image : α → Json} {entries : List (String × α)}
    (ascending : Entries.Ascending entries)
    (each : ∀ entry ∈ entries, (image entry.2).isVoid = true ∨ (image entry.2).Filled) :
    (object (prunedMembers image entries)).isVoid = true ∨
      (object (prunedMembers image entries)).Filled := by
  by_cases empty : prunedMembers image entries = []
  · exact .inl (List.isEmpty_iff.2 empty)
  · exact .inr (.object (ascending_prunedMembers image ascending) empty
      (filled_of_mem_prunedMembers each))

theorem filledAt?_prunedMembers (image : α → Json) {entries : List (String × α)}
    (ascending : Entries.Ascending entries) (key : String) (path : List String) :
    (object (prunedMembers image entries)).filledAt? (key :: path) =
      (entries.lookup key).bind fun value => (image value).filledAt? path := by
  rw [filledAt?_cons, member?, prunedMembers,
    (ascending.mapValues fun _ => image).lookup_filter, Entries.lookup_mapValues fun _ => image]
  cases entries.lookup key with
  | none => rfl
  | some value =>
    cases void : (image value).isVoid with
    | true => simp [Option.filter, void, filledAt?_of_isVoid void]
    | false => simp [Option.filter, void]

/-! ## Condensing -/

mutual

/-- A value with numbers as texts, and without members that are empty. -/
def condensed : Json → Json
  | number value => string value.leafText
  | object members => object (condensedMembers members)
  | value => value
termination_by structural value => value

def condensedMembers : List (String × Json) → List (String × Json)
  | [] => []
  | (key, value) :: rest =>
    if value.condensed.isVoid then condensedMembers rest
    else (key, value.condensed) :: condensedMembers rest
termination_by structural members => members

end

theorem condensedMembers_eq (members : List (String × Json)) :
    condensedMembers members = prunedMembers condensed members := by
  induction members with
  | nil => rfl
  | cons member rest ih =>
    obtain ⟨key, value⟩ := member
    rw [condensedMembers, ih, prunedMembers, prunedMembers, List.map_cons, List.filter_cons]
    cases value.condensed.isVoid <;> rfl

theorem Textual.condensed_void_or_filled {value : Json} (textual : value.Textual) :
    value.condensed.isVoid = true ∨ value.condensed.Filled := by
  have leaf : ∀ text, (Json.string text).isVoid = true ∨ (Json.string text).Filled := by
    intro text
    by_cases empty : text = ""
    · exact .inl (decide_eq_true empty)
    · exact .inr (.string empty)
  induction textual with
  | string text => exact leaf text
  | number value => exact leaf value.leafText
  | object ascending below ih =>
    rw [condensed, condensedMembers_eq]
    exact prunedMembers_void_or_filled ascending ih

theorem Textual.condensed_pruned {members : List (String × Json)}
    (textual : (Json.object members).Textual) : (Json.object members).condensed.Pruned := by
  cases textual with
  | object ascending below =>
    rw [condensed, condensedMembers_eq]
    exact .object (ascending_prunedMembers condensed ascending)
      (filled_of_mem_prunedMembers fun member inside => (below member inside).condensed_void_or_filled)

theorem Textual.filledAt?_condensed {value : Json} (textual : value.Textual)
    (path : List String) : value.condensed.filledAt? path = value.filledAt? path := by
  induction textual generalizing path with
  | string text => rfl
  | number value => cases path <;> rfl
  | object ascending below ih =>
    cases path with
    | nil => rfl
    | cons key path =>
      rw [condensed, condensedMembers_eq, filledAt?_prunedMembers condensed ascending,
        filledAt?_cons, member?]
      refine Option.bind_congr fun value found => ?_
      exact ih _ (ascending.lookup_eq_some_iff.1 found) path

theorem Textual.at?_condensed_iff {members : List (String × Json)}
    (textual : (Json.object members).Textual) {path : List String} {text : String} :
    (Json.object members).condensed.at? path = some (.string text) ↔
      (∃ value, (Json.object members).at? path = some (.number value) ∧ value.leafText = text) ∨
        (Json.object members).at? path = some (.string text) ∧ text ≠ "" := by
  rw [textual.condensed_pruned.at?_eq_string_iff, textual.filledAt?_condensed,
    filledAt?_eq_some_iff, textAt?]
  cases (Json.object members).at? path with
  | none => simp
  | some found =>
    cases found with
    | number value =>
      simp only [Option.bind_some, leafText?, Option.some.injEq, number.injEq, exists_eq_left',
        reduceCtorEq, false_and, or_false, and_iff_left_iff_imp]
      rintro rfl
      exact value.leafText_ne_empty
    | _ => simp [leafText?]

theorem Filled.condensed_eq {value : Json} (filled : value.Filled) : value.condensed = value := by
  refine eq_of_filledAt?_eq ?_ filled filled.textual.filledAt?_condensed
  rcases filled.textual.condensed_void_or_filled with void | condensedFilled
  · obtain ⟨path, text, located⟩ := filled.exists_filledAt?
    rw [← filled.textual.filledAt?_condensed, filledAt?_of_isVoid void] at located
    cases located
  · exact condensedFilled

end Json

end Phrasebook
