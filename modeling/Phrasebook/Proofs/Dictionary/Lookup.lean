import Mathlib.Algebra.GroupWithZero.Nat
import Mathlib.Data.List.Nodup
import Phrasebook.Dictionary.Basic

namespace Phrasebook.Entries

variable {α β : Type}

/-- The measure of walks that keep the values of entries pending. -/
theorem sum_sizeOf_le [SizeOf α] (entries : List (String × α)) :
    (entries.map fun entry => sizeOf entry.2).sum ≤ sizeOf entries := by
  induction entries with
  | nil => simp
  | cons entry rest ih =>
    obtain ⟨key, value⟩ := entry
    simp only [List.map_cons, List.sum_cons, List.cons.sizeOf_spec, Prod.mk.sizeOf_spec]
    omega

theorem lookup_cons_eq (head : String) (first : α) (rest : List (String × α)) (key : String) :
    ((head, first) :: rest).lookup key = if key = head then some first else rest.lookup key := by
  by_cases atHead : key = head
  · simp [atHead]
  · have : (key == head) = false := by simpa using atHead
    simp [List.lookup_cons, this, atHead]

theorem Ascending.lookup_head_eq_none {head : String} {first : α} {rest : List (String × α)}
    (ascending : Ascending ((head, first) :: rest)) : rest.lookup head = none := by
  rw [List.lookup_eq_none_iff]
  intro entry member
  have below : head < entry.1 := (List.pairwise_cons.1 ascending).1 entry member
  have different : head ≠ entry.1 := fun equal => String.lt_irrefl _ (equal ▸ below)
  simpa using different

theorem Ascending.lookup_eq_some_iff {entries : List (String × α)} (ascending : Ascending entries)
    {key : String} {value : α} : entries.lookup key = some value ↔ (key, value) ∈ entries := by
  induction entries with
  | nil => simp
  | cons entry rest ih =>
    obtain ⟨head, first⟩ := entry
    rw [lookup_cons_eq, List.mem_cons]
    by_cases atHead : key = head
    · subst atHead
      have absent : (key, value) ∉ rest := by
        rw [← ih ascending.of_cons, ascending.lookup_head_eq_none]
        simp
      simp [absent, eq_comm]
    · simp [atHead, ih ascending.of_cons]

theorem Ascending.nodup {entries : List (String × α)} (ascending : Ascending entries) :
    entries.Nodup := by
  refine List.Pairwise.imp ?_ ascending
  intro earlier later below equal
  exact String.lt_irrefl _ (equal ▸ below)

theorem eq_of_lookup_eq {entries others : List (String × α)} (ascending : Ascending entries)
    (otherAscending : Ascending others)
    (same : ∀ key, entries.lookup key = others.lookup key) : entries = others := by
  have perm : entries.Perm others := by
    rw [List.perm_ext_iff_of_nodup ascending.nodup otherAscending.nodup]
    rintro ⟨key, value⟩
    rw [← ascending.lookup_eq_some_iff, ← otherAscending.lookup_eq_some_iff, same]
  refine perm.eq_of_pairwise (fun entry other _ _ below above => ?_) ascending otherAscending
  exact absurd (String.lt_trans below above) (String.lt_irrefl _)

theorem lookup_merge (combine : α → α → α) {entries others : List (String × α)}
    (ascending : Ascending entries) (otherAscending : Ascending others) (key : String) :
    (merge combine entries others).lookup key =
      Option.merge combine (entries.lookup key) (others.lookup key) := by
  induction others generalizing entries with
  | nil => simp [merge]
  | cons other rest ih =>
    obtain ⟨head, value⟩ := other
    have step := ih (ascending.alter head fun former => former.elim value (combine · value))
      otherAscending.of_cons
    have unfolded : merge combine entries ((head, value) :: rest) =
        merge combine (alter head (fun former => former.elim value (combine · value)) entries)
          rest := rfl
    rw [unfolded, step, lookup_alter _ _ _ ascending, lookup_cons_eq]
    by_cases atHead : key = head
    · subst atHead
      rw [otherAscending.lookup_head_eq_none]
      cases entries.lookup key <;> simp
    · simp [atHead]

theorem lookup_ofList (entries : List (String × α)) (key : String) :
    (ofList entries).lookup key = entries.reverse.lookup key := by
  suffices general : ∀ ordered : List (String × α), Ascending ordered →
      (entries.foldl (fun ordered entry => insert entry.1 entry.2 ordered) ordered).lookup key =
        (entries.reverse.lookup key).or (ordered.lookup key) by
    simpa [ofList] using general [] .nil
  induction entries with
  | nil => simp
  | cons entry rest ih =>
    obtain ⟨head, first⟩ := entry
    intro ordered ascending
    rw [List.foldl_cons, ih _ (ascending.insert head first), insert,
      lookup_alter _ _ _ ascending, List.reverse_cons, List.lookup_append, Option.or_assoc,
      lookup_cons_eq]
    by_cases atHead : key = head <;> simp [atHead]

theorem lookup_mapValues (image : String → α → β) (entries : List (String × α)) (key : String) :
    (entries.map fun entry => (entry.1, image entry.1 entry.2)).lookup key =
      (entries.lookup key).map (image key) := by
  induction entries with
  | nil => rfl
  | cons entry rest ih =>
    obtain ⟨head, first⟩ := entry
    rw [List.map_cons, lookup_cons_eq, lookup_cons_eq, ih]
    by_cases atHead : key = head <;> simp [atHead]

theorem Ascending.lookup_filter {entries : List (String × α)} (ascending : Ascending entries)
    (keep : String × α → Bool) (key : String) : (entries.filter keep).lookup key =
      (entries.lookup key).filter fun value => keep (key, value) := by
  apply Option.ext
  intro value
  rw [(ascending.filter keep).lookup_eq_some_iff, Option.filter_eq_some_iff,
    ascending.lookup_eq_some_iff, List.mem_filter]

theorem Ascending.ofList_eq_self {entries : List (String × α)} (ascending : Ascending entries) :
    ofList entries = entries := by
  refine eq_of_lookup_eq (ascending_ofList entries) ascending fun key => ?_
  rw [lookup_ofList]
  induction entries with
  | nil => rfl
  | cons entry rest ih =>
    obtain ⟨head, first⟩ := entry
    rw [List.reverse_cons, List.lookup_append, ih ascending.of_cons, lookup_cons_eq]
    by_cases atHead : key = head
    · subst atHead
      simp [ascending.lookup_head_eq_none]
    · simp [lookup_cons_eq, atHead]

theorem Ascending.find?_eq_some_iff {entries : List (String × α)} (ascending : Ascending entries)
    {test : String × α → Bool} {entry : String × α} : entries.find? test = some entry ↔
      entry ∈ entries ∧ test entry = true ∧
        ∀ other ∈ entries, test other = true → entry.1 ≤ other.1 := by
  induction entries with
  | nil => simp
  | cons head rest ih =>
    have later : ∀ other ∈ rest, head.1 < other.1 := (List.pairwise_cons.1 ascending).1
    rw [List.find?_cons]
    split
    · rename_i passes
      constructor
      · rintro ⟨⟩
        refine ⟨List.mem_cons_self, passes, fun other member _ => ?_⟩
        rcases List.mem_cons.1 member with rfl | member
        · exact String.le_refl _
        · exact String.not_lt.1 (String.lt_asymm (later other member))
      · rintro ⟨member, -, least⟩
        rcases List.mem_cons.1 member with rfl | member
        · rfl
        · exact absurd (later entry member) (least head List.mem_cons_self passes)
    · rename_i fails
      rw [ih ascending.of_cons, List.forall_mem_cons, List.mem_cons]
      constructor
      · rintro ⟨member, passes, least⟩
        exact ⟨.inr member, passes, fun holds => absurd holds (by simp [fails]), least⟩
      · rintro ⟨rfl | member, passes, -, least⟩
        · simp [fails] at passes
        · exact ⟨member, passes, least⟩

theorem Ascending.getLast?_eq_some_iff {entries : List (String × α)} (ascending : Ascending entries)
    {entry : String × α} : entries.getLast? = some entry ↔
      entry ∈ entries ∧ ∀ other ∈ entries, other.1 ≤ entry.1 := by
  rcases entries.eq_nil_or_concat with rfl | ⟨front, last, rfl⟩
  · simp
  · rw [List.concat_eq_append] at ascending ⊢
    have below : ∀ other ∈ front, other.1 < last.1 := fun other member =>
      (List.pairwise_append.1 ascending).2.2 other member last (List.mem_singleton_self last)
    rw [List.getLast?_append_of_ne_nil _ (List.cons_ne_nil _ _), List.getLast?_singleton,
      Option.some.injEq]
    simp only [List.mem_append, List.mem_singleton]
    constructor
    · rintro rfl
      refine ⟨.inr rfl, fun other member => ?_⟩
      rcases member with inside | rfl
      · exact String.not_lt.1 (String.lt_asymm (below other inside))
      · exact String.le_refl _
    · rintro ⟨inside | rfl, greatest⟩
      · exact absurd (below entry inside) (String.not_lt.2 (greatest last (.inr rfl)))
      · rfl

end Phrasebook.Entries

namespace Phrasebook.Dictionary

variable {α β ι : Type}

theorem mem_entries_iff {dictionary : Dictionary α} {key : String} {value : α} :
    (key, value) ∈ dictionary.entries ↔ dictionary.get? key = some value :=
  dictionary.ascending.lookup_eq_some_iff.symm

theorem mem_values_iff {dictionary : Dictionary α} {value : α} :
    value ∈ dictionary.values ↔ ∃ key, dictionary.get? key = some value := by
  simp [values, ← mem_entries_iff]

theorem eq_of_isSome_iff {first? second? : Option α} (present : first?.isSome ↔ second?.isSome)
    (same : ∀ first second, first? = some first → second? = some second → first = second) :
    first? = second? := by
  cases first? with
  | none =>
    rw [Option.isSome_none, iff_comm, Bool.false_eq_true, iff_false,
      Option.not_isSome_iff_eq_none] at present
    exact present.symm
  | some first =>
    obtain ⟨second, found⟩ := Option.isSome_iff_exists.1 (present.1 rfl)
    rw [found, same first second rfl found]

theorem ext_get? {dictionary other : Dictionary α}
    (same : ∀ key, dictionary.get? key = other.get? key) : dictionary = other := by
  cases dictionary with
  | mk entries ascending =>
    cases other with
    | mk others otherAscending =>
      have equal : entries = others := Entries.eq_of_lookup_eq ascending otherAscending same
      subst equal
      rfl

@[simp] theorem get?_merge (combine : α → α → α) (dictionary other : Dictionary α)
    (key : String) : (dictionary.merge combine other).get? key =
      Option.merge combine (dictionary.get? key) (other.get? key) :=
  Entries.lookup_merge combine dictionary.ascending other.ascending key

theorem get?_ofList (entries : List (String × α)) (key : String) :
    (ofList entries).get? key = entries.reverse.lookup key :=
  Entries.lookup_ofList entries key

theorem mem_of_get?_ofList {entries : List (String × α)} {key : String} {value : α}
    (found : (ofList entries).get? key = some value) : (key, value) ∈ entries := by
  rw [get?_ofList, List.lookup_eq_some_iff] at found
  obtain ⟨front, back, reversed, _⟩ := found
  rw [← List.mem_reverse, reversed]
  simp

theorem of_get?_ofList_map {values : List α} {keyOf : α → String} {key : String} {value : α}
    (found : (ofList (values.map fun value => (keyOf value, value))).get? key = some value) :
    value ∈ values ∧ keyOf value = key := by
  obtain ⟨other, member, equal⟩ := List.mem_map.1 (mem_of_get?_ofList found)
  rw [Prod.mk.injEq] at equal
  obtain ⟨rfl, rfl⟩ := equal
  exact ⟨member, rfl⟩

theorem get?_ofList_map (values : List α) (keyOf : α → String) (key : String) :
    (ofList (values.map fun value => (keyOf value, value))).get? key =
      (values.filter (keyOf · = key)).getLast? := by
  rw [get?_ofList, ← List.map_reverse, List.getLast?_eq_head?_reverse, ← List.filter_reverse]
  induction values.reverse with
  | nil => rfl
  | cons value rest ih =>
    rw [List.map_cons, Entries.lookup_cons_eq, ih]
    by_cases atHead : keyOf value = key
    · simp [atHead]
    · simp [atHead, Ne.symm atHead]

theorem get?_ofList_of_mem {entries : List (String × α)}
    (distinct : ∀ entry ∈ entries, ∀ other ∈ entries, entry.1 = other.1 → entry = other)
    {key : String} {value : α} (member : (key, value) ∈ entries) :
    (ofList entries).get? key = some value := by
  cases found : (ofList entries).get? key with
  | none =>
    rw [get?_ofList, List.lookup_eq_none_iff] at found
    have different := found (key, value) (List.mem_reverse.2 member)
    simp at different
  | some other =>
    have same := distinct _ (mem_of_get?_ofList found) _ member rfl
    rw [(Prod.mk.inj same).2]

theorem get?_ofList_map_iff {values : List α} {keyOf : α → String}
    (distinct : (values.map keyOf).Nodup) {key : String} {value : α} :
    (ofList (values.map fun value => (keyOf value, value))).get? key = some value ↔
      value ∈ values ∧ keyOf value = key := by
  constructor
  · exact of_get?_ofList_map
  · rintro ⟨member, rfl⟩
    refine get?_ofList_of_mem ?_ (List.mem_map.2 ⟨value, member, rfl⟩)
    simp only [List.forall_mem_map]
    intro first inside second otherInside same
    rw [List.inj_on_of_nodup_map distinct inside otherInside same]

theorem mem_values_ofList_map_iff {values : List α} {keyOf : α → String}
    (distinct : (values.map keyOf).Nodup) {value : α} :
    value ∈ (ofList (values.map fun value => (keyOf value, value))).values ↔ value ∈ values := by
  simp [mem_values_iff, get?_ofList_map_iff distinct]

@[simp] theorem get?_mapValues (image : String → α → β) (dictionary : Dictionary α)
    (key : String) : (dictionary.mapValues image).get? key = (dictionary.get? key).map (image key) :=
  Entries.lookup_mapValues image dictionary.entries key

theorem get?_filter (keep : String → α → Bool) (dictionary : Dictionary α) (key : String) :
    (dictionary.filter keep).get? key = (dictionary.get? key).filter (keep key) :=
  dictionary.ascending.lookup_filter _ key

theorem get?_insertNew (dictionary : Dictionary α) (key : String) (value : α) (query : String) :
    (dictionary.insertNew key value).get? query =
      if query = key then some ((dictionary.get? key).getD value) else dictionary.get? query :=
  dictionary.get?_alter key _ query

theorem get?_foldl_insertNew (entries : List (String × α)) (dictionary : Dictionary α)
    (query : String) : (entries.foldl (fun dictionary entry =>
      dictionary.insertNew entry.1 entry.2) dictionary).get? query =
        (dictionary.get? query).or (entries.lookup query) := by
  induction entries generalizing dictionary with
  | nil => simp
  | cons entry rest ih =>
    obtain ⟨key, value⟩ := entry
    rw [List.foldl_cons, ih, get?_insertNew, Entries.lookup_cons_eq]
    by_cases here : query = key
    · subst here
      cases dictionary.get? query <;> simp
    · simp [here]

@[simp] theorem empty_merge (combine : α → α → α) (dictionary : Dictionary α) :
    (∅ : Dictionary α).merge combine dictionary = dictionary :=
  ext_get? fun key => by simp

theorem eq_empty_of_isEmpty {dictionary : Dictionary α} (empty : dictionary.isEmpty) :
    dictionary = ∅ := by
  refine ext_get? fun key => ?_
  rw [get?, List.isEmpty_iff.1 empty]
  rfl

theorem filter_eq_self {keep : String → α → Bool} {dictionary : Dictionary α}
    (all : ∀ entry ∈ dictionary.entries, keep entry.1 entry.2 = true) :
    dictionary.filter keep = dictionary := by
  cases dictionary with
  | mk entries ascending =>
    rw [filter, mk.injEq]
    exact List.filter_eq_self.2 all

theorem filter_eq_empty {keep : String → α → Bool} {dictionary : Dictionary α}
    (none : ∀ entry ∈ dictionary.entries, ¬keep entry.1 entry.2 = true) :
    dictionary.filter keep = ∅ :=
  eq_empty_of_isEmpty (List.isEmpty_iff.2 (List.filter_eq_nil_iff.2 none))

theorem ofList_entries (dictionary : Dictionary α) : ofList dictionary.entries = dictionary := by
  refine ext_get? fun key => ?_
  rw [get?_ofList, ← Entries.lookup_ofList, dictionary.ascending.ofList_eq_self, get?]

section Merging

variable (combine : α → α → α)

theorem merge_self (same : ∀ value, combine value value = value) (dictionary : Dictionary α) :
    dictionary.merge combine dictionary = dictionary := by
  refine ext_get? fun key => ?_
  rw [get?_merge]
  cases dictionary.get? key <;> simp [same]

theorem merge_merge_self (again : ∀ value other, combine (combine value other) other =
    combine value other) (same : ∀ value, combine value value = value)
    (dictionary other : Dictionary α) :
    (dictionary.merge combine other).merge combine other = dictionary.merge combine other := by
  refine ext_get? fun key => ?_
  simp only [get?_merge]
  cases dictionary.get? key <;> cases other.get? key <;> simp [same, again]

theorem merge_assoc (assoc : ∀ first second third, combine (combine first second) third =
    combine first (combine second third)) (first second third : Dictionary α) :
    (first.merge combine second).merge combine third =
      first.merge combine (second.merge combine third) := by
  refine ext_get? fun key => ?_
  simp only [get?_merge]
  cases first.get? key <;> cases second.get? key <;> cases third.get? key <;> simp [assoc]

variable {combine} in
theorem mapValues_merge {image : String → α → β} {combine' : β → β → β}
    (maps : ∀ key value other,
      image key (combine value other) = combine' (image key value) (image key other))
    (dictionary other : Dictionary α) : (dictionary.merge combine other).mapValues image =
      (dictionary.mapValues image).merge combine' (other.mapValues image) := by
  refine ext_get? fun key => ?_
  simp only [get?_merge, get?_mapValues]
  cases dictionary.get? key <;> cases other.get? key <;> simp [maps]

end Merging

section Keyed

variable {dictionary : Dictionary α} {keyOf : α → String}

theorem map_values_eq_entries
    (keyed : ∀ key value, dictionary.get? key = some value → keyOf value = key) :
    dictionary.values.map (fun value => (keyOf value, value)) = dictionary.entries := by
  rw [values, List.map_map]
  refine (List.map_congr_left fun entry member => ?_).trans (List.map_id _)
  simp [keyed entry.1 entry.2 (mem_entries_iff.1 member)]

theorem ofList_values
    (keyed : ∀ key value, dictionary.get? key = some value → keyOf value = key) :
    ofList (dictionary.values.map fun value => (keyOf value, value)) = dictionary := by
  rw [map_values_eq_entries keyed, ofList_entries]

theorem pairwise_values
    (keyed : ∀ key value, dictionary.get? key = some value → keyOf value = key) :
    dictionary.values.Pairwise fun earlier later => keyOf earlier < keyOf later := by
  have ascending := dictionary.ascending
  rwa [← map_values_eq_entries keyed, Entries.Ascending, List.pairwise_map] at ascending

theorem values_mapValues
    (keyed : ∀ key value, dictionary.get? key = some value → keyOf value = key)
    (image : String → α → β) : (dictionary.mapValues image).values =
      dictionary.values.map fun value => image (keyOf value) value := by
  simp only [values, mapValues, List.map_map]
  refine List.map_congr_left fun entry member => ?_
  simp [keyed entry.1 entry.2 (mem_entries_iff.1 member)]

end Keyed

end Phrasebook.Dictionary
