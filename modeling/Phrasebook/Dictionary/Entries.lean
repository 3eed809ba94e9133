/-!
# Entries in key order

Keyed data is a list of entries whose keys ascend by code point, so that a collection has one list
and every walk meets the keys in order. The operations here work on bare lists, because trees use
them below their own constructors:

* `alter` sets one entry to a function of its former value, and `merge` does so for every entry of
  a second list;
* `lookup_alter` says what a later lookup finds;
* every operation keeps the order (`Ascending.alter`, `Ascending.merge`, `ascending_ofList`).
-/

namespace Phrasebook.Entries

variable {α β : Type}

def Ascending (entries : List (String × α)) : Prop :=
  entries.Pairwise fun earlier later => earlier.1 < later.1

instance (entries : List (String × α)) : Decidable (Ascending entries) :=
  inferInstanceAs (Decidable (entries.Pairwise fun earlier later => earlier.1 < later.1))

def alter (key : String) (change : Option α → α) : List (String × α) → List (String × α)
  | [] => [(key, change none)]
  | entry :: rest =>
    if key < entry.1 then (key, change none) :: entry :: rest
    else if key = entry.1 then (key, change (some entry.2)) :: rest
    else entry :: alter key change rest

def insert (key : String) (value : α) (entries : List (String × α)) : List (String × α) :=
  alter key (fun _ => value) entries

def ofList (entries : List (String × α)) : List (String × α) :=
  entries.foldl (fun ordered entry => insert entry.1 entry.2 ordered) []

def merge (combine : α → α → α) (entries others : List (String × α)) : List (String × α) :=
  others.foldl (fun merged entry =>
    alter entry.1 (fun former => former.elim entry.2 (combine · entry.2)) merged) entries

/-! ## Lookup -/

theorem lookup_alter (key : String) (change : Option α → α) (entries : List (String × α))
    (ascending : Ascending entries) (query : String) :
    (alter key change entries).lookup query =
      if query = key then some (change (entries.lookup key)) else entries.lookup query := by
  induction entries with
  | nil => by_cases same : query = key <;> simp [alter, same]
  | cons entry rest ih =>
    obtain ⟨head, value⟩ := entry
    have later : ∀ other ∈ rest, head < other.1 := (List.pairwise_cons.1 ascending).1
    have ih := ih ascending.of_cons
    unfold alter
    split
    · rename_i before
      simp only at before
      have absent : ∀ other ∈ (head, value) :: rest, key ≠ other.1 := by
        intro other member equal
        rcases List.mem_cons.1 member with rfl | member
        · exact String.lt_irrefl _ (equal ▸ before)
        · exact String.lt_irrefl key (String.lt_trans before (equal ▸ later other member))
      have none : ((head, value) :: rest).lookup key = none := by
        rw [List.lookup_eq_none_iff]
        intro other member
        simpa using absent other member
      by_cases same : query = key
      · subst same
        simp [none]
      · have : (query == key) = false := by simpa using same
        simp [List.lookup_cons, this, same]
    · split
      · rename_i equal
        simp only at equal
        subst equal
        by_cases same : query = key
        · simp [same]
        · have : (query == key) = false := by simpa using same
          simp [List.lookup_cons, this, same]
      · rename_i different
        simp only at different
        have unequal : (key == head) = false := by simpa using different
        by_cases atHead : query = head
        · subst atHead
          have : query ≠ key := fun equal => different equal.symm
          simp [this]
        · have : (query == head) = false := by simpa using atHead
          simp [List.lookup_cons, this, ih, unequal]

/-! ## Membership -/

theorem mem_alter {key : String} {change : Option α → α} {entries : List (String × α)}
    {entry : String × α} (member : entry ∈ alter key change entries) :
    entry ∈ entries ∨ entry = (key, change none) ∨
      ∃ former, (key, former) ∈ entries ∧ entry = (key, change (some former)) := by
  induction entries with
  | nil => exact .inr (.inl (List.mem_singleton.1 member))
  | cons head rest ih =>
    unfold alter at member
    split at member
    · rcases List.mem_cons.1 member with equal | member
      · exact .inr (.inl equal)
      · exact .inl member
    · split at member
      · rename_i equal
        rcases List.mem_cons.1 member with altered | member
        · exact .inr (.inr ⟨head.2, by rw [equal]; exact List.mem_cons_self, altered⟩)
        · exact .inl (List.mem_cons_of_mem _ member)
      · rcases List.mem_cons.1 member with equal | member
        · exact .inl (equal ▸ List.mem_cons_self)
        · rcases ih member with inside | new | ⟨former, inside, equal⟩
          · exact .inl (List.mem_cons_of_mem _ inside)
          · exact .inr (.inl new)
          · exact .inr (.inr ⟨former, List.mem_cons_of_mem _ inside, equal⟩)

/-! ## Order -/

theorem mem_keys_alter {key : String} {change : Option α → α} {entries : List (String × α)}
    {entry : String × α} (member : entry ∈ alter key change entries) :
    entry.1 = key ∨ ∃ former ∈ entries, former.1 = entry.1 := by
  rcases mem_alter member with inside | rfl | ⟨_, _, rfl⟩
  · exact .inr ⟨entry, inside, rfl⟩
  · exact .inl rfl
  · exact .inl rfl

theorem lt_of_not_lt_of_ne {left right : String} (notBelow : ¬left < right)
    (different : left ≠ right) : right < left :=
  Classical.byContradiction fun notAbove =>
    different (String.le_antisymm (String.not_lt.1 notAbove) (String.not_lt.1 notBelow))

theorem Ascending.alter {entries : List (String × α)} (ascending : Ascending entries)
    (key : String) (change : Option α → α) : Ascending (Entries.alter key change entries) := by
  induction entries with
  | nil => exact List.pairwise_singleton _ _
  | cons head rest ih =>
    have later : ∀ other ∈ rest, head.1 < other.1 := (List.pairwise_cons.1 ascending).1
    unfold Entries.alter
    split
    · rename_i before
      refine List.Pairwise.cons (fun other member => ?_) ascending
      rcases List.mem_cons.1 member with rfl | member
      · exact before
      · exact String.lt_trans before (later other member)
    · split
      · rename_i equal
        exact List.Pairwise.cons (fun other member => equal ▸ later other member) ascending.of_cons
      · rename_i notBefore different
        refine List.Pairwise.cons (fun other member => ?_) (ih ascending.of_cons)
        rcases mem_keys_alter member with equal | ⟨former, inside, equal⟩
        · exact equal ▸ lt_of_not_lt_of_ne notBefore different
        · exact equal ▸ later former inside

theorem Ascending.insert {entries : List (String × α)} (ascending : Ascending entries)
    (key : String) (value : α) : Ascending (Entries.insert key value entries) :=
  ascending.alter key _

theorem Ascending.merge {entries : List (String × α)} (ascending : Ascending entries)
    (combine : α → α → α) (others : List (String × α)) :
    Ascending (Entries.merge combine entries others) := by
  unfold Entries.merge
  induction others generalizing entries with
  | nil => exact ascending
  | cons other rest ih => exact ih (ascending.alter _ _)

theorem ascending_ofList (entries : List (String × α)) : Ascending (ofList entries) := by
  suffices ∀ ordered : List (String × α), Ascending ordered →
      Ascending (entries.foldl (fun ordered entry => insert entry.1 entry.2 ordered) ordered) from
    this [] .nil
  induction entries with
  | nil => exact fun _ ascending => ascending
  | cons entry rest ih => exact fun ordered ascending => ih _ (ascending.insert _ _)

theorem Ascending.mapValues {entries : List (String × α)} (ascending : Ascending entries)
    (image : String → α → β) :
    Ascending (entries.map fun entry => (entry.1, image entry.1 entry.2)) :=
  List.Pairwise.map _ (fun _ _ below => below) ascending

theorem Ascending.filter {entries : List (String × α)} (ascending : Ascending entries)
    (keep : String × α → Bool) : Ascending (entries.filter keep) :=
  List.Pairwise.filter _ ascending

end Phrasebook.Entries
