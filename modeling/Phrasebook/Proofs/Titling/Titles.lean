import Mathlib.Data.List.Pairwise
import Phrasebook.Proofs.Document.Refusals
import Phrasebook.Titling.Basic

namespace Phrasebook

/-! ## Places of leaves -/

namespace Json

theorem dropLast_leaf (keys path : List String) (text : String) :
    (keys ++ (path ++ [text])).dropLast = keys ++ path := by
  rw [← List.append_assoc, List.dropLast_concat]

theorem pairwise_leavesOfMembers {limit : Nat} {keys : List String}
    {members : List (String × Json)} (ascending : Entries.Ascending members)
    (each : ∀ member ∈ members, ∀ leaves,
      leavesUnder limit (keys ++ [member.1]) member.2 = .ok leaves →
        leaves.Pairwise fun leaf other => leaf.dropLast ≠ other.dropLast)
    {leaves : List LeafPath} (flat : leavesOfMembers limit keys members = .ok leaves) :
    leaves.Pairwise fun leaf other => leaf.dropLast ≠ other.dropLast := by
  induction members generalizing leaves with
  | nil =>
    obtain rfl := Except.ok.inj flat
    exact .nil
  | cons member rest ih =>
    obtain ⟨first, others, here, there, rfl⟩ := leavesOfMembers_cons_eq_ok_iff.1 flat
    obtain ⟨eachHere, eachThere⟩ := List.forall_mem_cons.1 each
    refine List.pairwise_append.2 ⟨eachHere first here, ih ascending.of_cons eachThere there, ?_⟩
    -- Leaves of different members differ in the key of the member.
    intro leaf inside other otherInside same
    obtain ⟨further, among, inner, innerFlat, innerInside⟩ :=
      exists_member_of_mem_leaves there otherInside
    obtain ⟨path, text, rfl, -⟩ := exists_keys_of_mem_leavesUnder here inside
    obtain ⟨path', text', rfl, -⟩ := exists_keys_of_mem_leavesUnder innerFlat innerInside
    rw [dropLast_leaf, dropLast_leaf, List.append_assoc, List.append_assoc] at same
    obtain ⟨equal, -⟩ := List.cons.inj (List.append_cancel_left same)
    have below : member.1 < further.1 := (List.pairwise_cons.1 ascending).1 further among
    exact String.lt_irrefl _ (equal ▸ below)

theorem Ordered.pairwise_leavesUnder {value : Json} (ordered : value.Ordered) {limit : Nat}
    {keys : List String} {leaves : List LeafPath}
    (flat : leavesUnder limit keys value = .ok leaves) :
    leaves.Pairwise fun leaf other => leaf.dropLast ≠ other.dropLast := by
  induction ordered generalizing keys leaves with
  | @leaf value isLeaf =>
    cases value with
    | string | number =>
      obtain rfl := Except.ok.inj flat
      exact List.pairwise_singleton _ _
    | object => cases isLeaf
    | _ => cases flat
  | @object members ascending below ih =>
    rw [leavesUnder] at flat
    split at flat
    · cases flat
    · exact pairwise_leavesOfMembers ascending (fun member inside leaves => ih member inside) flat

end Json

/-! ## Collecting titles -/

namespace LeafPath

def key (path : LeafPath) : String := Dotted.join path.dropLast

theorem key_append (keys : List String) (text : String) :
    key (keys ++ [text]) = Dotted.join keys := by
  rw [key, List.dropLast_concat]

def GiveTwice (paths : List LeafPath) (key previous title : String) : Prop :=
  ∃ keys other, [keys ++ [previous], other ++ [title]].Sublist paths ∧
    Dotted.join keys = key ∧ Dotted.join other = key

structure Collected (titles : Dictionary String) (paths : List LeafPath) : Prop where
  nonempty : ∀ path ∈ paths, path ≠ []
  apart : paths.Pairwise fun path other => path.key ≠ other.key
  get?_iff : ∀ key title, titles.get? key = some title ↔
    ∃ keys, keys ++ [title] ∈ paths ∧ Dotted.join keys = key

theorem collected_empty : Collected ∅ [] where
  nonempty := by simp
  apart := .nil
  get?_iff := by simp

theorem addTitle_append (titles : Dictionary String) (keys : List String) (title : String) :
    addTitle titles (keys ++ [title]) = (titles.get? (Dotted.join keys)).elim
      (.ok (titles.insert (Dotted.join keys) title))
      fun previous => .error (.duplicateKey (Dotted.join keys) previous title) := by
  simp only [addTitle, splitText?, List.getLast?_concat, Option.map_some, List.dropLast_concat]
  cases titles.get? (Dotted.join keys) <;> rfl

variable {titles : Dictionary String} {front paths : List LeafPath}

theorem Collected.insert (collected : Collected titles front) {keys : List String}
    (new : titles.get? (Dotted.join keys) = none) (title : String) :
    Collected (titles.insert (Dotted.join keys) title) (front ++ [keys ++ [title]]) where
  nonempty := by
    simpa [or_imp, forall_and] using collected.nonempty
  apart := by
    refine List.pairwise_append.2 ⟨collected.apart, List.pairwise_singleton _ _, ?_⟩
    simp only [List.mem_singleton, forall_eq]
    intro path inside same
    have split := List.dropLast_concat_getLast (collected.nonempty path inside)
    rw [key_append] at same
    have found := (collected.get?_iff (Dotted.join keys) (path.getLast _)).2
      ⟨path.dropLast, by rwa [split], same⟩
    cases new.symm.trans found
  get?_iff query text := by
    rw [Dictionary.get?_insert]
    simp only [List.mem_append, List.mem_singleton, or_and_right, exists_or, ← collected.get?_iff]
    by_cases here : query = Dotted.join keys
    · subst here
      simp [new, eq_comm]
    · have elsewhere : ¬∃ other, other ++ [text] = keys ++ [title] ∧ Dotted.join other = query := by
        rintro ⟨other, same, rfl⟩
        exact here (by rw [List.append_inj_left' same rfl])
      rw [if_neg here, or_iff_left elsewhere]

theorem foldlM_addTitle (collected : Collected titles front)
    (nonempty : ∀ path ∈ paths, path ≠ []) :
    (∃ result, paths.foldlM addTitle titles = .ok result ∧ Collected result (front ++ paths)) ∨
      ∃ key previous title, GiveTwice (front ++ paths) key previous title ∧
        paths.foldlM addTitle titles = .error (.duplicateKey key previous title) := by
  induction paths generalizing titles front with
  | nil => exact .inl ⟨titles, rfl, by simpa using collected⟩
  | cons path rest ih =>
    obtain ⟨here, there⟩ := List.forall_mem_cons.1 nonempty
    obtain ⟨keys, title, rfl⟩ : ∃ keys title, path = keys ++ [title] :=
      ⟨_, _, (List.dropLast_concat_getLast here).symm⟩
    rw [List.foldlM_cons, addTitle_append]
    cases former : titles.get? (Dotted.join keys) with
    | none =>
      have further := ih (collected.insert former title) there
      rwa [List.append_assoc, List.singleton_append] at further
    | some previous =>
      -- The title that is there already comes from a path among those in front.
      obtain ⟨other, inside, same⟩ := (collected.get?_iff _ _).1 former
      refine .inr ⟨_, previous, title, ⟨other, keys, ?_, same, rfl⟩, rfl⟩
      have last : [keys ++ [title]].Sublist ((keys ++ [title]) :: rest) := by simp
      exact (List.singleton_sublist.2 inside).append last

end LeafPath

/-! ## Documents of titles -/

namespace Json

def Gives (document : Json) (key title : String) : Prop :=
  ∃ path, document.textAt? path = some title ∧ Dotted.join path = key

def HasTitles (document : Json) (titles : Dictionary String) : Prop :=
  ∀ key title, titles.get? key = some title ↔ document.Gives key title

def Ambiguous (document : Json) : Prop :=
  ∃ path other, path ≠ other ∧ (document.textAt? path).isSome ∧ (document.textAt? other).isSome ∧
    Dotted.join path = Dotted.join other

def GivesTwice (document : Json) (key previous title : String) : Prop :=
  ∃ path other, path ≠ other ∧ path.length ≤ other.length ∧
    document.textAt? path = some previous ∧ document.textAt? other = some title ∧
    Dotted.join path = key ∧ Dotted.join other = key

theorem GivesTwice.ambiguous {document : Json} {key previous title : String}
    (twice : document.GivesTwice key previous title) : document.Ambiguous := by
  obtain ⟨path, other, different, -, first, second, same, otherSame⟩ := twice
  exact ⟨path, other, different, by simp [first], by simp [second], same.trans otherSame.symm⟩

variable {members : List (String × Json)} {leaves : List LeafPath}

theorem ne_nil_of_mem_leaves (flat : (object members).leaves defaultDepth = .ok leaves) :
    ∀ leaf ∈ leaves, leaf ≠ [] := by
  intro leaf inside
  obtain ⟨path, text, rfl, -⟩ := exists_keys_of_mem_leavesUnder flat inside
  simp

theorem titlesOf_object (flat : (object members).leaves defaultDepth = .ok leaves) :
    titlesOf (object members) = (LeafPath.sort leaves).foldlM addTitle ∅ := by
  rw [titlesOf, flat]
  rfl

theorem titlesOf_of_leaf {keys : List String} {title : String}
    (flat : (object members).leaves defaultDepth = .ok [keys ++ [title]]) :
    titlesOf (object members) = .ok (Dictionary.ofList [(Dotted.join keys, title)]) := by
  rw [titlesOf_object flat, LeafPath.sort, List.mergeSort_singleton, List.foldlM_cons,
    LeafPath.addTitle_append]
  rfl

theorem Ordered.mem_sort_leaves_iff (ordered : (Json.object members).Ordered)
    (flat : (Json.object members).leaves defaultDepth = .ok leaves) {path : List String}
    {text : String} :
    path ++ [text] ∈ LeafPath.sort leaves ↔ (Json.object members).textAt? path = some text := by
  rw [LeafPath.sort, List.mem_mergeSort, ordered.mem_leaves_iff flat]
  constructor
  · rintro ⟨path', text', split, found⟩
    obtain ⟨rfl, ⟨⟩⟩ := List.append_inj' split rfl
    exact found
  · exact fun found => ⟨path, text, rfl, found⟩

theorem Ordered.givesTwice (ordered : (Json.object members).Ordered)
    (flat : (Json.object members).leaves defaultDepth = .ok leaves) {key previous title : String}
    (twice : LeafPath.GiveTwice (LeafPath.sort leaves) key previous title) :
    (Json.object members).GivesTwice key previous title := by
  obtain ⟨path, other, sub, same, otherSame⟩ := twice
  have first := (ordered.mem_sort_leaves_iff flat).1 (sub.subset List.mem_cons_self)
  have second := (ordered.mem_sort_leaves_iff flat).1
    (sub.subset (List.mem_cons_of_mem _ List.mem_cons_self))
  have apart : (LeafPath.sort leaves).Pairwise fun leaf other => leaf.dropLast ≠ other.dropLast :=
    ((List.mergeSort_perm leaves LeafPath.precedes).pairwise_iff Ne.symm).2
      (ordered.pairwise_leavesUnder flat)
  have different : path ≠ other := by
    simpa using List.pairwise_iff_forall_sublist.1 apart sub
  -- The paths are sorted by their lengths first.
  have ascending := LeafPath.ranked.pairwise_mergeSort leaves
  have shorter : path.length ≤ other.length := by
    have before := List.pairwise_iff_forall_sublist.1 ascending sub
    rcases Prod.Lex.toLex_le_toLex.1 before with fewer | ⟨same, -⟩
    · simpa using Nat.le_of_lt fewer
    · simpa using same.le
  exact ⟨path, other, different, shorter, first, second, same, otherSame⟩

theorem Ordered.not_ambiguous (ordered : (Json.object members).Ordered)
    (flat : (Json.object members).leaves defaultDepth = .ok leaves) {titles : Dictionary String}
    (collected : LeafPath.Collected titles (LeafPath.sort leaves)) :
    ¬(Json.object members).Ambiguous := by
  rintro ⟨path, other, different, first, second, same⟩
  obtain ⟨text, first⟩ := Option.isSome_iff_exists.1 first
  obtain ⟨otherText, second⟩ := Option.isSome_iff_exists.1 second
  have distinct : path ++ [text] ≠ other ++ [otherText] :=
    fun equal => different (List.append_inj_left' equal rfl)
  have symmetric : Std.Symm fun path other : LeafPath => path.key ≠ other.key :=
    ⟨fun _ _ => Ne.symm⟩
  have apart := collected.apart.forall ((ordered.mem_sort_leaves_iff flat).2 first)
    ((ordered.mem_sort_leaves_iff flat).2 second) distinct
  rw [LeafPath.key_append, LeafPath.key_append] at apart
  exact apart same

/-- A document has the titles that it gives, unless different paths make up one key. Then it is
refused for such a key. -/
theorem Ordered.titlesOf_cases (ordered : (Json.object members).Ordered)
    (flat : (Json.object members).leaves defaultDepth = .ok leaves) :
    (¬(Json.object members).Ambiguous ∧ ∃ titles, titlesOf (.object members) = .ok titles ∧
      (Json.object members).HasTitles titles) ∨
    ∃ key previous title, (Json.object members).GivesTwice key previous title ∧
      titlesOf (.object members) = .error (.duplicateKey key previous title) := by
  have nonempty : ∀ path ∈ LeafPath.sort leaves, path ≠ [] := fun path inside =>
    ne_nil_of_mem_leaves flat path (List.mem_mergeSort.1 inside)
  rw [titlesOf_object flat]
  rcases LeafPath.foldlM_addTitle LeafPath.collected_empty nonempty with
    ⟨titles, succeeds, collected⟩ | ⟨key, previous, title, twice, fails⟩
  · rw [List.nil_append] at collected
    refine .inl ⟨ordered.not_ambiguous flat collected, titles, succeeds, fun key title => ?_⟩
    rw [collected.get?_iff, Gives]
    exact exists_congr fun path => and_congr_left fun _ => ordered.mem_sort_leaves_iff flat
  · exact .inr ⟨key, previous, title, ordered.givesTwice flat twice, fails⟩

theorem exists_leaves_of_titlesOf {document : Json} {titles : Dictionary String}
    (collected : titlesOf document = .ok titles) : ∃ members leaves, document = .object members ∧
      document.leaves defaultDepth = .ok leaves := by
  cases document with
  | object members =>
    cases flat : (object members).leaves defaultDepth with
    | error fault =>
      rw [titlesOf, flat] at collected
      cases collected
    | ok leaves => exact ⟨members, leaves, rfl, rfl⟩
  | _ => cases collected

theorem Ordered.hasTitles {document : Json} (ordered : document.Ordered)
    {titles : Dictionary String} (collected : titlesOf document = .ok titles) :
    document.HasTitles titles := by
  obtain ⟨members, leaves, rfl, flat⟩ := exists_leaves_of_titlesOf collected
  rcases ordered.titlesOf_cases flat with ⟨-, others, succeeds, gives⟩ | ⟨_, _, _, -, fails⟩
  · obtain rfl := Except.ok.inj (succeeds.symm.trans collected)
    exact gives
  · cases fails.symm.trans collected

end Json

end Phrasebook
