import Phrasebook.Proofs.Document.Members
import Phrasebook.Proofs.Import.Faithful
import Phrasebook.Proofs.Import.Parts

namespace Phrasebook

/-! ## Titles -/

def Category.titleOf (key : String) : String := Title.ofKey ((pathOf key).getLast?.getD "")

theorem Category.titleOf_categoryKeyOf {folders : List String}
    (dotless : ∀ folder ∈ folders, '.' ∉ folder.toList) :
    titleOf (categoryKeyOf folders) = Title.ofKey (folders.getLast?.getD "") := by
  by_cases blank : folders = [""]
  · subst blank
    decide
  · by_cases root : folders = [Category.rootKey]
    · subst root
      decide
    · rw [titleOf, Category.pathOf_categoryKeyOf dotless blank root]

/-! ## Members -/

def ImportTarget.localeIdOf? (target : ImportTarget) (key : String) : Option String :=
  (Locale.resolve? target.locales key).map (·.id)

namespace ImportTarget

variable {target : ImportTarget}

theorem localeIdOf?_of_place {separator : String} {path : LeafPath} {placement : Placement}
    (unhinted : target.hint? = none) (placed : target.place separator path = .ok placement) :
    path.head?.bind target.localeIdOf? = some placement.localeId := by
  obtain ⟨first, keys, text, locale, rfl, located, rfl⟩ := exists_ofKeys_of_place placed
  rw [localeFor?_of_unhinted unhinted] at located
  rw [List.head?_cons, Option.bind_some, localeIdOf?, located]
  rfl

theorem run_object_eq_ok_iff {rules : ImportRules} {members : List (String × Json)} {made : Import}
    (unhinted : target.hint? = none) : rules.run target (.object members) = .ok made ↔
      target.check (.object members) = .ok () ∧ 0 < rules.maxDepth ∧ ∃ leaves placements,
        Json.leavesOfMembers rules.maxDepth [] members = .ok leaves ∧
        List.Forall₂ (fun path placement =>
          target.place rules.contextSeparator path = .ok placement) (LeafPath.sort leaves)
          placements ∧
        made = placements.foldl (Import.add rules target) Import.empty := by
  simp only [ImportRules.run_eq_ok_iff, Json.leaves_object_eq_ok_iff, paths, unhinted, and_assoc,
    exists_and_left]

variable {limit : Nat} {members : List (String × Json)} {leaves : List LeafPath}

theorem exists_keys_of_mem_leaves (dotless : ∀ member ∈ members, member.2.Dotless)
    (flat : Json.leavesOfMembers limit [] members = .ok leaves) {leaf : LeafPath}
    (inside : leaf ∈ leaves) : ∃ member ∈ members, ∃ path text,
      leaf = member.1 :: (path ++ [text]) ∧ ∀ folder ∈ path.dropLast, '.' ∉ folder.toList := by
  obtain ⟨member, among, inner, innerFlat, innerLeaf⟩ :=
    Json.exists_member_of_mem_leaves flat inside
  obtain ⟨path, text, rfl, -, folders⟩ := (dotless member among).exists_keys innerFlat innerLeaf
  exact ⟨member, among, path, text, rfl, folders⟩

theorem filter_leaves_eq_nil (dotless : ∀ member ∈ members, member.2.Dotless)
    (flat : Json.leavesOfMembers limit [] members = .ok leaves) {localeId? : Option String}
    (elsewhere : ∀ member ∈ members, target.localeIdOf? member.1 ≠ localeId?) :
    leaves.filter (fun leaf => leaf.head?.bind target.localeIdOf? = localeId?) = [] := by
  rw [List.filter_eq_nil_iff]
  intro leaf inside
  obtain ⟨member, among, path, text, rfl, -⟩ := exists_keys_of_mem_leaves dotless flat inside
  exact fun same => elsewhere member among (of_decide_eq_true same)

theorem leavesOfMembers_singleton (dotless : ∀ member ∈ members, member.2.Dotless)
    (distinct : (members.map fun member => target.localeIdOf? member.1).Nodup)
    (flat : Json.leavesOfMembers limit [] members = .ok leaves) {member : String × Json}
    (among : member ∈ members) :
    Json.leavesOfMembers limit [] [member] = .ok (leaves.filter fun leaf =>
      leaf.head?.bind target.localeIdOf? = target.localeIdOf? member.1) := by
  obtain ⟨front, back, rfl⟩ := List.append_of_mem among
  obtain ⟨before, _, frontFlat, rest, rfl⟩ := Json.leavesOfMembers_append_eq_ok_iff.1 flat
  rw [← List.singleton_append] at rest
  obtain ⟨own, behind, ownFlat, backFlat, rfl⟩ := Json.leavesOfMembers_append_eq_ok_iff.1 rest
  simp only [List.forall_mem_append, List.forall_mem_cons] at dotless
  obtain ⟨dotlessFront, dotlessHere, dotlessBack⟩ := dotless
  rw [List.map_append, List.map_cons, List.nodup_append] at distinct
  obtain ⟨-, distinctBack, apart⟩ := distinct
  have noneBefore := filter_leaves_eq_nil dotlessFront frontFlat fun other member same =>
    apart _ (List.mem_map_of_mem member) _ List.mem_cons_self same
  have noneBehind := filter_leaves_eq_nil dotlessBack backFlat fun other member same =>
    (List.nodup_cons.1 distinctBack).1 (List.mem_map.2 ⟨other, member, same⟩)
  rw [List.filter_append, List.filter_append, noneBefore, noneBehind, List.nil_append,
    List.append_nil, List.filter_eq_self.2, ownFlat]
  intro leaf inside
  obtain ⟨other, isMember, path, text, rfl, -⟩ :=
    exists_keys_of_mem_leaves (by simpa using dotlessHere) ownFlat inside
  obtain rfl := List.mem_singleton.1 isMember
  simp

end ImportTarget

/-! ## Imports -/

namespace ImportRules

open Import (add empty)

variable {rules : ImportRules} {target : ImportTarget} {members : List (String × Json)}

section Placed

variable {leaves : List LeafPath} {placements : List Placement} (unhinted : target.hint? = none)
  (dotless : ∀ member ∈ members, member.2.Dotless)
  (flat : Json.leavesOfMembers rules.maxDepth [] members = .ok leaves)
  (placed : List.Forall₂ (fun path placement =>
    target.place rules.contextSeparator path = .ok placement) (LeafPath.sort leaves) placements)

include unhinted dotless flat placed

theorem run_singleton (owned : target.Owned) (named : target.locales ≠ [])
    (deep : 0 < rules.maxDepth)
    (distinct : (members.map fun member => target.localeIdOf? member.1).Nodup)
    {member : String × Json} (among : member ∈ members) :
    rules.run target (.object [member]) = .ok ((placements.filter fun placement =>
      some placement.localeId = target.localeIdOf? member.1).foldl (add rules target) empty) := by
  rw [ImportTarget.run_object_eq_ok_iff unhinted]
  refine ⟨ImportTarget.check_eq_ok_iff.2 ⟨⟨_, rfl, List.cons_ne_nil _ _⟩, owned, .inl named⟩, deep,
    _, _, ImportTarget.leavesOfMembers_singleton dotless distinct flat among, ?_, rfl⟩
  -- Sorting the leaves of the member gives the sorted leaves of the document for its locale.
  rw [← LeafPath.filter_sort]
  refine List.rel_filter ?_ placed
  intro path placement located
  simp [ImportTarget.localeIdOf?_of_place unhinted located]

theorem exists_member_of_mem_placements (placement : Placement)
    (inside : placement ∈ placements) :
    Title.ofKey placement.folder = Category.titleOf placement.categoryKey ∧
      ∃ member ∈ members, target.localeIdOf? member.1 = some placement.localeId := by
  obtain ⟨leaf, sorted, located⟩ := exists_result_of_forall₂ placed.flip inside
  have among : leaf ∈ leaves := List.mem_mergeSort.1 sorted
  obtain ⟨member, isMember, path, text, rfl, folders⟩ :=
    ImportTarget.exists_keys_of_mem_leaves dotless flat among
  have named := ImportTarget.localeIdOf?_of_place unhinted located
  obtain ⟨first, keys, text', locale, same, -, rfl⟩ :=
    ImportTarget.exists_ofKeys_of_place located
  obtain ⟨rfl, -⟩ := List.append_inj' (List.cons.inj same).2 rfl
  refine ⟨?_, member, isMember, named⟩
  rw [Placement.categoryKey_ofKeys, Category.titleOf_categoryKeyOf folders]
  rfl

end Placed

/-- A document whose topmost keys name different locales can be imported one key at a time, in any
order: the counts add up to the same, and only arguments of references may differ. -/
theorem run_localewise {made : Import} (unhinted : target.hint? = none)
    (distinct : (members.map fun member => target.localeIdOf? member.1).Nodup)
    (dotless : ∀ member ∈ members, member.2.Dotless)
    (imported : rules.run target (.object members) = .ok made)
    {order : List (String × Json)} (reordered : order.Perm members) (store : Store) :
    ∃ parts, List.Forall₂ (fun member part => rules.run target (.object [member]) = .ok part)
        order parts ∧
      (store.applyAll parts).2.withoutArguments =
        (store.apply made.categories).2.withoutArguments ∧
      (store.applyAll parts).1 = (store.apply made.categories).1 := by
  obtain ⟨checked, deep, leaves, placements, flat, placed, rfl⟩ :=
    (ImportTarget.run_object_eq_ok_iff unhinted).1 imported
  obtain ⟨-, owned, named⟩ := ImportTarget.check_eq_ok_iff.1 checked
  have locales : target.locales ≠ [] := by simpa [unhinted] using named
  have facts := exists_member_of_mem_placements unhinted dotless flat placed
  have orderedDistinct := (reordered.map fun member => target.localeIdOf? member.1).nodup_iff.2
    distinct
  refine ⟨(Placement.partsBy placements (order.map fun member => target.localeIdOf? member.1)).map
    (·.foldl (add rules target) empty), ?_, ?_⟩
  · rw [Placement.partsBy, List.map_map, List.map_map, List.forall₂_map_right_iff,
      List.forall₂_same]
    intro member among
    exact run_singleton unhinted dotless flat placed owned locales deep distinct
      (reordered.mem_iff.1 among)
  · refine store.applyAll_partsBy rules target orderedDistinct ?_ fun placement inside =>
      (facts placement inside).1
    intro placement inside
    obtain ⟨-, member, among, found⟩ := facts placement inside
    exact List.mem_map.2 ⟨member, reordered.mem_iff.2 among, found⟩

def bilingualMembers : List (String × Json) := [
  ("en", .object [("friend", .string "Friend $t(pal, one)")]),
  ("nb", .object [("__root__", .object [("friend", .string "Venn $t(pal, two)")])])]

theorem bilingualMembers_run_localewise :
    let store := (Store.new sampleTarget.owner).withLocales Locale.starters
    ∃ made parts, standard.run sampleTarget (.object bilingualMembers) = .ok made ∧
      List.Forall₂ (fun member part => standard.run sampleTarget (.object [member]) = .ok part)
        bilingualMembers.reverse parts ∧
      (store.applyAll parts).2.withoutArguments =
        (store.apply made.categories).2.withoutArguments ∧
      (store.applyAll parts).1 = (store.apply made.categories).1 := by
  intro store
  have resolved : ∀ path ∈ [["en", "friend", "Friend $t(pal, one)"],
      ["nb", "__root__", "friend", "Venn $t(pal, two)"]], ∃ first keys text,
        path = first :: (keys ++ [text]) ∧ (sampleTarget.localeFor? first).isSome := by
    simp only [List.forall_mem_cons]
    exact ⟨⟨"en", ["friend"], _, rfl, rfl⟩, ⟨"nb", ["__root__", "friend"], _, rfl, rfl⟩, by simp⟩
  obtain ⟨made, imported⟩ : ∃ made,
      standard.run sampleTarget (.object bilingualMembers) = .ok made :=
    exists_run rfl rfl rfl resolved
  have leaf : ∀ text, (Json.object [("friend", .string text)]).Dotless := by
    intro text
    refine .object (by simp [Json.members?]) ?_
    simpa using .leaf rfl
  have dotless : ∀ member ∈ bilingualMembers, member.2.Dotless := by
    simp only [bilingualMembers, List.forall_mem_cons]
    refine ⟨leaf _, .object (by decide) ?_, by simp⟩
    simpa using leaf _
  obtain ⟨parts, singletons, after, summary⟩ :=
    run_localewise rfl (by decide) dotless imported (List.reverse_perm _) store
  exact ⟨made, parts, imported, singletons, after, summary⟩

end ImportRules

end Phrasebook
