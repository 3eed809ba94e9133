import Phrasebook.Proofs.Import.Outcome

namespace Phrasebook

/-! ## Leaves under one more key -/

namespace Json

variable {limit : Nat}

theorem leavesOfMembers_cons_keys_eq_ok_iff {first : String} {keys : List String}
    {members : List (String × Json)}
    (each : ∀ member ∈ members, ∀ leaves,
      leavesUnder (limit + 1) (first :: (keys ++ [member.1])) member.2 = .ok leaves ↔
        ∃ inner, leavesUnder limit (keys ++ [member.1]) member.2 = .ok inner ∧
          leaves = inner.map (first :: ·))
    {leaves : List LeafPath} :
    leavesOfMembers (limit + 1) (first :: keys) members = .ok leaves ↔
      ∃ inner, leavesOfMembers limit keys members = .ok inner ∧
        leaves = inner.map (first :: ·) := by
  induction members generalizing leaves with
  | nil => simp [leavesOfMembers, eq_comm]
  | cons member rest ih =>
    obtain ⟨here, there⟩ := List.forall_mem_cons.1 each
    simp only [leavesOfMembers_cons_eq_ok_iff, List.cons_append, here, ih there]
    constructor
    · rintro ⟨_, _, ⟨front, flat, rfl⟩, ⟨back, others, rfl⟩, rfl⟩
      exact ⟨front ++ back, ⟨front, back, flat, others, rfl⟩, List.map_append.symm⟩
    · rintro ⟨_, ⟨front, back, flat, others, rfl⟩, rfl⟩
      exact ⟨_, _, ⟨front, flat, rfl⟩, ⟨back, others, rfl⟩, List.map_append⟩

theorem leavesUnder_cons_eq_ok_iff (first : String) {keys : List String} {value : Json}
    {leaves : List LeafPath} : leavesUnder (limit + 1) (first :: keys) value = .ok leaves ↔
      ∃ inner, leavesUnder limit keys value = .ok inner ∧ leaves = inner.map (first :: ·) := by
  induction value using inductOn generalizing keys leaves with
  | leaf value isLeaf =>
    cases value with
    | object members => cases isLeaf
    | _ => simp [leavesUnder, eq_comm]
  | object members ih =>
    rw [leavesUnder, leavesUnder, List.length_cons]
    by_cases deep : limit ≤ keys.length
    · simp [deep]
    · rw [if_neg deep, if_neg (by omega)]
      exact leavesOfMembers_cons_keys_eq_ok_iff fun member inside leaves => ih member inside

theorem leaves_level_eq_ok_iff (first : String) {value : Json} {leaves : List LeafPath} :
    (object [(first, value)]).leaves (limit + 1) = .ok leaves ↔
      ∃ inner, value.leaves limit = .ok inner ∧ leaves = inner.map (first :: ·) := by
  have single : leavesOfMembers (limit + 1) [] [(first, value)] = .ok leaves ↔
      leavesUnder (limit + 1) [first] value = .ok leaves := by
    rw [leavesOfMembers, List.nil_append]
    cases leavesUnder (limit + 1) [first] value <;> simp [leavesOfMembers, bind, Except.bind]
  rw [leaves_object_eq_ok_iff, and_iff_right (Nat.succ_pos limit), single]
  exact leavesUnder_cons_eq_ok_iff first

end Json

/-! ## Two targets -/

namespace ImportTarget

def hinted (locales : List Locale) (hint : Locale) (owner : Project) (origin : Origin) :
    ImportTarget := ⟨locales, some hint, owner, origin⟩

def single (locale : Locale) (owner : Project) (origin : Origin) : ImportTarget :=
  ⟨[locale], none, owner, origin⟩

variable (locales : List Locale) {hint : Locale} (owner : Project) (origin : Origin)

theorem resolve?_id (named : hint.id ≠ "") : Locale.resolve? [hint] hint.id = some hint := by
  simp [Locale.resolve?, Locale.isNamed, Locale.aliases, named]

theorem place_hinted (named : hint.id ≠ "") (separator : String) (rest : List String) :
    (hinted locales hint owner origin).place separator (hint.id :: rest) =
      (single hint owner origin).place separator (hint.id :: rest) := by
  rcases List.eq_nil_or_concat' rest with rfl | ⟨keys, text, rfl⟩
  · rfl
  · rw [place_append, place_append, localeOf, localeOf, hinted, single]
    simp only [resolve?_id named]

theorem check_hinted_iff {members : List (String × Json)} (filled : members ≠ []) :
    (hinted locales hint owner origin).check (.object members) = .ok () ↔
      (single hint owner origin).check (.object [(hint.id, .object members)]) = .ok () := by
  rw [check_eq_ok_iff, check_eq_ok_iff]
  simp [hinted, single, Owned, filled]

end ImportTarget

/-! ## Imports -/

namespace ImportRules

def deeper (rules : ImportRules) : ImportRules := { rules with maxDepth := rules.maxDepth + 1 }

theorem run_deeper_iff (rules : ImportRules) (locales : List Locale) {hint : Locale}
    (named : hint.id ≠ "") (owner : Project) (origin : Origin) {members : List (String × Json)}
    (filled : members ≠ []) (made : Import) :
    rules.run (.hinted locales hint owner origin) (.object members) = .ok made ↔
      rules.deeper.run (.single hint owner origin) (.object [(hint.id, .object members)]) =
        .ok made := by
  rw [run_eq_ok_iff, run_eq_ok_iff, ImportTarget.check_hinted_iff locales owner origin filled]
  refine and_congr_right fun _ => ?_
  have placed : ∀ inner : List LeafPath, ∀ placements,
      List.Forall₂ (fun path placement => (ImportTarget.hinted locales hint owner origin).place
        rules.contextSeparator path = .ok placement)
        ((ImportTarget.hinted locales hint owner origin).paths inner) placements ↔
      List.Forall₂ (fun path placement => (ImportTarget.single hint owner origin).place
        rules.contextSeparator path = .ok placement)
        ((ImportTarget.single hint owner origin).paths (inner.map (hint.id :: ·))) placements := by
    intro inner placements
    refine forall₂_congr_of_mem fun path among placement => ?_
    obtain ⟨leaf, -, rfl⟩ := List.mem_map.1 (List.mem_mergeSort.1 among)
    rw [ImportTarget.place_hinted locales owner origin named]
  constructor
  · rintro ⟨inner, placements, flat, located, rfl⟩
    exact ⟨_, placements, (Json.leaves_level_eq_ok_iff hint.id).2 ⟨inner, flat, rfl⟩,
      (placed inner placements).1 located, rfl⟩
  · rintro ⟨_, placements, flat, located, rfl⟩
    obtain ⟨inner, innerFlat, rfl⟩ := (Json.leaves_level_eq_ok_iff hint.id).1 flat
    exact ⟨inner, placements, innerFlat, (placed inner placements).2 located, rfl⟩

end ImportRules

namespace Settings

def deeper (settings : Settings) : Settings := { settings with maxDepth := settings.maxDepth + 1 }

def run (settings : Settings) (target : ImportTarget) (document : Json) :
    Except ImportFault Import := do
  let rules ← ImportRules.ofSettings settings
  rules.run target document

theorem ofSettings_deeper (settings : Settings) : ImportRules.ofSettings settings.deeper =
    (ImportRules.ofSettings settings).map ImportRules.deeper := by
  unfold ImportRules.ofSettings deeper
  cases Inferrer.ofSettings? settings.interpolation <;> rfl

/-- To import a document with a hint is to import it below the identifier of the hinted locale,
where that is the only locale and one more level is allowed. -/
theorem run_hinted_iff (settings : Settings) (locales : List Locale) {hint : Locale}
    (named : hint.id ≠ "") (owner : Project) (origin : Origin) {members : List (String × Json)}
    (filled : members ≠ []) (made : Import) :
    settings.run (.hinted locales hint owner origin) (.object members) = .ok made ↔
      settings.deeper.run (.single hint owner origin) (.object [(hint.id, .object members)]) =
        .ok made := by
  unfold run
  rw [ofSettings_deeper]
  cases ImportRules.ofSettings settings with
  | error fault => simp [bind, Except.bind, Except.map]
  | ok rules => exact rules.run_deeper_iff locales named owner origin filled made

open ImportRules (sampleTarget)

def shallow : Settings := { standard with maxDepth := 2 }

def norwegian : Locale := ⟨"nb-NO", "nb", "nob", "nob", "nb-NO", "Bokmål", []⟩

def norwegianTarget : ImportTarget := .hinted [] norwegian sampleTarget.owner .imported

def hintedMembers : List (String × Json) := [
  ("friend_male", .string "Kamerat"),
  ("menu", .object [("a.b", .string "\x7b\x7bcount\x7d\x7d ting")])]

def hintedLeaves : List LeafPath := [
  ["friend_male", "Kamerat"], ["menu", "a.b", "\x7b\x7bcount\x7d\x7d ting"]]

theorem hintedMembers_run :
    ∃ made, shallow.run norwegianTarget (.object hintedMembers) = .ok made := by
  obtain ⟨rules, built, twoLevels⟩ :
      ∃ rules, ImportRules.ofSettings shallow = .ok rules ∧ rules.maxDepth = 2 := ⟨_, rfl, rfl⟩
  have flat : (Json.object hintedMembers).leaves rules.maxDepth = .ok hintedLeaves := by
    rw [twoLevels]
    rfl
  have placed : ∀ path ∈ norwegianTarget.paths hintedLeaves, ∃ placement,
      norwegianTarget.place rules.contextSeparator path = .ok placement := by
    intro path among
    obtain ⟨leaf, member, rfl⟩ := List.mem_map.1 (List.mem_mergeSort.1 among)
    simp only [hintedLeaves, List.mem_cons, List.not_mem_nil, or_false] at member
    obtain rfl | rfl := member <;> exact ⟨_, rfl⟩
  obtain ⟨placements, located⟩ := exists_mapM_eq_ok placed
  refine ⟨placements.foldl (Import.add rules norwegianTarget) Import.empty, ?_⟩
  rw [run, built]
  exact ImportRules.run_eq_ok_iff.2 ⟨rfl, _, placements, flat, mapM_eq_ok_iff.1 located, rfl⟩

theorem hintedMembers_run_hinted : ∃ made,
    shallow.run norwegianTarget (.object hintedMembers) = .ok made ∧
    shallow.deeper.run (.single norwegian sampleTarget.owner .imported)
      (.object [("nb-NO", .object hintedMembers)]) = .ok made := by
  obtain ⟨made, imported⟩ := hintedMembers_run
  exact ⟨made, imported,
    (run_hinted_iff shallow [] (by decide) _ _ (by simp [hintedMembers]) made).1 imported⟩

end Settings

end Phrasebook
