import Phrasebook.Proofs.Document.Alike
import Phrasebook.Proofs.Import.Slots

namespace Phrasebook

/-! ## Checks -/

namespace ImportTarget

def Names (target : ImportTarget) (path : List String) : Prop :=
  ∃ first, path.head? = some first ∧ (Locale.resolve? target.locales first).isSome

def preconditions (target : ImportTarget) (document : Json) : List (Check ImportFault) := [
  .when (document = .null ∨ document = .object []) .emptyDocument,
  .when (document ≠ .null ∧ document.members? = none) (.notAnObject document.typeName),
  .when (target.owner.id = "") (.missingOwner "projectId"),
  .when (target.owner.createdBy = "") (.missingOwner "createdBy"),
  .when (target.owner.organizationId = "") (.missingOwner "organizationId"),
  .when (target.locales = [] ∧ target.hint? = none) .noLocales]

def unresolved (target : ImportTarget) (paths : List LeafPath) : Check ImportFault := fun fault =>
  target.hint? = none ∧ ∃ front first rest back, paths = front ++ (first :: rest) :: back ∧
    (∀ path ∈ front, target.Names path) ∧ Locale.resolve? target.locales first = none ∧
    fault = .unresolvedLocale first (Dotted.join (first :: rest))

end ImportTarget

def ImportRules.checks (rules : ImportRules) (target : ImportTarget) (document : Json) :
    List (Check ImportFault) :=
  target.preconditions document ++ [
    (document.FirstRefusal rules.maxDepth []).map .leaves,
    fun fault => ∃ leaves, document.leaves rules.maxDepth = .ok leaves ∧
      target.unresolved (LeafPath.sort leaves) fault]

structure ImportRules.Accepts (rules : ImportRules) (target : ImportTarget) (document : Json) :
    Prop where
  filled : ∃ members, document = .object members ∧ members ≠ []
  owned : target.Owned
  localized : target.locales ≠ [] ∨ target.hint?.isSome
  admitted : document.Admitted rules.maxDepth []
  named : target.hint? = none →
    ∀ path text, document.textAt? path = some text → target.Names path

/-! ## Steps -/

namespace ImportTarget

variable {target : ImportTarget} {separator : String}

theorem checked_check (target : ImportTarget) (document : Json) :
    Checked (target.preconditions document) (target.check document) := by
  cases document with
  | null => exact .stop (.inl rfl) _
  | object members =>
    cases members with
    | nil => exact .stop (.inr rfl) _
    | cons member rest =>
      have localized : (target.locales.isEmpty && target.hint?.isNone) = true ↔
          target.locales = [] ∧ target.hint? = none := by
        simp
      unfold check
      simp only [localized]
      refine .pass (by simp) _ (.pass (by simp [Json.members?]) _ ?_)
      exact .ifThenElse _ (.ifThenElse _ (.ifThenElse _ (.ifThenElse _ (.nil ()))))
  | _ => exact .pass (by simp) _ (.stop ⟨by simp, rfl⟩ _)

theorem place_eq_error_iff {first : String} {keys : List String} {text : String}
    {fault : ImportFault} : target.place separator (first :: (keys ++ [text])) = .error fault ↔
      target.hint? = none ∧ Locale.resolve? target.locales first = none ∧
        fault = .unresolvedLocale first (Dotted.join (first :: (keys ++ [text]))) := by
  rw [place_append, localeOf]
  cases target.hint? with
  | some hint => simp [Except.map]
  | none => cases Locale.resolve? target.locales first <;> simp [Except.map, eq_comm]

theorem exists_place_iff {first : String} {keys : List String} {text : String} :
    (∃ placement, target.place separator (first :: (keys ++ [text])) = .ok placement) ↔
      (target.hint? = none → (Locale.resolve? target.locales first).isSome) := by
  rw [place_append, localeOf]
  cases target.hint? with
  | some hint => simp [Except.map]
  | none => cases Locale.resolve? target.locales first <;> simp [Except.map]

section Places

variable {limit : Nat} {members : List (String × Json)} {leaves : List LeafPath}

theorem exists_first_of_mem_paths (flat : (Json.object members).leaves limit = .ok leaves)
    {path : LeafPath} (inside : path ∈ target.paths leaves) :
    ∃ first keys text, path = first :: (keys ++ [text]) := by
  rw [paths, LeafPath.sort, List.mem_mergeSort] at inside
  cases given : target.hint? with
  | none =>
    rw [given] at inside
    exact Json.exists_first_of_mem_leaves flat inside
  | some hint =>
    rw [given] at inside
    obtain ⟨leaf, among, rfl⟩ := List.mem_map.1 inside
    obtain ⟨first, keys, text, rfl⟩ := Json.exists_first_of_mem_leaves flat among
    exact ⟨hint.id, first :: keys, text, rfl⟩

theorem names_cons_iff {first : String} {rest : List String} :
    target.Names (first :: rest) ↔ (Locale.resolve? target.locales first).isSome := by
  simp [Names]

theorem exists_place_iff_names (flat : (Json.object members).leaves limit = .ok leaves)
    {path : LeafPath} (inside : path ∈ target.paths leaves) :
    (∃ placement, target.place separator path = .ok placement) ↔
      (target.hint? = none → target.Names path) := by
  obtain ⟨first, keys, text, rfl⟩ := exists_first_of_mem_paths flat inside
  rw [exists_place_iff, names_cons_iff]

theorem paths_of_unhinted (unhinted : target.hint? = none) :
    target.paths leaves = LeafPath.sort leaves := by
  rw [paths, unhinted]

theorem checked_places (flat : (Json.object members).leaves limit = .ok leaves) :
    Checked [target.unresolved (LeafPath.sort leaves)]
      ((target.paths leaves).mapM (target.place separator)) := by
  refine checked_singleton_iff.2 fun fault => ?_
  rw [mapM_eq_error_iff]
  constructor
  · rintro ⟨front, path, back, split, before, fails⟩
    have inside : ∀ other ∈ front ++ path :: back, other ∈ target.paths leaves :=
      fun other member => split ▸ member
    obtain ⟨first, keys, text, rfl⟩ := exists_first_of_mem_paths flat (inside path (by simp))
    obtain ⟨unhinted, unnamed, rfl⟩ := place_eq_error_iff.1 fails
    rw [paths_of_unhinted unhinted] at split
    refine ⟨unhinted, front, first, keys ++ [text], back, split, fun other member => ?_, unnamed,
      rfl⟩
    have placed := before other member
    rw [exists_place_iff_names flat (inside other (List.mem_append_left _ member))] at placed
    exact placed unhinted
  · rintro ⟨unhinted, front, first, rest, back, split, named, unnamed, rfl⟩
    rw [← paths_of_unhinted unhinted] at split
    have inside : ∀ other ∈ front ++ (first :: rest) :: back, other ∈ target.paths leaves :=
      fun other member => split ▸ member
    obtain ⟨_, keys, text, same⟩ :=
      exists_first_of_mem_paths flat (inside (first :: rest) (by simp))
    obtain ⟨rfl, rfl⟩ := List.cons.inj same
    refine ⟨front, _, back, split, fun other member => ?_, ?_⟩
    · rw [exists_place_iff_names flat (inside other (List.mem_append_left _ member))]
      exact fun _ => named other member
    · exact place_eq_error_iff.2 ⟨unhinted, unnamed, rfl⟩

end Places

end ImportTarget

/-! ## Imports -/

namespace ImportRules

variable {rules : ImportRules} {target : ImportTarget} {document : Json}

theorem checked_run (ordered : document.Ordered) :
    Checked (rules.checks target document) (rules.run target document) := by
  unfold run checks
  refine (target.checked_check document).bind fun _ checked => ?_
  obtain ⟨⟨members, rfl, -⟩, -⟩ := ImportTarget.check_eq_ok_iff.1 checked
  have flattened := (ordered.checked_leaves rules.maxDepth).mapError ImportFault.leaves
  refine flattened.bind fun leaves flat => ?_
  have flat : (Json.object members).leaves rules.maxDepth = .ok leaves := by
    cases found : (Json.object members).leaves rules.maxDepth <;>
      simp [found, Except.mapError] at flat ⊢
    exact flat
  have same : (fun fault => ∃ leaves, (Json.object members).leaves rules.maxDepth = .ok leaves ∧
      target.unresolved (LeafPath.sort leaves) fault) =
        target.unresolved (LeafPath.sort leaves) := by
    funext fault
    simp [flat]
  rw [same, ← List.append_nil [_]]
  exact (ImportTarget.checked_places flat).bind fun placements _ => .nil _

theorem exists_run_iff (ordered : document.Ordered) :
    (∃ made, rules.run target document = .ok made) ↔ rules.Accepts target document := by
  constructor
  · rintro ⟨made, imported⟩
    obtain ⟨checked, leaves, placements, flat, placed, -⟩ := run_eq_ok_iff.1 imported
    obtain ⟨filled, owned, localized⟩ := ImportTarget.check_eq_ok_iff.1 checked
    refine ⟨filled, owned, localized, ordered.exists_leaves_iff.1 ⟨leaves, flat⟩, ?_⟩
    intro unhinted path text located
    obtain ⟨members, rfl, -⟩ := filled
    have inside : path ++ [text] ∈ leaves :=
      (ordered.mem_leaves_iff flat).2 ⟨path, text, rfl, located⟩
    have among := (ImportTarget.mem_paths_iff unhinted).2 inside
    obtain ⟨placement, -, placed⟩ := exists_result_of_forall₂ placed among
    have named := (ImportTarget.exists_place_iff_names flat among).1 ⟨placement, placed⟩ unhinted
    cases path with
    | nil => cases located
    | cons first rest => exact named
  · rintro ⟨⟨members, rfl, filled⟩, owned, localized, admitted, named⟩
    obtain ⟨leaves, flat⟩ := ordered.exists_leaves_iff.2 admitted
    have placed : ∀ path ∈ target.paths leaves, ∃ placement,
        target.place rules.contextSeparator path = .ok placement := by
      intro path among
      refine (ImportTarget.exists_place_iff_names flat among).2 fun unhinted => ?_
      have inside := (ImportTarget.mem_paths_iff unhinted).1 among
      obtain ⟨keys, text, rfl, located⟩ := (ordered.mem_leaves_iff flat).1 inside
      cases keys with
      | nil => cases located
      | cons first rest => exact named unhinted (first :: rest) text located
    obtain ⟨placements, located⟩ := exists_mapM_eq_ok placed
    have checked := ImportTarget.check_eq_ok_iff.2 ⟨⟨members, rfl, filled⟩, owned, localized⟩
    exact ⟨_, run_eq_ok_iff.2 ⟨checked, leaves, placements, flat, mapM_eq_ok_iff.1 located, rfl⟩⟩

theorem Accepts.of_alike {other : Json} (accepts : rules.Accepts target document)
    (alike : document.Alike other) : rules.Accepts target other where
  filled := alike.exists_members accepts.filled
  owned := accepts.owned
  localized := accepts.localized
  admitted := alike.admitted accepts.admitted
  named unhinted path text located := by
    obtain ⟨former, found⟩ := alike.symm.exists_textAt? located
    exact accepts.named unhinted path former found

/-- An import succeeds if its target and its document are accepted, and otherwise fails with what
its first check finds that finds anything. No path is incomplete, and documents that differ in the
texts of their leaves are imported both or not at all. -/
theorem run_outcome (ordered : document.Ordered) :
    ((∃ made, rules.run target document = .ok made) ↔ rules.Accepts target document) ∧
    (∀ fault, rules.run target document = .error fault ↔
      FirstOf (rules.checks target document) fault) ∧
    (∀ path, rules.run target document ≠ .error (.incompletePath path)) ∧
    ∀ other : Json, other.Ordered → document.Alike other →
      ((∃ made, rules.run target other = .ok made) ↔
        ∃ made, rules.run target document = .ok made) := by
  refine ⟨exists_run_iff ordered, checked_run ordered, fun path incomplete => ?_, ?_⟩
  · have found := (checked_run ordered _).1 incomplete
    simp [checks, ImportTarget.preconditions, ImportTarget.unresolved, FirstOf, Check.when,
      Check.map] at found
  · intro other otherOrdered alike
    rw [exists_run_iff ordered, exists_run_iff otherOrdered]
    exact ⟨fun accepts => accepts.of_alike alike.symm, fun accepts => accepts.of_alike alike⟩

def strayDocument : Json := .object [
  ("en", .object [("menu", .object [("open", .string "Open")])]),
  ("xx", .object [("title", .string "Hi")]), ("yy", .string "z")]

def restyledDocument : Json := .object [
  ("en", .object [("menu", .object [("open", .string "")])]),
  ("xx", .object [("title", .number (.integer 7))]), ("yy", .string "zz")]

theorem strayDocument_run :
    standard.run sampleTarget strayDocument = .error (.unresolvedLocale "yy" "yy.z") := by
  have flat : strayDocument.leaves standard.maxDepth =
      .ok [["en", "menu", "open", "Open"], ["xx", "title", "Hi"], ["yy", "z"]] := rfl
  have sorted : sampleTarget.paths
      [["en", "menu", "open", "Open"], ["xx", "title", "Hi"], ["yy", "z"]] =
        [["yy", "z"], ["xx", "title", "Hi"], ["en", "menu", "open", "Open"]] := by
    simp [ImportTarget.paths, sampleTarget, LeafPath.sort, List.mergeSort, LeafPath.precedes]
  have checked : sampleTarget.check strayDocument = .ok () := rfl
  rw [run, checked, flat]
  simp only [Except.mapError, bind, Except.bind, sorted]
  rfl

theorem strayDocument_ordered : strayDocument.Ordered ∧ restyledDocument.Ordered := by decide

theorem strayDocument_run_outcome :
    FirstOf (standard.checks sampleTarget strayDocument) (.unresolvedLocale "yy" "yy.z") ∧
    ¬standard.Accepts sampleTarget strayDocument ∧
    ¬∃ made, standard.run sampleTarget restyledDocument = .ok made := by
  obtain ⟨ordered, otherOrdered⟩ := strayDocument_ordered
  obtain ⟨accepts, fails, -, alike⟩ := @run_outcome standard sampleTarget _ ordered
  have stuck : ¬∃ made, standard.run sampleTarget strayDocument = .ok made := by
    rintro ⟨made, imported⟩
    cases strayDocument_run.symm.trans imported
  refine ⟨(fails _).1 strayDocument_run, fun accepted => stuck (accepts.2 accepted), ?_⟩
  have restyled : strayDocument.Alike restyledDocument := by
    refine .cons "en" (.cons "menu" (.cons "open" ?_ Json.alike_nil) Json.alike_nil)
      (.cons "xx" (.cons "title" ?_ Json.alike_nil) (.cons "yy" ?_ Json.alike_nil)) <;>
    exact Json.alike_of_innerType?_eq rfl rfl rfl
  rwa [alike restyledDocument otherOrdered restyled]

end ImportRules

end Phrasebook
