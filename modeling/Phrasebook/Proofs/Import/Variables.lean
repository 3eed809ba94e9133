import Mathlib.Data.List.Perm.Basic
import Phrasebook.Proofs.Import.Slots

namespace Phrasebook

namespace Import

variable {rules : ImportRules} {target : ImportTarget}

theorem warnings_add {made : Import} {placement : Placement}
    (suitable : Example.Suitable (made.examplesAt placement.categoryKey placement.phraseKey)) :
    (add rules target made placement).warnings =
      made.warnings ++ (rules.inferrer.infer placement.site).warnings := by
  have stepped : (add rules target made placement).warnings =
      made.warnings ++ (rules.inferrer.infer placement.site).warnings ++
        (mergeVariables (made.examplesAt placement.categoryKey placement.phraseKey)
          (rules.inferrer.infer placement.site).examples).2 := rfl
  rw [stepped, suitable.no_conflict (rules.inferrer.suitable_infer placement.site),
    List.append_nil]

theorem warnings_foldl_add (placements : List Placement) :
    (placements.foldl (add rules target) empty).warnings =
      placements.flatMap fun placement => (rules.inferrer.infer placement.site).warnings := by
  induction placements using List.reverseRecOn with
  | nil => rfl
  | append_singleton placements placement ih =>
    have suitable := (records_foldl_add rules target placements).suitable
    rw [List.foldl_append, List.foldl_cons, List.foldl_nil, warnings_add (suitable _ _), ih]
    simp

theorem map_examples_eq_of_perm {placements others : List Placement}
    (perm : placements.Perm others) (categoryKey phraseKey : String) :
    ((placements.foldl (add rules target) empty).phraseAt? categoryKey phraseKey).map
        Phrase.examples =
      ((others.foldl (add rules target) empty).phraseAt? categoryKey phraseKey).map
        Phrase.examples := by
  have records := records_foldl_add rules target placements
  have otherRecords := records_foldl_add rules target others
  refine Dictionary.eq_of_isSome_iff ?_ ?_
  · simp only [Option.isSome_map, records.phrase_iff, otherRecords.phrase_iff, perm.mem_iff]
  · intro examples examples' found found'
    obtain ⟨phrase, present, rfl⟩ := Option.map_eq_some_iff.1 found
    obtain ⟨phrase', present', rfl⟩ := Option.map_eq_some_iff.1 found'
    rw [← examplesAt_of_phraseAt? present, ← examplesAt_of_phraseAt? present']
    exact records.examplesAt_eq otherRecords (fun _ => perm.mem_iff) categoryKey phraseKey

end Import

namespace ImportRules

def runPaths (rules : ImportRules) (target : ImportTarget) (paths : List LeafPath) :
    Except ImportFault Import := do
  let placements ← paths.mapM (target.place rules.contextSeparator)
  .ok (placements.foldl (Import.add rules target) Import.empty)

variable {rules : ImportRules} {target : ImportTarget} {made : Import}

theorem runPaths_eq_ok_iff {paths : List LeafPath} : rules.runPaths target paths = .ok made ↔
    ∃ placements, List.Forall₂ (fun path placement =>
      target.place rules.contextSeparator path = .ok placement) paths placements ∧
      made = placements.foldl (Import.add rules target) Import.empty := by
  unfold runPaths
  simp only [← mapM_eq_ok_iff]
  cases placed : paths.mapM (target.place rules.contextSeparator) <;>
    simp [bind, Except.bind, eq_comm]

/-- In an import every variable has the example for its name, no warning tells of a conflict, and
if the leaves were worked through in another order, the same phrases would have the same
variables. -/
theorem run_variables {document : Json} (imported : rules.run target document = .ok made) :
    (∀ categoryKey phraseKey phrase, made.phraseAt? categoryKey phraseKey = some phrase →
      Example.Suitable phrase.examples) ∧
    (∀ warning ∈ made.warnings, ¬warning.IsConflict) ∧
    ∃ leaves, document.leaves rules.maxDepth = .ok leaves ∧
      rules.runPaths target (target.paths leaves) = .ok made ∧
      ∀ order : List LeafPath, order.Perm (target.paths leaves) →
        ∃ other, rules.runPaths target order = .ok other ∧
          ∀ categoryKey phraseKey, (other.phraseAt? categoryKey phraseKey).map Phrase.examples =
            (made.phraseAt? categoryKey phraseKey).map Phrase.examples := by
  obtain ⟨-, leaves, placements, flat, placed, rfl⟩ := run_eq_ok_iff.1 imported
  refine ⟨?_, ?_, leaves, flat, runPaths_eq_ok_iff.2 ⟨placements, placed, rfl⟩, ?_⟩
  · intro categoryKey phraseKey phrase found
    rw [← Import.examplesAt_of_phraseAt? found]
    exact (Import.records_foldl_add rules target placements).suitable categoryKey phraseKey
  · intro warning member
    rw [Import.warnings_foldl_add] at member
    obtain ⟨placement, -, inside⟩ := List.mem_flatMap.1 member
    exact rules.inferrer.not_isConflict_of_mem_infer placement.site warning inside
  · intro order reordered
    obtain ⟨others, located, perm⟩ := List.perm_comp_forall₂ reordered placed
    exact ⟨_, runPaths_eq_ok_iff.2 ⟨others, located, rfl⟩, Import.map_examples_eq_of_perm perm⟩

def greetingDocument : Json := .object [
  ("en", .object [
    ("greet", .string "Hi \x7b\x7b userName \x7d\x7d"),
    ("greet_formal", .string "$t(hello, \x7b\"userName\": 1\x7d)")]),
  ("nb", .object [("greet", .string "Hei \x7b\x7buserName\x7d\x7d $t(")])]

theorem greetingDocument_run : ∃ made, standard.run sampleTarget greetingDocument = .ok made ∧
    (made.phraseAt? Category.rootKey "greet").isSome := by
  have resolved : ∀ path ∈ [["en", "greet", "Hi \x7b\x7b userName \x7d\x7d"],
      ["en", "greet_formal", "$t(hello, \x7b\"userName\": 1\x7d)"],
      ["nb", "greet", "Hei \x7b\x7buserName\x7d\x7d $t("]], ∃ first keys text,
        path = first :: (keys ++ [text]) ∧ (sampleTarget.localeFor? first).isSome := by
    simp only [List.forall_mem_cons]
    exact ⟨⟨"en", ["greet"], _, rfl, rfl⟩, ⟨"en", ["greet_formal"], _, rfl, rfl⟩,
      ⟨"nb", ["greet"], _, rfl, rfl⟩, by simp⟩
  obtain ⟨made, imported⟩ : ∃ made, standard.run sampleTarget greetingDocument = .ok made :=
    exists_run rfl rfl rfl resolved
  obtain ⟨-, leaves, placements, flat, placed, rfl⟩ := run_eq_ok_iff.1 imported
  obtain rfl := Except.ok.inj flat
  obtain ⟨placement, member, here⟩ := exists_result_of_forall₂ placed
    ((ImportTarget.mem_paths_iff rfl).2 (.tail _ (.tail _ (.head _))))
  obtain rfl := Except.ok.inj here
  exact ⟨_, imported, ((Import.records_foldl_add _ _ _).phrase_iff _ _).2 ⟨_, member, rfl, rfl⟩⟩

theorem greetingDocument_run_variables : ∃ made phrase,
    standard.run sampleTarget greetingDocument = .ok made ∧
    made.phraseAt? Category.rootKey "greet" = some phrase ∧ Example.Suitable phrase.examples ∧
    ∀ warning ∈ made.warnings, ¬warning.IsConflict := by
  obtain ⟨made, imported, known⟩ := greetingDocument_run
  obtain ⟨phrase, found⟩ := Option.isSome_iff_exists.1 known
  obtain ⟨suitable, harmless, -⟩ := run_variables imported
  exact ⟨made, phrase, imported, found, suitable _ _ phrase found, harmless⟩

end ImportRules

end Phrasebook
