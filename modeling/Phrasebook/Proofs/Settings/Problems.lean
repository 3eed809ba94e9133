import Mathlib.Data.List.Nodup
import Phrasebook.Import.Basic
import Phrasebook.Proofs.Message.Markers
import Phrasebook.Settings.Validation

namespace Phrasebook

namespace MarkerSet

theorem textFor?_eq_some_iff {set : MarkerSet} (nodup : (set.markers.map (·.kind)).Nodup)
    {kind : TokenKind} {text : String} :
    set.textFor? kind = some text ↔ ⟨text, kind⟩ ∈ set.markers := by
  simp only [textFor?, Option.map_eq_some_iff]
  constructor
  · rintro ⟨⟨found, foundKind⟩, search, rfl⟩
    obtain rfl : foundKind = kind := by simpa using List.find?_some search
    exact List.mem_of_find?_eq_some search
  · intro member
    have present : (set.markers.find? (·.kind == kind)).isSome :=
      List.find?_isSome.2 ⟨_, member, by simp⟩
    obtain ⟨found, search⟩ := Option.isSome_iff_exists.1 present
    have sameKind : found.kind = kind := by simpa using List.find?_some search
    have same := List.inj_on_of_nodup_map nodup (List.mem_of_find?_eq_some search) member sameKind
    exact ⟨found, search, by rw [same]⟩

end MarkerSet

/-! ## Markers -/

/-- What is wrong with a marker that follows others: it is empty, or its text is already that of
another one, the first of which is its owner. -/
inductive MarkerFails (before : List (String × Marker)) (marker : Marker) :
    SettingFault → Prop where
  | empty (blank : marker.text = "") : MarkerFails before marker .emptyMarker
  | repeated {front back : List (String × Marker)} {owner : String} {other : Marker}
      (filled : marker.text ≠ "") (split : before = front ++ (owner, other) :: back)
      (same : other.text = marker.text) (first : ∀ entry ∈ front, entry.2.text ≠ marker.text) :
      MarkerFails before marker (.repeatedMarker marker.text owner)

namespace Settings

def markerFault? (before : List (String × Marker)) (marker : Marker) : Option SettingFault :=
  if marker.text = "" then some .emptyMarker
  else (before.find? (·.2.text == marker.text)).map fun entry =>
    .repeatedMarker marker.text entry.1

theorem markerProblems_cons (before : List (String × Marker)) (path : String) (marker : Marker)
    (rest : List (String × Marker)) : markerProblems before ((path, marker) :: rest) =
      (markerFault? before marker).toList.map (⟨path, ·⟩) ++
        markerProblems (before ++ [(path, marker)]) rest := by
  rw [markerProblems, markerFault?]
  split
  · rfl
  · cases before.find? (·.2.text == marker.text) <;> rfl

variable {before entries : List (String × Marker)} {marker : Marker} {fault : SettingFault}
  {problem : SettingProblem}

theorem markerFault?_eq_some_iff :
    markerFault? before marker = some fault ↔ MarkerFails before marker fault := by
  unfold markerFault?
  split
  · rename_i blank
    constructor
    · rintro ⟨⟩
      exact .empty blank
    · rintro (_ | ⟨filled, -, -, -⟩)
      · rfl
      · exact absurd blank filled
  · rename_i filled
    simp only [Option.map_eq_some_iff, List.find?_eq_some_iff_append]
    constructor
    · rintro ⟨⟨owner, other⟩, ⟨same, front, back, split, first⟩, rfl⟩
      exact .repeated filled split (by simpa using same) (by simpa using first)
    · rintro (blank | ⟨-, split, same, first⟩)
      · exact absurd blank filled
      · exact ⟨_, ⟨by simpa using same, _, _, split, by simpa using first⟩, rfl⟩

theorem markerFault?_eq_none_iff : markerFault? before marker = none ↔
    marker.text ≠ "" ∧ marker.text ∉ before.map (·.2.text) := by
  unfold markerFault?
  split
  · rename_i blank
    simp [blank]
  · rename_i filled
    simp [filled]

theorem mem_markerProblems_iff : problem ∈ markerProblems before entries ↔
    ∃ front marker back, entries = front ++ (problem.path, marker) :: back ∧
      MarkerFails (before ++ front) marker problem.fault := by
  induction entries generalizing before with
  | nil => simp [markerProblems]
  | cons entry rest ih =>
    obtain ⟨path, marker⟩ := entry
    have head : problem ∈ (markerFault? before marker).toList.map (⟨path, ·⟩) ↔
        path = problem.path ∧ MarkerFails before marker problem.fault := by
      obtain ⟨problemPath, fault⟩ := problem
      simp [← markerFault?_eq_some_iff, and_comm]
    rw [markerProblems_cons, List.mem_append, head, ih]
    constructor
    · rintro (⟨rfl, fails⟩ | ⟨front, other, back, rfl, fails⟩)
      · exact ⟨[], marker, rest, rfl, by simpa using fails⟩
      · exact ⟨(path, marker) :: front, other, back, rfl, by simpa using fails⟩
    · rintro ⟨front, other, back, split, fails⟩
      cases front with
      | nil =>
        obtain ⟨here, rfl⟩ := List.cons.inj split
        obtain ⟨rfl, rfl⟩ := Prod.mk.inj here
        exact .inl ⟨rfl, by simpa using fails⟩
      | cons first front =>
        obtain ⟨rfl, rfl⟩ := List.cons.inj split
        exact .inr ⟨front, other, back, rfl, by simpa using fails⟩

theorem markerProblems_eq_nil_iff : markerProblems before entries = [] ↔
    (∀ entry ∈ entries, entry.2.text ≠ "" ∧ entry.2.text ∉ before.map (·.2.text)) ∧
      (entries.map (·.2.text)).Nodup := by
  induction entries generalizing before with
  | nil => simp [markerProblems]
  | cons entry rest ih =>
    obtain ⟨path, marker⟩ := entry
    have apart : (∀ entry ∈ rest, entry.2.text ≠ "" ∧
        entry.2.text ∉ (before ++ [(path, marker)]).map (·.2.text)) ↔
          (∀ entry ∈ rest, entry.2.text ≠ "" ∧ entry.2.text ∉ before.map (·.2.text)) ∧
            marker.text ∉ rest.map (·.2.text) := by
      simp only [List.map_append, List.map_cons, List.map_nil, List.mem_append, List.mem_singleton,
        not_or, ← and_assoc, List.mem_map, not_exists, not_and, forall_and]
    rw [markerProblems_cons, List.append_eq_nil_iff, List.map_eq_nil_iff, Option.toList_eq_nil_iff,
      markerFault?_eq_none_iff, ih, apart, List.forall_mem_cons, List.map_cons, List.nodup_cons]
    simp only [and_assoc]

theorem paths_markerProblems :
    ((markerProblems before entries).map (·.path)).Sublist (entries.map (·.1)) := by
  induction entries generalizing before with
  | nil => exact .slnil
  | cons entry rest ih =>
    obtain ⟨path, marker⟩ := entry
    rw [markerProblems_cons, List.map_append, List.map_cons]
    cases markerFault? before marker with
    | none => exact ih.cons _
    | some fault => exact ih.cons_cons _

/-! ## Locales to export -/

def filterPath (index : Nat) : String := s!"export.localeFilter[{index}]"

theorem head?_filterPath (index : Nat) : (filterPath index).toList.head? = some 'e' := by
  have first : (toString "export.localeFilter[").toList.head? = some 'e' := by decide
  unfold filterPath
  simp only [String.toList_append, List.head?_append]
  rw [first, Option.some_or, Option.some_or]

theorem filterPath_injective : Function.Injective filterPath := by
  intro index other same
  have numbers : index.repr = other.repr :=
    (String.append_right_inj _).1 ((String.append_left_inj _).1 same)
  have digits : Nat.toDigits 10 index = Nat.toDigits 10 other := String.ofList_injective numbers
  calc index = Nat.ofDigitChars 10 (Nat.toDigits 10 index) 0 :=
        (Nat.ofDigitChars_toDigits (by decide) (by decide)).symm
    _ = Nat.ofDigitChars 10 (Nat.toDigits 10 other) 0 := by rw [digits]
    _ = other := Nat.ofDigitChars_toDigits (by decide) (by decide)

theorem filterProblems_eq (filter : List String) : filterProblems filter =
    filter.zipIdx.filterMap fun entry =>
      if entry.1 = "" then some ⟨filterPath entry.2, .emptyLocale⟩ else none := rfl

theorem mem_filterProblems_iff {filter : List String} : problem ∈ filterProblems filter ↔
    ∃ index, filter[index]? = some "" ∧ problem = ⟨filterPath index, .emptyLocale⟩ := by
  simp only [filterProblems_eq, List.mem_filterMap, Prod.exists, List.mem_zipIdx_iff_getElem?,
    Option.ite_none_right_eq_some, Option.some.injEq]
  constructor
  · rintro ⟨_, index, found, rfl, rfl⟩
    exact ⟨index, found, rfl⟩
  · rintro ⟨index, found, rfl⟩
    exact ⟨"", index, found, rfl, rfl⟩

theorem filterProblems_eq_nil_iff {filter : List String} :
    filterProblems filter = [] ↔ "" ∉ filter := by
  rw [List.eq_nil_iff_forall_not_mem, List.mem_iff_getElem?]
  constructor
  · rintro nothing ⟨index, blank⟩
    exact nothing _ (mem_filterProblems_iff.2 ⟨index, blank, rfl⟩)
  · intro filled problem member
    obtain ⟨index, blank, -⟩ := mem_filterProblems_iff.1 member
    exact filled ⟨index, blank⟩

theorem paths_filterProblems (filter : List String) :
    ((filterProblems filter).map (·.path)).Sublist
      ((List.range filter.length).map filterPath) := by
  have chosen : (filterProblems filter).map (·.path) =
      ((filter.zipIdx.filter (·.1 = "")).map (·.2)).map filterPath := by
    rw [filterProblems_eq, List.map_filterMap, List.map_map, ← List.filterMap_eq_map,
      List.filterMap_filter]
    refine List.filterMap_congr fun entry _ => ?_
    by_cases blank : entry.1 = "" <;> simp [blank]
  have indices : filter.zipIdx.map (·.2) = List.range filter.length := by
    rw [List.zipIdx_map_snd, List.range_eq_range']
  rw [chosen, ← indices]
  exact ((List.filter_sublist).map _).map _

/-! ## Settings -/

def paths (settings : Settings) : List String :=
  settings.interpolation.named.map (·.1) ++ ["contextSeparator", "maxDepth"] ++
    (List.range settings.exporting.localeFilter.length).map filterPath

inductive Fails (settings : Settings) : SettingProblem → Prop where
  | marker {before after : List (String × Marker)} {path : String} {marker : Marker}
      {fault : SettingFault}
      (split : settings.interpolation.named = before ++ (path, marker) :: after)
      (fails : MarkerFails before marker fault) : Fails settings ⟨path, fault⟩
  | separator (blank : settings.contextSeparator = "") :
      Fails settings ⟨"contextSeparator", .emptySeparator⟩
  | depth (flat : settings.maxDepth = 0) : Fails settings ⟨"maxDepth", .noDepth⟩
  | locale {index : Nat} (blank : settings.exporting.localeFilter[index]? = some "") :
      Fails settings ⟨filterPath index, .emptyLocale⟩

structure Sound (settings : Settings) : Prop where
  filled : ∀ entry ∈ settings.interpolation.named, entry.2.text ≠ ""
  different : (settings.interpolation.named.map (·.2.text)).Nodup
  separated : settings.contextSeparator ≠ ""
  nested : 1 ≤ settings.maxDepth
  located : "" ∉ settings.exporting.localeFilter

theorem mem_problems_iff (settings : Settings) :
    problem ∈ settings.problems ↔ settings.Fails problem := by
  simp only [problems, List.mem_append, mem_markerProblems_iff, mem_filterProblems_iff,
    List.nil_append, List.mem_ite_nil_right, List.mem_singleton]
  constructor
  · rintro (((⟨before, marker, after, split, fails⟩ | ⟨blank, rfl⟩) | ⟨flat, rfl⟩) |
      ⟨index, blank, rfl⟩)
    · exact .marker split fails
    · exact .separator blank
    · exact .depth flat
    · exact .locale blank
  · rintro (⟨split, fails⟩ | blank | flat | blank)
    · exact .inl (.inl (.inl ⟨_, _, _, split, fails⟩))
    · exact .inl (.inl (.inr ⟨blank, rfl⟩))
    · exact .inl (.inr ⟨flat, rfl⟩)
    · exact .inr ⟨_, blank, rfl⟩

theorem problems_eq_nil_iff (settings : Settings) : settings.problems = [] ↔ settings.Sound := by
  simp only [problems, List.append_eq_nil_iff, markerProblems_eq_nil_iff,
    filterProblems_eq_nil_iff, List.map_nil, List.not_mem_nil, not_false_eq_true, and_true,
    ite_eq_right_iff, reduceCtorEq, imp_false]
  constructor
  · rintro ⟨⟨⟨⟨filled, different⟩, separated⟩, nested⟩, located⟩
    exact ⟨filled, different, separated, Nat.pos_of_ne_zero nested, located⟩
  · rintro ⟨filled, different, separated, nested, located⟩
    exact ⟨⟨⟨⟨filled, different⟩, separated⟩, Nat.ne_of_gt nested⟩, located⟩

theorem paths_problems (settings : Settings) :
    (settings.problems.map (·.path)).Sublist settings.paths := by
  have single : ∀ (failed : Prop) [Decidable failed] (path : String) (fault : SettingFault),
      ((if failed then [⟨path, fault⟩] else [] : List SettingProblem).map (·.path)).Sublist
        [path] := by
    intro failed _ path fault
    split
    · exact .refl _
    · exact .cons _ .slnil
  have ordered : settings.paths = settings.interpolation.named.map (·.1) ++
      ["contextSeparator"] ++ ["maxDepth"] ++
        (List.range settings.exporting.localeFilter.length).map filterPath := by
    simp [paths]
  simp only [problems, ordered, List.map_append]
  exact ((paths_markerProblems.append (single _ _ _)).append (single _ _ _)).append
    (paths_filterProblems _)

theorem nodup_paths (settings : Settings) : settings.paths.Nodup := by
  have markers : (settings.interpolation.named.map (·.1)).Sublist [
      "interpolation.prefix", "interpolation.suffix", "interpolation.formatSeparator",
      "interpolation.nestingPrefix", "interpolation.nestingSuffix",
      "interpolation.nestingSeparator"] := by
    unfold MarkerSettings.named
    cases settings.interpolation.nestingSeparator? <;> simp
  refine List.Nodup.sublist ((markers.append (.refl _)).append (.refl _)) ?_
  refine List.nodup_append.2 ⟨by decide, List.nodup_range.map filterPath_injective, ?_⟩
  rintro path member _ indexed rfl
  obtain ⟨index, -, rfl⟩ := List.mem_map.1 indexed
  -- None of the other paths begins like those of the locales.
  have others : ∀ path ∈ [
      "interpolation.prefix", "interpolation.suffix", "interpolation.formatSeparator",
      "interpolation.nestingPrefix", "interpolation.nestingSuffix",
      "interpolation.nestingSeparator"] ++ ["contextSeparator", "maxDepth"],
      path.toList.head? ≠ some 'e' := by decide
  exact others _ member (head?_filterPath index)

end Settings

/-! ## What the settings are for -/

namespace MarkerSettings

def textOf? (settings : MarkerSettings) : TokenKind → Option String
  | .interpolationOpener => some settings.interpolationOpener
  | .interpolationCloser => some settings.interpolationCloser
  | .formatSeparator => some settings.formatSeparator
  | .nestingOpener => some settings.nestingOpener
  | .nestingCloser => some settings.nestingCloser
  | .nestingSeparator => settings.nestingSeparator?
  | .endOfText => none
  | .literal => none

theorem mem_named_iff {settings : MarkerSettings} {text : String} {kind : TokenKind} :
    ⟨text, kind⟩ ∈ settings.named.map (·.2) ↔ settings.textOf? kind = some text := by
  cases kind <;> simp [named, textOf?, eq_comm]

theorem nodup_kinds (settings : MarkerSettings) :
    ((settings.named.map (·.2)).map (·.kind)).Nodup := by
  unfold named
  cases settings.nestingSeparator? <;> simp

variable {settings : MarkerSettings}

theorem markerSet_perm (filled : ∀ entry ∈ settings.named, entry.2.text ≠ "")
    (different : (settings.named.map (·.2.text)).Nodup) :
    settings.markerSet.markers.Perm (settings.named.map (·.2)) := by
  have whole : MarkerSet.distinct (settings.named.map (·.2)) = settings.named.map (·.2) := by
    refine MarkerSet.distinct_eq_self ?_ (by rwa [List.map_map])
    simpa only [List.forall_mem_map] using filled
  rw [markerSet, MarkerSet.ofList, whole]
  exact List.mergeSort_perm _ _

theorem textFor?_markerSet
    (perm : settings.markerSet.markers.Perm (settings.named.map (·.2))) (kind : TokenKind) :
    settings.markerSet.textFor? kind = settings.textOf? kind := by
  have nodup := ((perm.map (·.kind)).nodup_iff).2 settings.nodup_kinds
  refine Option.ext fun text => ?_
  rw [MarkerSet.textFor?_eq_some_iff nodup, perm.mem_iff, mem_named_iff]

end MarkerSettings

theorem ImportRules.ofSettings_eq_ok {settings : Settings}
    (filled : settings.interpolation.interpolationCloser ≠ "") : ∃ pattern,
      VariablePattern.ofSettings? settings.interpolation = some pattern ∧
      ofSettings settings = .ok ⟨⟨settings.interpolation.markerSet, pattern⟩,
        settings.contextSeparator, settings.maxDepth⟩ := by
  have nonempty : settings.interpolation.interpolationCloser.toList ≠ [] := fun none =>
    filled (String.toList_inj.1 none)
  obtain ⟨stop, closerRest, closer⟩ := List.exists_cons_of_ne_nil nonempty
  obtain ⟨pattern, built⟩ : ∃ pattern,
      VariablePattern.ofSettings? settings.interpolation = some pattern := by
    rw [VariablePattern.ofSettings?, closer]
    exact ⟨_, rfl⟩
  refine ⟨pattern, built, ?_⟩
  rw [ofSettings, Inferrer.ofSettings?, built]
  rfl

namespace Settings

/-- The problems of settings are what is wrong with their members, in the order of these and one for
each path, and there is none if and only if the settings are sound. The marker set of sound settings
has just their markers, each for its kind, and rules for imports can be made. -/
theorem problems_outcome (settings : Settings) :
    (settings.problems = [] ↔ settings.Sound) ∧
    (∀ problem, problem ∈ settings.problems ↔ settings.Fails problem) ∧
    (settings.problems.map (·.path)).Sublist settings.paths ∧ settings.paths.Nodup ∧
    (settings.Sound →
      settings.interpolation.markerSet.markers.Perm (settings.interpolation.named.map (·.2)) ∧
      (∀ kind, settings.interpolation.markerSet.textFor? kind =
        settings.interpolation.textOf? kind) ∧
      ∃ pattern, ImportRules.ofSettings settings =
        .ok ⟨⟨settings.interpolation.markerSet, pattern⟩, settings.contextSeparator,
          settings.maxDepth⟩) := by
  refine ⟨problems_eq_nil_iff settings, fun _ => mem_problems_iff settings,
    paths_problems settings, nodup_paths settings, fun sound => ?_⟩
  have perm := MarkerSettings.markerSet_perm sound.filled sound.different
  have closed : settings.interpolation.interpolationCloser ≠ "" :=
    sound.filled _ (.tail _ (.head _))
  obtain ⟨pattern, -, made⟩ := ImportRules.ofSettings_eq_ok closed
  exact ⟨perm, MarkerSettings.textFor?_markerSet perm, pattern, made⟩

def barred : Settings :=
  { standard with interpolation := { MarkerSettings.standard with nestingSeparator? := some "|" } }

def muddled : Settings :=
  { standard with
    interpolation :=
      { MarkerSettings.standard with formatSeparator := "", nestingCloser := "\x7d\x7d" } }

theorem barred_problems_outcome :
    barred.Sound ∧ barred.problems = [] ∧
    barred.interpolation.markerSet.textFor? .nestingSeparator = some "|" ∧
    (∃ rules, ImportRules.ofSettings barred = .ok rules) ∧
    ⟨"interpolation.nestingSuffix", .repeatedMarker "\x7d\x7d" "interpolation.suffix"⟩ ∈
      muddled.problems := by
  have sound : barred.Sound := ⟨by decide, by decide, by decide, by decide, by decide⟩
  obtain ⟨none, -, -, -, faithful⟩ := problems_outcome barred
  obtain ⟨-, texts, pattern, made⟩ := faithful sound
  obtain ⟨-, problems, -⟩ := problems_outcome muddled
  refine ⟨sound, none.2 sound, texts .nestingSeparator, ⟨_, made⟩, (problems _).2 ?_⟩
  have split : muddled.interpolation.named =
      [_, _, _, _] ++ (_, ⟨"\x7d\x7d", .nestingCloser⟩) :: [] := rfl
  have owned : muddled.interpolation.named.take 4 = [_] ++ (_, _) :: [_, _] := rfl
  exact .marker split (.repeated (by decide) owned rfl (by decide))

end Settings

end Phrasebook
