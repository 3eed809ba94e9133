import Phrasebook.Settings.Basic

namespace Phrasebook

inductive SettingFault where
  | emptyMarker
  | repeatedMarker (text owner : String)
  | emptySeparator
  | noDepth
  | emptyLocale
deriving DecidableEq, Repr

structure SettingProblem where
  path : String
  fault : SettingFault
deriving DecidableEq, Repr

def SettingFault.message : SettingFault → String
  | emptyMarker =>
    "The marker cannot be empty. Please specify a marker, for example: \"\x7b\x7b\""
  | repeatedMarker text owner => s!"The marker '{text}' is already used by '{owner}'"
  | emptySeparator =>
    "The separator cannot be empty. Please specify a separator, for example: \"_\""
  | noDepth => "The depth must be at least 1"
  | emptyLocale => "The locale cannot be empty. Please specify a locale, for example: \"en\""

def SettingProblem.message (problem : SettingProblem) : String :=
  s!"Configuration error in '{problem.path}': {problem.fault.message}"

def SettingProblem.report (problems : List SettingProblem) : String :=
  let lines := problems.zipIdx.map fun (problem, index) =>
    s!"  {index + 1}. {problem.path} - {problem.fault.message}"
  "Configuration validation failed:\n" ++ "\n".intercalate lines

namespace Settings

def markerProblems (before : List (String × Marker)) :
    List (String × Marker) → List SettingProblem
  | [] => []
  | (path, marker) :: rest =>
    let problem :=
      if marker.text = "" then [⟨path, .emptyMarker⟩]
      else match before.find? (·.2.text == marker.text) with
        | some (owner, _) => [⟨path, .repeatedMarker marker.text owner⟩]
        | none => []
    problem ++ markerProblems (before ++ [(path, marker)]) rest

def filterProblems (filter : List String) : List SettingProblem :=
  filter.zipIdx.filterMap fun (locale, index) =>
    if locale = "" then some ⟨s!"export.localeFilter[{index}]", .emptyLocale⟩ else none

def problems (settings : Settings) : List SettingProblem :=
  markerProblems [] settings.interpolation.named ++
    (if settings.contextSeparator = "" then [⟨"contextSeparator", .emptySeparator⟩] else []) ++
    (if settings.maxDepth = 0 then [⟨"maxDepth", .noDepth⟩] else []) ++
    filterProblems settings.exporting.localeFilter

end Settings

end Phrasebook
