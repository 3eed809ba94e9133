import Phrasebook.Catalog.Store
import Phrasebook.Import.Basic
import Phrasebook.Settings.Workspace

namespace Phrasebook

inductive RunFault where
  | usage
  | workspace (fault : WorkspaceFault)
  | unknownHint (name : String)
  | file (fault : FileFault)
  | json (misread : Json.Misread)
  | importing (fault : ImportFault)
  | exporting (fault : OutlineFault)
deriving DecidableEq

def RunFault.message : RunFault → String
  | usage => "Usage: i18n-interchange <document.json> [locale-hint]"
  | workspace fault => fault.message
  | unknownHint name => s!"Unknown locale hint '{name}'"
  | file fault => s!"I/O failed: {fault.message}"
  | json misread => s!"JSON failed: {misread.message}"
  | importing fault => fault.message
  | exporting fault => fault.message

namespace CommandLine

def hintOf (locales : List Locale) : List String → Except RunFault (Option Locale)
  | [] => .ok none
  | name :: _ =>
    match Locale.resolve? locales name with
    | some locale => .ok (some locale)
    | none => .error (.unknownHint name)

def convert (workspace : Workspace) (locales : List Locale) (hint? : Option Locale)
    (owner : Project) (document : Json) : Except RunFault Json := do
  let rules ← (ImportRules.ofSettings workspace.settings).mapError .importing
  let target : ImportTarget := ⟨locales, hint?, owner, .imported⟩
  let made ← (rules.run target document).mapError .importing
  let (_, store) := ((Store.new owner).withLocales locales).apply made.categories
  let overview := store.overview workspace.settings.exporting.localeFilter
  let outline ← (overview.export workspace.exportOptions).mapError .exporting
  outline.document.mapError .exporting

/-- The output for the arguments of a run, given the settings file of the workspace, if it has one,
and the files that can be read. -/
def run (arguments : List String) (settings? : Option FileText) (read : String → FileText) :
    Except RunFault String :=
  match arguments with
  | [] => .error .usage
  | path :: others => do
    let workspace ← (Workspace.load settings?).mapError .workspace
    let hint? ← hintOf Locale.starters others
    let text ← (read path).mapError .file
    let document ← (Json.parse text).mapError .json
    let owner : Project := ⟨"local", path, "cli", "local"⟩
    let exported ← convert workspace Locale.starters hint? owner document
    .ok (exported.pretty ++ "\n")

end CommandLine

end Phrasebook
