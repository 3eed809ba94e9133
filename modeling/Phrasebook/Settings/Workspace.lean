import Phrasebook.Export.Basic
import Phrasebook.Settings.Validation

namespace Phrasebook

inductive FileFault where
  | notFound
  | denied
  | notDirectory
  | isDirectory
  | nameTooLong
  | notUtf8
  | other (message : String)
deriving DecidableEq, Repr

def FileFault.message : FileFault → String
  | notFound => "No such file or directory (os error 2)"
  | denied => "Permission denied (os error 13)"
  | notDirectory => "Not a directory (os error 20)"
  | isDirectory => "Is a directory (os error 21)"
  | nameTooLong => "File name too long (os error 36)"
  | notUtf8 => "stream did not contain valid UTF-8"
  | other message => message

abbrev FileText := Except FileFault String

def FileText.ofBytes (bytes : ByteArray) : FileText :=
  match String.fromUTF8? bytes with
  | some text => .ok text
  | none => .error .notUtf8

inductive WorkspaceFault where
  | unsound (problems : List SettingProblem)
  | unreadable (fault : FileFault)
  | malformed (misread : Json.Misread)
  | meaningless
deriving DecidableEq

def WorkspaceFault.message : WorkspaceFault → String
  | unsound problems => SettingProblem.report problems
  | unreadable fault => s!"Failed to load configuration file: {fault.message}"
  | malformed misread => s!"Failed to parse configuration: {misread.message}"
  | meaningless => "Failed to parse configuration"

structure Workspace where
  settings : Settings
  source? : Option String
deriving DecidableEq, Repr

namespace Workspace

def fileName : String := ".i18n-interchange.json"

def standard : Workspace := ⟨.standard, none⟩

def ofFile (file : FileText) : Except WorkspaceFault Workspace := do
  let text ← file.mapError .unreadable
  let settings? ← (Settings.codec.read text).mapError .malformed
  match settings? with
  | none => .error .meaningless
  | some settings =>
    if settings.problems.isEmpty then .ok ⟨settings, some fileName⟩
    else .error (.unsound settings.problems)

def load (file? : Option FileText) : Except WorkspaceFault Workspace :=
  match file? with
  | none => .ok standard
  | some file => ofFile file

/-- The options of exports from the workspace, which join contexts as imports split them. -/
def exportOptions (workspace : Workspace) : ExportOptions :=
  { ExportOptions.ofSettings workspace.settings.exporting with
    contextSeparator := workspace.settings.contextSeparator }

end Workspace

end Phrasebook
