import Phrasebook.CommandLine

namespace Phrasebook

/-- The system's number of an error, which may be given negated. -/
def errorNumber (code : UInt32) : UInt32 := min code (0 - code)

def FileFault.ofError : IO.Error → FileFault
  | .noFileOrDirectory .. => .notFound
  | .permissionDenied .. => .denied
  | .inappropriateType _ code _ => if errorNumber code == 21 then .isDirectory else .notDirectory
  | .invalidArgument _ code details =>
    if errorNumber code == 36 then .nameTooLong else .other details
  | error => .other (toString error)

def readText (path : String) : IO FileText := do
  try
    return FileText.ofBytes (← IO.FS.readBinFile path)
  catch error =>
    return .error (FileFault.ofError error)

def readSettings : IO (Option FileText) := do
  match ← readText Workspace.fileName with
  | .error .notFound => return none
  | text => return some text

end Phrasebook

open Phrasebook

def main (arguments : List String) : IO UInt32 := do
  let settings? ← readSettings
  let document : FileText ← match arguments with
    | [] => pure (.error .notFound)
    | path :: _ => readText path
  match CommandLine.run arguments settings? fun _ => document with
  | .ok output =>
    IO.print output
    return 0
  | .error fault =>
    IO.eprintln fault.message
    return 1
