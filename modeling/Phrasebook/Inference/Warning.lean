import Phrasebook.Json.Codec

namespace Phrasebook

inductive WarningLevel where
  | minor
  | major
deriving DecidableEq, Repr

inductive WarningKind where
  | variableProblem
  | referenceProblem
deriving DecidableEq, Repr

def WarningLevel.name : WarningLevel → String
  | minor => "minor"
  | major => "major"

def WarningKind.name : WarningKind → String
  | variableProblem => "translation-variable"
  | referenceProblem => "translation-reference"

/-- A problem with one message. The details, where there are any, may be null. -/
structure Warning where
  message : String
  error? : Option String
  details? : Option Json
  level : WarningLevel
  kind : WarningKind

namespace Warning

def new (message : String) (kind : WarningKind) (level : WarningLevel) : Warning :=
  ⟨message, none, none, level, kind⟩

def aboutVariable (message : String) : Warning := new message .variableProblem .minor

def aboutReference (message : String) : Warning := new message .referenceProblem .minor

def withError (warning : Warning) (message : String) : Warning :=
  { warning with error? := some message }

def withDetails (warning : Warning) (details : Json) : Warning :=
  { warning with details? := some details }

def encode (warning : Warning) : Json :=
  Json.ofMembers <|
    Json.optionalMember "error" (warning.error?.map .string) ++
    Json.optionalMember "details" warning.details? ++ [
      ("message", .string warning.message), ("level", .string warning.level.name),
      ("kind", .string warning.kind.name)]

end Warning

end Phrasebook
