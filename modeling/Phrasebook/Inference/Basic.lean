import Phrasebook.Inference.Example
import Phrasebook.Inference.Pattern
import Phrasebook.Inference.Warning
import Phrasebook.Message.Codec

namespace Phrasebook

structure Inferred where
  examples : Dictionary Json
  references : Dictionary (Option String)
  warnings : List Warning

structure Inferrer where
  markers : MarkerSet
  pattern : VariablePattern

structure MessageSite where
  category : String
  phrase : String
  text : String

namespace Inferred

def ofNames (names : List String) : Inferred :=
  { examples := (names.filter (· ≠ "")).foldl
      (fun examples name => examples.insert name (Example.forName name)) ∅
    references := ∅
    warnings := [] }

def warn (inferred : Inferred) (warning : Warning) : Inferred :=
  { inferred with warnings := inferred.warnings ++ [warning] }

def withVariable (inferred : Inferred) (name : String) : Inferred :=
  { inferred with examples := inferred.examples.insert name (Example.forName name) }

def withNewVariable (inferred : Inferred) (name : String) : Inferred :=
  { inferred with examples := inferred.examples.insertNew name (Example.forName name) }

def withReference (inferred : Inferred) (key : String) (argument? : Option String) : Inferred :=
  { inferred with references := inferred.references.insertNew key argument? }

end Inferred

def bareQuotes : List Char → List Char
  | '\\' :: '"' :: rest => '"' :: bareQuotes rest
  | char :: rest => char :: bareQuotes rest
  | [] => []

def argumentText (argument : String) : String :=
  String.ofList (bareQuotes (Text.trim argument.toList))

def objectOf (text : String) : Except Json.Misread (List (String × Json)) :=
  (Json.whole (Json.Shape.map Json.Shape.any Json.nestingLimit) text).map
    fun json => json.members?.getD []

def Inferred.withArgument (inferred : Inferred) (argument : String) : Inferred :=
  let text := argumentText argument
  match objectOf text with
  | .ok members => members.foldl (fun inferred entry => inferred.withNewVariable entry.1) inferred
  | .error misread =>
    inferred.warn <|
      ((Warning.aboutVariable
        "Attempted to interpret the token-arguments as json, but encountered an error").withError
          misread.message).withDetails (Json.ofMembers [("argument", .string text)])

def Token.trimmed (token : Token) : String := String.ofList (Text.trim token.text.toList)

def MessageSite.describe (site : MessageSite) (opener : Token) (index : Nat) : String :=
  s!"{opener.kind.describe} ({index}). This occurred in category {site.category} translation " ++
    s!"{site.phrase} value {site.text} at {opener.start}-{opener.stop}"

def MessageSite.blankKey (site : MessageSite) (subject : String) (segments : List Segment)
    (opener : Token) (index : Nat) : Warning :=
  (Warning.aboutVariable
    (s!"Attempted to infer {subject}, but the key was empty. " ++ site.describe opener index)
  ).withDetails (.array (segments.map Segment.encode))

def Inferred.withSegment (site : MessageSite) (segments : List Segment) (inferred : Inferred) :
    Segment × Nat → Inferred
  | (.literal _, _) => inferred
  | (.interpolation opener key _, index) =>
    if key.trimmed = "" then inferred.warn (site.blankKey "variables" segments opener index)
    else inferred.withVariable key.trimmed
  | (.nesting opener key argument?, index) =>
    let inferred :=
      (argument?.map fun argument => inferred.withArgument argument.text).getD inferred
    if key.trimmed = "" then inferred.warn (site.blankKey "references" segments opener index)
    else inferred.withReference key.trimmed (argument?.map (·.text))

def MessageSite.unparsed (site : MessageSite) (fault : MessageFault) : Warning :=
  ((Warning.aboutVariable <|
    "There was a problem parsing the translation-value. This occurred in category " ++
      s!"{site.category} translation {site.phrase}").withError fault.message).withDetails
    (Json.ofMembers [("value", .string site.text)])

namespace Inferrer

def ofSettings? (settings : MarkerSettings) : Option Inferrer :=
  (VariablePattern.ofSettings? settings).map fun pattern => ⟨settings.markerSet, pattern⟩

def infer (inferrer : Inferrer) (site : MessageSite) : Inferred :=
  let captured := Inferred.ofNames ((inferrer.pattern.captures site.text).map (·.name))
  match inferrer.markers.parse site.text with
  | .error fault => captured.warn (site.unparsed fault)
  | .ok segments => segments.zipIdx.foldl (Inferred.withSegment site segments) captured

end Inferrer

def conflict? (examples : Dictionary Json) (name : String) (latter : Json) : Option Warning :=
  match examples.get? name with
  | none => none
  | some former =>
    if former.same latter then none
    else some <|
      (Warning.aboutVariable "duplicate inferred values with different values detected").withDetails
        (Json.ofMembers [("variable", .string name), ("a", former), ("b", latter)])

/-- Variables with further ones, whose examples are taken. A variable that had a different example
gives a warning. -/
def mergeVariables (examples further : Dictionary Json) : Dictionary Json × List Warning :=
  (examples.merge (fun _ new => new) further,
    further.entries.filterMap fun entry => conflict? examples entry.1 entry.2)

end Phrasebook
