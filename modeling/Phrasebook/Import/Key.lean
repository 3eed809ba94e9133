namespace Phrasebook.Key

/-- What is left behind the separators at the start of a text, of which the first `skip`
characters belong to a separator. -/
def behindRepeats (separator : List Char) : (skip : Nat) → List Char → List Char
  | _, [] => []
  | skip + 1, _ :: rest => behindRepeats separator skip rest
  | 0, char :: rest =>
    if separator.isPrefixOf (char :: rest) then behindRepeats separator (separator.length - 1) rest
    else char :: rest
termination_by structural _ text => text

def splitLast? (separator : List Char) : List Char → Option (List Char × List Char)
  | [] => none
  | char :: rest =>
    match splitLast? separator rest with
    | some (before, behind) => some (char :: before, behind)
    | none =>
      if separator.isPrefixOf (char :: rest) then
        some ([], (char :: rest).drop separator.length)
      else none

def splitContext (candidate separator : String) : String × Option String :=
  if separator = "" then (candidate, none)
  else
    let text := candidate.toList
    let rest := behindRepeats separator.toList 0 text
    match splitLast? separator.toList rest with
    | none => (candidate, none)
    | some (key, context) =>
      if key.isEmpty || context.isEmpty then (candidate, none)
      else
        let leading := text.take (text.length - rest.length)
        (String.ofList (leading ++ key), some (String.ofList context))

def joinContext (key context separator : String) : String := key ++ separator ++ context

end Phrasebook.Key
