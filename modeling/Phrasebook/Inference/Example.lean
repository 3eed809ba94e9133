import Phrasebook.Json.Basic
import Phrasebook.Text.Case

namespace Phrasebook.Example

def number (value : Int) : Json := .number (.integer value)

def table : List (String × Json) := [
  ("count", number 42),
  ("total", number 42),
  ("limit", number 1000),
  ("maxlimit", number 5000),
  ("value", number 83),
  ("year", .string "2006"),
  ("color", .string "blue"),
  ("colour", .string "green"),
  ("error", .string "Simulated error"),
  ("errormessage", .string "Simulated error"),
  ("errormsg", .string "Simulated error"),
  ("regionname", .string "Gigantis"),
  ("region", .string "Gigantis"),
  ("country", .string "Japan"),
  ("countryname", .string "Japan"),
  ("companyname", .string "Wily"),
  ("name", .string "Douglas Dagurasu"),
  ("firstname", .string "Axl"),
  ("lastname", .string "Akuseru"),
  ("month", .string "August"),
  ("price", .string "5000"),
  ("email", .string "roll@example.com"),
  ("date", .string "1987-12-17T06:00:00-09:00"),
  ("expires", .string "1995-03-24T06:00:00-09:00"),
  ("days", number 6)]

def unknown : Json := .string "???"

/-- The entry with the longer name, and the later one of two with equally long names. -/
def longer (entry other : String × Json) : String × Json :=
  if entry.1.toList.length ≤ other.1.toList.length then other else entry

def longestEnding? (name : List Char) (entries : List (String × Json)) : Option (String × Json) :=
  (entries.filter fun entry => entry.1.toList.isSuffixOf name).foldl
    (fun best? entry => some (best?.elim entry (longer · entry))) none

def forName (name : String) : Json :=
  let lowered := Text.lower name.toList
  match table.find? fun entry => entry.1.toList == lowered with
  | some entry => entry.2
  | none => ((longestEnding? lowered table).map (·.2)).getD unknown

end Phrasebook.Example
