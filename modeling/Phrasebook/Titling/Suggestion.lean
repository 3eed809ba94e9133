import Phrasebook.Text.Bytes
import Phrasebook.Text.Case

namespace Phrasebook.Suggestion

/-- The next row of the table of distances: `left` is the entry before, `diagonal` and `above` run
through the former row. -/
def rowFrom (char : Char) : (left diagonal : Nat) → (above : List Nat) → List Char → List Nat
  | left, diagonal, above :: row, other :: rest =>
    let cost := if char = other then 0 else 1
    let entry := min (min (diagonal + cost) (above + 1)) (left + 1)
    entry :: rowFrom char entry above row rest
  | _, _, _, _ => []

def nextRow (target : List Char) (row : List Nat) (char : Char) : List Nat :=
  match row with
  | [] => []
  | diagonal :: above => (diagonal + 1) :: rowFrom char (diagonal + 1) diagonal above target

def distance (text target : List Char) : Nat :=
  (text.foldl (nextRow target) (List.range (target.length + 1))).getLast?.getD 0

def distanceLimit : Nat := 3

def countLimit : Nat := 5

structure Candidate where
  distance : Nat
  key : String
deriving DecidableEq, Repr

namespace Candidate

def precedes (candidate other : Candidate) : Bool :=
  let size := Text.byteLength candidate.key.toList
  let otherSize := Text.byteLength other.key.toList
  candidate.distance < other.distance || (candidate.distance == other.distance &&
    (size < otherSize || (size == otherSize && candidate.key ≤ other.key)))

def ofKey? (lowered : List Char) (key : String) : Option Candidate :=
  let known := Text.lower key.toList
  let distance := Suggestion.distance lowered known
  if distance ≤ distanceLimit || lowered.isPrefixOf known then some ⟨distance, key⟩ else none

end Candidate

def dropRepeats : List Candidate → List Candidate
  | first :: second :: rest =>
    if first.key = second.key then dropRepeats (first :: rest)
    else first :: dropRepeats (second :: rest)
  | candidates => candidates
termination_by candidates => candidates.length

def forKey (key : String) (known : List String) : List String :=
  let candidates := known.filterMap (Candidate.ofKey? (Text.lower key.toList))
  ((dropRepeats (candidates.mergeSort Candidate.precedes)).take countLimit).map (·.key)

end Phrasebook.Suggestion
