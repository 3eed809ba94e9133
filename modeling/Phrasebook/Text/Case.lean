import Phrasebook.Text.CaseTable

namespace Phrasebook.Text

def isUpper (char : Char) : Bool := isMember uppercase char

def isLower (char : Char) : Bool := isMember lowercase char

def caseForm (expansions : List (Nat × List Nat)) (shifts : List ShiftedRange) (char : Char) :
    List Char :=
  match expansions.lookup char.toNat with
  | some codes => codes.map Char.ofNat
  | none => [(shifted? char shifts).getD char]

def lowerChar (char : Char) : List Char := caseForm lowerExpansions lowerShifts char

def upperChar (char : Char) : List Char := caseForm upperExpansions upperShifts char

def meetsCased (text : List Char) : Bool :=
  match text.dropWhile (isMember caseIgnorable) with
  | [] => false
  | char :: _ => isMember cased char

/-- Lower case of a text whose characters before it are `before`, the nearest first. -/
def lowerAfter (before : List Char) : List Char → List Char
  | [] => []
  | char :: rest =>
    (if char = 'Σ' then [if meetsCased before && !meetsCased rest then 'ς' else 'σ']
      else lowerChar char) ++ lowerAfter (char :: before) rest

def lower (text : List Char) : List Char := lowerAfter [] text

end Phrasebook.Text
