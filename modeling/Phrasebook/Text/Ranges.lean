namespace Phrasebook.Text

/-- The code points `first`, `first + step`, … up to `last`. -/
structure CodeRange where
  first : Nat
  last : Nat
  step : Nat
deriving DecidableEq, Repr

def CodeRange.hits (range : CodeRange) (code : Nat) : Bool :=
  (code - range.first) % range.step == 0

def enclosing? (code : Nat) : List CodeRange → Option CodeRange
  | [] => none
  | range :: rest =>
    if code < range.first then none
    else if code ≤ range.last then some range
    else enclosing? code rest

def isMember (table : List CodeRange) (char : Char) : Bool :=
  (enclosing? char.toNat table).any (·.hits char.toNat)

structure ShiftedRange where
  range : CodeRange
  offset : Int
deriving DecidableEq, Repr

def shifted? (char : Char) : List ShiftedRange → Option Char
  | [] => none
  | entry :: rest =>
    if char.toNat < entry.range.first then none
    else if char.toNat ≤ entry.range.last then
      if entry.range.hits char.toNat then some (Char.ofNat (char.toNat + entry.offset).toNat)
      else none
    else shifted? char rest

end Phrasebook.Text
