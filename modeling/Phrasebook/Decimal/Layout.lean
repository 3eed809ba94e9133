import Phrasebook.Decimal.Shortest

namespace Phrasebook.Decimal

structure Layout where
  positional : Int → Bool
  wholeMark : String
  tie : Tie

def placePoint (digits : String) (point : Int) (wholeMark : String) : String :=
  let count : Int := digits.length
  if point ≤ 0 then
    "0." ++ "".pushn '0' (-point).toNat ++ digits
  else if count ≤ point then
    digits ++ "".pushn '0' (point - count).toNat ++ wholeMark
  else
    String.ofList (digits.toList.take point.toNat) ++ "." ++
      String.ofList (digits.toList.drop point.toNat)

def placePower (digits : String) (power : Int) : String :=
  let fraction := match digits.toList with
    | [] => ""
    | [digit] => String.ofList [digit]
    | digit :: others => String.ofList (digit :: '.' :: others)
  fraction ++ (if power < 0 then "e-" else "e+") ++ toString power.natAbs

def Layout.write (layout : Layout) (value : Float) : String :=
  let binary := Binary.ofFloat value
  let sign := if binary.negative then "-" else ""
  match binary.shortest? layout.tie with
  | none => sign ++ "0" ++ layout.wholeMark
  | some decimal =>
    let digits := toString decimal.significand
    let point := digits.length + decimal.exponent
    if layout.positional (point - 1) then sign ++ placePoint digits point layout.wholeMark
    else sign ++ placePower digits (point - 1)

/-- Plain digits: never a power of ten, and a whole number has no point. Of two equally near
decimals the greater is written. -/
def plain : Layout := ⟨fun _ => true, "", .up⟩

/-- Digits of a structured document: a point for leading digits from `10^-5` to `10^15`, a power
of ten beyond, and `.0` behind a whole number. Of two equally near decimals the one with the even
last digit is written. -/
def marked : Layout := ⟨fun power => -5 ≤ power && power ≤ 15, ".0", .toEven⟩

end Phrasebook.Decimal
