/-!
# The shortest decimal of a binary number

A positive number `m · 2^e` stands for every real that rounds to it. Of the decimals in that
interval those with the fewest digits are sought, and of these the nearest to the number itself.
Where two are equally near, a `Tie` tells which one is taken:

* `Interval.ofBinary` gives the interval as integers over one denominator;
* `Interval.nearestOnGrid?` tests the number's two neighbours on the grid of multiples of a power
  of ten, in exact arithmetic;
* `shortest` takes the coarsest grid with a hit. Seventeen digits always hit, since that grid is
  finer than the interval.
-/

namespace Phrasebook.Decimal

structure Scaled where
  significand : Nat
  exponent : Int
deriving DecidableEq, Repr

/-- A number `value / scale` with the ends of the interval that rounds to it, over the same
scale. The ends belong to the interval if `closed` holds. -/
structure Interval where
  low : Nat
  value : Nat
  high : Nat
  scale : Nat
  closed : Bool
deriving DecidableEq, Repr

/-- The interval of `mantissa · 2^exponent`. The gap below the number is half as wide as the gap
above it if the number is the least with its exponent, which `narrowBelow` tells. -/
def Interval.ofBinary (mantissa : Nat) (exponent : Int) (narrowBelow : Bool) : Interval :=
  let factor := Nat.pow 2 (exponent - 2).toNat
  { low := (4 * mantissa - if narrowBelow then 1 else 2) * factor
    value := 4 * mantissa * factor
    high := (4 * mantissa + 2) * factor
    scale := Nat.pow 2 (2 - exponent).toNat
    closed := mantissa % 2 == 0 }

def Interval.holds (interval : Interval) (candidate : Nat) : Bool :=
  if interval.closed then interval.low ≤ candidate && candidate ≤ interval.high
  else interval.low < candidate && candidate < interval.high

def Interval.inUnits (interval : Interval) (exponent : Int) : Interval :=
  let factor := Nat.pow 10 (-exponent).toNat
  { low := interval.low * factor
    value := interval.value * factor
    high := interval.high * factor
    scale := interval.scale * Nat.pow 10 exponent.toNat
    closed := interval.closed }

inductive Tie where
  | up
  | toEven
deriving DecidableEq, Repr

def Tie.goesDown (tie : Tie) (below : Nat) : Bool :=
  match tie with
  | up => false
  | toEven => below % 2 == 0

def Interval.nearestOnGrid? (interval : Interval) (tie : Tie) (exponent : Int) : Option Scaled :=
  let units := interval.inUnits exponent
  let below := units.value / units.scale
  let above := below + 1
  let toBelow := units.value - below * units.scale
  let toAbove := above * units.scale - units.value
  match units.holds (below * units.scale), units.holds (above * units.scale) with
  | true, true =>
    if toBelow < toAbove || (toBelow == toAbove && tie.goesDown below) then some ⟨below, exponent⟩
    else some ⟨above, exponent⟩
  | true, false => some ⟨below, exponent⟩
  | false, true => some ⟨above, exponent⟩
  | false, false => none

def leadingZeros (numerator denominator : Nat) : Nat → Nat
  | 0 => 0
  | bound + 1 =>
    if denominator ≤ numerator then 0
    else leadingZeros (numerator * 10) denominator bound + 1

def Interval.pointPosition (interval : Interval) : Int :=
  let whole := interval.value / interval.scale
  if whole == 0 then 1 - (leadingZeros interval.value interval.scale 400 : Int)
  else (Nat.toDigits 10 whole).length

def Scaled.strip (decimal : Scaled) : Scaled :=
  go decimal.significand decimal.exponent decimal.significand
where
  /-- Removes one zero after another, at most as many as the bound says. -/
  go (significand : Nat) (exponent : Int) : Nat → Scaled
    | 0 => ⟨significand, exponent⟩
    | bound + 1 =>
      if significand % 10 == 0 then go (significand / 10) (exponent + 1) bound
      else ⟨significand, exponent⟩

def shortest (tie : Tie) (mantissa : Nat) (exponent : Int) (narrowBelow : Bool) : Scaled :=
  let interval := Interval.ofBinary mantissa exponent narrowBelow
  let point := interval.pointPosition
  let hit := (List.range 17).findSome? fun extra : Nat =>
    interval.nearestOnGrid? tie (point - 1 - extra)
  (hit.getD ⟨mantissa, exponent⟩).strip

structure Binary where
  negative : Bool
  mantissa : Nat
  exponent : Int
  narrowBelow : Bool
deriving DecidableEq, Repr

def Binary.ofFloat (value : Float) : Binary :=
  let bits : Nat := value.toBits.toNat
  let field : Nat := bits / Nat.pow 2 52 % Nat.pow 2 11
  let fraction : Nat := bits % Nat.pow 2 52
  { negative := bits / Nat.pow 2 63 == 1
    mantissa := if field == 0 then fraction else fraction + Nat.pow 2 52
    exponent := if field == 0 then -1074 else (field : Int) - 1075
    narrowBelow := fraction == 0 && 1 < field }

def Binary.shortest? (binary : Binary) (tie : Tie) : Option Scaled :=
  if binary.mantissa == 0 then none
  else some (shortest tie binary.mantissa binary.exponent binary.narrowBelow)

end Phrasebook.Decimal
