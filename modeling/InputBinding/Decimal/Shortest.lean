import InputBinding.Decimal.Double

/-!
The shortest decimal that reads back as a given binary64 number: of the grids with one, two, …
digits the first that has a point in the rounding interval of the number, and of its two
neighbours on that grid the nearer one.
-/

namespace InputBinding.Decimal

structure Interval where
  lower : Nat
  middle : Nat
  upper : Nat
  closed : Bool
  exponent : Int

/-- The interval of a positive number; below a power of two the gap is half as wide. -/
def Interval.around (mantissa : Nat) (exponent : Int) : Interval :=
  let gapBelow := if mantissa = hiddenBit ∧ -1074 < exponent then 1 else 2
  { lower := 4 * mantissa - gapBelow
    middle := 4 * mantissa
    upper := 4 * mantissa + 2
    closed := decide (mantissa % 2 = 0)
    exponent := exponent - 2 }

def Interval.holds (interval : Interval) (grid : Int) (point : Nat) : Bool :=
  let scaled := Ratio.scale 10 (-grid) (Ratio.scale 2 interval.exponent ⟨1, 1⟩)
  let place := point * scaled.denominator
  let low := interval.lower * scaled.numerator
  let high := interval.upper * scaled.numerator
  if interval.closed then decide (low ≤ place ∧ place ≤ high) else decide (low < place ∧ place < high)

def Interval.middleOn (interval : Interval) (grid : Int) : Ratio :=
  Ratio.scale 10 (-grid) (Ratio.scale 2 interval.exponent ⟨interval.middle, 1⟩)

def Interval.pointOn? (interval : Interval) (grid : Int) : Option Nat :=
  let middle := interval.middleOn grid
  let below := middle.floor
  let nearer := middle.round
  let farther := if nearer = below then below + 1 else below
  if interval.holds grid nearer then some nearer
  else if interval.holds grid farther then some farther
  else none

def decimalMagnitude (mantissa : Nat) (exponent : Int) : Int :=
  let estimate := (Int.ofNat mantissa.log2 + exponent) * 30103 / 100000 + 1
  let scaled := Ratio.scale 10 (-estimate) (Ratio.scale 2 exponent ⟨mantissa, 1⟩)
  if scaled.numerator < scaled.denominator then estimate else estimate + 1

/-- Tries the grids from the coarsest on; seventeen digits always suffice. -/
def searchGrids (interval : Interval) (magnitude : Int) : Nat → Nat → Nat × Int
  | 0, count => ((interval.middleOn (magnitude - count)).round, magnitude - count)
  | fuel + 1, count =>
      match interval.pointOn? (magnitude - count) with
      | some point => (point, magnitude - count)
      | none => searchGrids interval magnitude fuel (count + 1)

def shortest (mantissa : Nat) (exponent : Int) : Nat × Int :=
  if mantissa = 0 then (0, 0)
  else searchGrids (Interval.around mantissa exponent) (decimalMagnitude mantissa exponent) 16 1

end InputBinding.Decimal
