import InputBinding.Decimal.Double

/-!
The binary64 number nearest to a decimal one. A tie goes to the even mantissa, numbers too large
become infinite, and the bits are put together from exact natural arithmetic.
-/

namespace InputBinding.Decimal

def unitExponent (ratio : Ratio) : Int :=
  let estimate := Int.ofNat ratio.numerator.log2 - Int.ofNat ratio.denominator.log2 - 53
  let lower := max estimate (-1074)
  if (ratio.scale 2 (-lower)).floor < 2 * hiddenBit then lower else lower + 1

def nearestBits (ratio : Ratio) : Nat :=
  let exponent := unitExponent ratio
  let mantissa := (ratio.scale 2 (-exponent)).round
  min ((exponent + 1074).toNat * hiddenBit + mantissa) infinityBits

def ofMagnitude (negative : Bool) (bits : Nat) : Float :=
  Float.ofBits (UInt64.ofNat (if negative then signBit + bits else bits))

/-- The number nearest to `digits * 10 ^ exponent`. Exponents that put the result out of range
whatever the digits are decided at once, so the cost depends on the digits alone. -/
def ofDecimal (negative : Bool) (digits : Nat) (exponent : Int) : Float :=
  if digits = 0 ∨ Int.ofNat digits.log2 + 1 + exponent < -400 then ofMagnitude negative 0
  else if 400 < exponent then ofMagnitude negative infinityBits
  else ofMagnitude negative (nearestBits (Ratio.scale 10 exponent ⟨digits, 1⟩))

def ofInt (value : Int) : Float :=
  ofDecimal (decide (value < 0)) value.natAbs 0

end InputBinding.Decimal
