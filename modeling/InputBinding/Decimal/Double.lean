/-!
What the bits of a binary64 number stand for, as a mantissa times a power of two, and the exact
scaling of such a number by powers of two and ten.
-/

namespace InputBinding.Decimal

/-- A binary64 number; a finite one has the value `mantissa * 2 ^ exponent`. -/
inductive Double
  | notANumber
  | infinite (negative : Bool)
  | finite (negative : Bool) (mantissa : Nat) (exponent : Int)
deriving DecidableEq, Repr

def hiddenBit : Nat := 0x10000000000000

def signBit : Nat := 0x8000000000000000

def infinityBits : Nat := 0x7ff0000000000000

def Double.ofFloat (value : Float) : Double :=
  let bits := value.toBits.toNat
  let negative := decide (signBit ≤ bits)
  let biased := bits / hiddenBit % 2048
  let fraction := bits % hiddenBit
  if biased = 2047 then
    if fraction = 0 then .infinite negative else .notANumber
  else if biased = 0 then .finite negative fraction (-1074)
  else .finite negative (hiddenBit + fraction) (Int.ofNat biased - 1075)

structure Ratio where
  numerator : Nat
  denominator : Nat
deriving DecidableEq, Repr

def Ratio.scale (base : Nat) (exponent : Int) (ratio : Ratio) : Ratio :=
  if 0 ≤ exponent then { ratio with numerator := ratio.numerator * Nat.pow base exponent.toNat }
  else { ratio with denominator := ratio.denominator * Nat.pow base (-exponent).toNat }

def Ratio.floor (ratio : Ratio) : Nat :=
  ratio.numerator / ratio.denominator

def Ratio.round (ratio : Ratio) : Nat :=
  let quotient := ratio.numerator / ratio.denominator
  let twice := 2 * (ratio.numerator % ratio.denominator)
  if ratio.denominator < twice ∨ (twice = ratio.denominator ∧ quotient % 2 = 1) then quotient + 1
  else quotient

end InputBinding.Decimal
