import InputBinding.Decimal.Shortest

/-!
How a number is laid out as text once its digits are chosen: where positional writing ends, how
the exponent is written, and the writing with a fixed number of places.
-/

namespace InputBinding.Decimal

/-- Positional writing is used while the exponent of the leading digit lies between the two bounds;
beyond them the exponent is written with its sign and at least `exponentWidth` digits. -/
structure Layout where
  leastPlain : Int
  mostPlain : Int
  exponentWidth : Nat

def zeros (count : Nat) : List Char :=
  List.replicate count '0'

def fillLeft (width : Nat) (digits : List Char) : List Char :=
  zeros (width - digits.length) ++ digits

def significantDigits (significand : Nat) : List Char :=
  match ((Nat.toDigits 10 significand).reverse.dropWhile (· == '0')).reverse with
  | [] => ['0']
  | digits => digits

def plain (digits : List Char) (leading : Int) : List Char :=
  if leading < 0 then
    '0' :: '.' :: zeros (-leading - 1).toNat ++ digits
  else
    let whole := leading.toNat + 1
    if digits.length ≤ whole then digits ++ zeros (whole - digits.length) ++ ['.', '0']
    else digits.take whole ++ '.' :: digits.drop whole

def scientific (width : Nat) (digits : List Char) (leading : Int) : List Char :=
  let fraction := if digits.length ≤ 1 then [] else '.' :: digits.drop 1
  let sign := if leading < 0 then '-' else '+'
  digits.take 1 ++ fraction ++ 'e' :: sign :: fillLeft width (Nat.toDigits 10 leading.natAbs)

def signed (negative : Bool) (chars : List Char) : String :=
  String.ofList (if negative then '-' :: chars else chars)

/-- The shortest text that reads back as the same number. -/
def Layout.render (layout : Layout) (value : Float) : String :=
  match Double.ofFloat value with
  | .notANumber => "nan"
  | .infinite negative => signed negative ['i', 'n', 'f']
  | .finite negative mantissa exponent =>
      let (significand, scale) := shortest mantissa exponent
      let leading := scale + Int.ofNat (Nat.toDigits 10 significand).length - 1
      let digits := significantDigits significand
      if layout.leastPlain ≤ leading ∧ leading ≤ layout.mostPlain then signed negative (plain digits leading)
      else signed negative (scientific layout.exponentWidth digits leading)

def fixed (places : Nat) (value : Float) : String :=
  match Double.ofFloat value with
  | .notANumber => "nan"
  | .infinite negative => signed negative ['i', 'n', 'f']
  | .finite negative mantissa exponent =>
      let scaled := (Ratio.scale 10 places (Ratio.scale 2 exponent ⟨mantissa, 1⟩)).round
      let digits := fillLeft (places + 1) (Nat.toDigits 10 scaled)
      let whole := digits.length - places
      signed negative
        (if places = 0 then digits else digits.take whole ++ '.' :: digits.drop whole)

def bitText (value : Float) : String :=
  String.ofList (fillLeft 16 (Nat.toDigits 16 value.toBits.toNat))

end InputBinding.Decimal
