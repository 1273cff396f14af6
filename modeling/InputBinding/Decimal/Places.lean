import InputBinding.Decimal.Layout

/-!
Writing of numbers with a number of digits that is chosen beforehand: after the point, after the
point of a power of ten, or in all.
-/

namespace InputBinding.Decimal

inductive Style
  | fixed
  | exponential
  | general
deriving DecidableEq, Repr

/-- A finite number rounded to `places + 1` digits, and the power of ten of the first of them. -/
def roundTo (places mantissa : Nat) (exponent : Int) : Nat × Int :=
  if mantissa = 0 then (0, 0)
  else
    let leading := decimalMagnitude mantissa exponent - 1
    let digits := (Ratio.scale 10 (places - leading) (Ratio.scale 2 exponent ⟨mantissa, 1⟩)).round
    if Nat.pow 10 (places + 1) ≤ digits then (Nat.pow 10 places, leading + 1) else (digits, leading)

def pointed (places : Nat) (keepPoint : Bool) (digits : List Char) : List Char :=
  let whole := digits.length - places
  if places = 0 then (if keepPoint then digits ++ ['.'] else digits)
  else digits.take whole ++ '.' :: digits.drop whole

def dropZeros (chars : List Char) : List Char :=
  if chars.contains '.' then
    let kept := chars.reverse.dropWhile (· == '0')
    (if kept.head? = some '.' then kept.drop 1 else kept).reverse
  else chars

def powerOfTen (leading : Int) : List Char :=
  'e' :: (if leading < 0 then '-' else '+') :: fillLeft 2 (Nat.toDigits 10 leading.natAbs)

def digitsWith (places scaled : Nat) : List Char :=
  fillLeft (places + 1) (Nat.toDigits 10 scaled)

def fixedDigits (places mantissa : Nat) (exponent : Int) : List Char :=
  digitsWith places (Ratio.scale 10 places (Ratio.scale 2 exponent ⟨mantissa, 1⟩)).round

def magnitudeText (style : Style) (places : Nat) (keepPoint : Bool) (mantissa : Nat) (exponent : Int) :
    List Char :=
  match style with
  | .fixed => pointed places keepPoint (fixedDigits places mantissa exponent)
  | .exponential =>
      let (digits, leading) := roundTo places mantissa exponent
      pointed places keepPoint (digitsWith places digits) ++ powerOfTen leading
  | .general =>
      let count := max 1 places
      let (digits, leading) := roundTo (count - 1) mantissa exponent
      let tidy := if keepPoint then id else dropZeros
      if -4 ≤ leading ∧ leading < count then
        let after := (Int.ofNat count - 1 - leading).toNat
        tidy (pointed after keepPoint (fixedDigits after mantissa exponent))
      else tidy (pointed (count - 1) keepPoint (digitsWith (count - 1) digits)) ++ powerOfTen leading

def layOut (style : Style) (places : Nat) (keepPoint : Bool) (value : Float) : Bool × List Char :=
  match Double.ofFloat value with
  | .notANumber => (false, ['n', 'a', 'n'])
  | .infinite negative => (negative, ['i', 'n', 'f'])
  | .finite negative mantissa exponent =>
      (negative, magnitudeText style places keepPoint mantissa exponent)

def truncate? (value : Float) : Option Int :=
  match Double.ofFloat value with
  | .finite negative mantissa exponent =>
      let whole := Int.ofNat (Ratio.scale 2 exponent ⟨mantissa, 1⟩).floor
      some (if negative then -whole else whole)
  | _ => none

end InputBinding.Decimal
