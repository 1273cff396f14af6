import InputBinding.Decimal.Nearest
import InputBinding.Text.Blank
import InputBinding.Text.Digit

/-!
Numbers written by people: surrounding blanks, a sign, digits of any script with single underscores
between them, and for real numbers a point, an exponent and the words for infinity and NaN.
-/

namespace InputBinding.Decimal

open Text

inductive Glyph
  | digit (value : Nat)
  | other (char : Char)
deriving DecidableEq, Repr

def Glyph.ofChar (char : Char) : Glyph :=
  match digitValue? char with
  | some value => .digit value
  | none => .other char

def isMargin (char : Char) : Bool :=
  isBlank char && !decide (0x1c ≤ char.toNat ∧ char.toNat ≤ 0x1f)

def glyphs (text : String) : List Glyph :=
  let chars := text.toList.dropWhile isMargin
  (chars.reverse.dropWhile isMargin).reverse.map Glyph.ofChar

/-- Takes the digits at the front, an underscore being allowed between two digits only. -/
def takeDigits : List Glyph → List Nat × List Glyph
  | .digit value :: .other '_' :: .digit next :: rest =>
      let (values, after) := takeDigits (.digit next :: rest)
      (value :: values, after)
  | .digit value :: rest =>
      let (values, after) := takeDigits rest
      (value :: values, after)
  | rest => ([], rest)

def ofDigits (values : List Nat) : Nat :=
  values.foldl (fun total value => 10 * total + value) 0

def takeSign : List Glyph → Bool × List Glyph
  | .other '-' :: rest => (true, rest)
  | .other '+' :: rest => (false, rest)
  | rest => (false, rest)

def digitLimit : Nat := 4300

/-- Reads an integer text; none stands for a text that is no integer or too long. -/
def readInt? (text : String) : Option Int :=
  let (negative, unsigned) := takeSign (glyphs text)
  match takeDigits unsigned with
  | ([], _) => none
  | (values, []) =>
      if digitLimit < values.length then none
      else some (if negative then -Int.ofNat (ofDigits values) else Int.ofNat (ofDigits values))
  | _ => none

def spelled (word : List Glyph) : List Char :=
  word.map fun
    | .digit _ => '0'
    | .other char => char.toLower

def infinity (negative : Bool) : Float :=
  ofMagnitude negative infinityBits

def notANumber : Float :=
  Float.ofBits 0x7ff8000000000000

def takeExponent : List Glyph → Option Int
  | [] => some 0
  | .other mark :: rest =>
      if mark = 'e' ∨ mark = 'E' then
        let (negative, unsigned) := takeSign rest
        match takeDigits unsigned with
        | ([], _) => none
        | (values, []) =>
            some (if negative then -Int.ofNat (ofDigits values) else Int.ofNat (ofDigits values))
        | _ => none
      else none
  | _ => none

def readFloat? (text : String) : Option Float :=
  let (negative, unsigned) := takeSign (glyphs text)
  let word := spelled unsigned
  if word = "inf".toList ∨ word = "infinity".toList then some (infinity negative)
  else if word = "nan".toList then some notANumber
  else
    let (whole, afterWhole) := takeDigits unsigned
    let (fraction, afterFraction) :=
      match afterWhole with
      | .other '.' :: rest => takeDigits rest
      | rest => ([], rest)
    if whole.isEmpty && fraction.isEmpty then none
    else
      (takeExponent afterFraction).map fun exponent =>
        ofDecimal negative (ofDigits (whole ++ fraction)) (exponent - Int.ofNat fraction.length)

end InputBinding.Decimal
