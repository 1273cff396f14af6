import InputBinding.Decimal.Nearest
import InputBinding.Decimal.Places
import InputBinding.Json.Display

/-!
Message templates. A field starts with a percent sign and takes the next argument, or the named
member of a single object; flags, width and precision say how it is laid out. A template whose fields
and arguments do not fit each other has no text.
-/

namespace InputBinding.Log

inductive Amount
  | absent
  | given (amount : Nat)
  | taken
deriving DecidableEq, Repr

structure Flags where
  left : Bool := false
  plus : Bool := false
  blank : Bool := false
  alternate : Bool := false
  zero : Bool := false
deriving DecidableEq, Repr

structure Field where
  key : Option String := none
  flags : Flags := {}
  width : Amount := .absent
  precision : Amount := .absent
  conversion : Char
deriving DecidableEq, Repr

inductive Piece
  | literal (char : Char)
  | field (field : Field)
deriving DecidableEq, Repr

namespace Template

def takeKey (depth : Nat) : List Char → Option (List Char × List Char)
  | [] => none
  | ')' :: rest =>
      if depth = 0 then some ([], rest)
      else (takeKey (depth - 1) rest).map fun (key, after) => (')' :: key, after)
  | '(' :: rest => (takeKey (depth + 1) rest).map fun (key, after) => ('(' :: key, after)
  | char :: rest => (takeKey depth rest).map fun (key, after) => (char :: key, after)

def takeFlags (flags : Flags) : List Char → Flags × List Char
  | '-' :: rest => takeFlags { flags with left := true } rest
  | '+' :: rest => takeFlags { flags with plus := true } rest
  | ' ' :: rest => takeFlags { flags with blank := true } rest
  | '#' :: rest => takeFlags { flags with alternate := true } rest
  | '0' :: rest => takeFlags { flags with zero := true } rest
  | rest => (flags, rest)

def takeAmount : List Char → Amount × List Char
  | '*' :: rest => (.taken, rest)
  | chars =>
      let digits := chars.takeWhile Char.isDigit
      let amount := if digits.isEmpty then Amount.absent
        else .given (digits.foldl (fun total digit => 10 * total + (digit.toNat - '0'.toNat)) 0)
      (amount, chars.dropWhile Char.isDigit)

def takePrecision : List Char → Amount × List Char
  | '.' :: rest =>
      match takeAmount rest with
      | (.absent, after) => (.given 0, after)
      | other => other
  | chars => (.absent, chars)

def takeField (chars : List Char) : Option (Field × List Char) := do
  let (key, chars) ← match chars with
    | '(' :: rest => (takeKey 0 rest).map fun (key, after) => (some (String.ofList key), after)
    | other => some (none, other)
  let (flags, chars) := takeFlags {} chars
  let (width, chars) := takeAmount chars
  let (precision, chars) := takePrecision chars
  let chars := match chars with
    | 'h' :: rest | 'l' :: rest | 'L' :: rest => rest
    | other => other
  match chars with
  | [] => none
  | conversion :: rest => some ({ key, flags, width, precision, conversion }, rest)

def pieces : Nat → List Char → Option (List Piece)
  | _, [] => some []
  | 0, _ => none
  | fuel + 1, '%' :: rest => do
      let (field, after) ← takeField rest
      let others ← pieces fuel after
      return (if field.conversion = '%' then Piece.literal '%' else .field field) :: others
  | fuel + 1, char :: rest => do
      let others ← pieces fuel rest
      return Piece.literal char :: others

structure Supply where
  waiting : List Json
  members : Option (List (String × Json)) := none

def Supply.ofArguments : List Json → Supply
  | [.object (member :: members)] => ⟨[.object (member :: members)], some (member :: members)⟩
  | arguments => ⟨arguments, none⟩

def Supply.next (supply : Supply) : Option (Json × Supply) :=
  match supply.waiting with
  | [] => none
  | value :: rest => some (value, { supply with waiting := rest })

def Supply.pick (supply : Supply) : Option String → Option (Json × Supply)
  | none => supply.next
  | some key => do
      let value ← Json.field? (← supply.members) key
      return (value, supply)

/-- A width or precision with the arguments that are left; a negative width turns to the left. -/
def Supply.amount (supply : Supply) : Amount → Option (Option Int × Supply)
  | .absent => some (none, supply)
  | .given amount => some (some (Int.ofNat amount), supply)
  | .taken => do
      match ← supply.next with
      | (.int amount, supply) => return (some amount, supply)
      | _ => none

def pad (flags : Flags) (zeros : Bool) (width : Nat) (sign body : List Char) : List Char :=
  let missing := width - (sign.length + body.length)
  if flags.left then sign ++ body ++ List.replicate missing ' '
  else if zeros then sign ++ List.replicate missing '0' ++ body
  else List.replicate missing ' ' ++ sign ++ body

def signOf (flags : Flags) (negative : Bool) : List Char :=
  if negative then ['-'] else if flags.plus then ['+'] else if flags.blank then [' '] else []

def asciiChar (char : Char) : List Char :=
  if char.toNat < 0x80 then [char] else Text.escapeCode char.toNat

def wholeOf? : Json → Option Int
  | .int value => some value
  | .bool value => some (if value then 1 else 0)
  | _ => none

def decimalOf? : Json → Option Int
  | .float value => Decimal.truncate? value
  | other => wholeOf? other

def floatOf? : Json → Option Float
  | .float value => some value
  | other => (wholeOf? other).map Decimal.ofInt

def charOf? : Json → Option (List Char)
  | .int code =>
      if 0 ≤ code ∧ code.toNat.isValidChar then some [Char.ofNat code.toNat] else none
  | .text text => if text.length = 1 then some text.toList else none
  | _ => none

def integerText (base : Nat) (mark : List Char) (flags : Flags) (width : Nat) (precision : Option Nat)
    (value : Int) : List Char :=
  let digits := Decimal.fillLeft (precision.getD 1) (Nat.toDigits base value.natAbs)
  let sign := signOf flags (value < 0) ++ if flags.alternate then mark else []
  pad flags flags.zero width sign digits

def floatText (style : Decimal.Style) (flags : Flags) (width : Nat) (precision : Option Nat)
    (value : Float) : List Char :=
  let (negative, digits) := Decimal.layOut style (precision.getD 6) flags.alternate value
  pad flags flags.zero width (signOf flags negative) digits

def plainText (flags : Flags) (width : Nat) (precision : Option Nat) (text : List Char) : List Char :=
  let kept := match precision with
    | none => text
    | some count => text.take count
  pad flags false width [] kept

def convert (conversion : Char) (flags : Flags) (width : Nat) (precision : Option Nat) (value : Json) :
    Option (List Char) :=
  match conversion with
  | 's' => some (plainText flags width precision value.display.toList)
  | 'r' => some (plainText flags width precision value.inspect.toList)
  | 'a' => some (plainText flags width precision (value.inspect.toList.flatMap asciiChar))
  | 'c' => (charOf? value).map (plainText flags width none)
  | 'd' | 'i' | 'u' => (decimalOf? value).map (integerText 10 [] flags width precision)
  | 'o' => (wholeOf? value).map (integerText 8 ['0', 'o'] flags width precision)
  | 'x' => (wholeOf? value).map (integerText 16 ['0', 'x'] flags width precision)
  | 'X' =>
      (wholeOf? value).map fun number =>
        (integerText 16 ['0', 'x'] flags width precision number).map Char.toUpper
  | 'f' => (floatOf? value).map (floatText .fixed flags width precision)
  | 'e' => (floatOf? value).map (floatText .exponential flags width precision)
  | 'g' => (floatOf? value).map (floatText .general flags width precision)
  | 'F' => (floatOf? value).map fun number =>
      (floatText .fixed flags width precision number).map Char.toUpper
  | 'E' => (floatOf? value).map fun number =>
      (floatText .exponential flags width precision number).map Char.toUpper
  | 'G' => (floatOf? value).map fun number =>
      (floatText .general flags width precision number).map Char.toUpper
  | _ => none

def fillField (field : Field) (supply : Supply) : Option (List Char × Supply) := do
  let (width, supply) ← supply.amount field.width
  let (precision, supply) ← supply.amount field.precision
  let (value, supply) ← supply.pick field.key
  let flags := if (width.getD 0) < 0 then { field.flags with left := true } else field.flags
  let text ← convert field.conversion flags (width.getD 0).natAbs (precision.map Int.toNat) value
  return (text, supply)

def fillPieces : List Piece → Supply → Option (List Char)
  | [], supply => if supply.waiting.isEmpty || supply.members.isSome then some [] else none
  | .literal char :: rest, supply => (fillPieces rest supply).map (char :: ·)
  | .field field :: rest, supply => do
      let (text, supply) ← fillField field supply
      let others ← fillPieces rest supply
      return text ++ others

/-- The text of a template with its arguments; without arguments a template is a text as it is. -/
def fill? (template : String) (arguments : List Json) : Option String :=
  if arguments.isEmpty then some template
  else do
    let found ← pieces template.length template.toList
    let chars ← fillPieces found (Supply.ofArguments arguments)
    return String.ofList chars

end Template

end InputBinding.Log
