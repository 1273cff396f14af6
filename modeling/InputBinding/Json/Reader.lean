import InputBinding.Json.Value
import InputBinding.Decimal.Nearest

/-!
Reading of JSON text. The grammar is the strict one: four blanks, no comments, no numbers beyond the
range of a double, no unpaired surrogates, and a limit on nesting.
-/

namespace InputBinding.Json

def isSpace (char : Char) : Bool :=
  char = ' ' || char = '\t' || char = '\n' || char = '\r'

def skipSpace (chars : List Char) : List Char :=
  chars.dropWhile isSpace

def hexValue? (char : Char) : Option Nat :=
  let code := char.toNat
  if 0x30 ≤ code ∧ code ≤ 0x39 then some (code - 0x30)
  else if 0x41 ≤ code ∧ code ≤ 0x46 then some (code - 0x37)
  else if 0x61 ≤ code ∧ code ≤ 0x66 then some (code - 0x57)
  else none

def codeUnit? (first second third fourth : Char) : Option Nat := do
  let high ← hexValue? first
  let upper ← hexValue? second
  let lower ← hexValue? third
  let low ← hexValue? fourth
  pure (((high * 16 + upper) * 16 + lower) * 16 + low)

def simpleEscape? (char : Char) : Option Char :=
  if char = '"' ∨ char = '\\' ∨ char = '/' then some char
  else if char = 'b' then some '\x08'
  else if char = 'f' then some '\x0c'
  else if char = 'n' then some '\n'
  else if char = 'r' then some '\r'
  else if char = 't' then some '\t'
  else none

def readBody : List Char → Option (List Char × List Char)
  | [] => none
  | '"' :: rest => some ([], rest)
  | '\\' :: 'u' :: a :: b :: c :: d :: rest =>
      match codeUnit? a b c d with
      | none => none
      | some unit =>
          if unit < 0xd800 ∨ 0xe000 ≤ unit then
            (readBody rest).map fun (chars, after) => (Char.ofNat unit :: chars, after)
          else
            match rest with
            | '\\' :: 'u' :: e :: f :: g :: h :: further =>
                match codeUnit? e f g h with
                | none => none
                | some low =>
                    if unit < 0xdc00 ∧ 0xdc00 ≤ low ∧ low < 0xe000 then
                      (readBody further).map fun (chars, after) =>
                        (Char.ofNat (0x10000 + (unit - 0xd800) * 0x400 + (low - 0xdc00)) :: chars, after)
                    else none
            | _ => none
  | '\\' :: escape :: rest =>
      match simpleEscape? escape with
      | none => none
      | some char => (readBody rest).map fun (chars, after) => (char :: chars, after)
  | char :: rest =>
      if char.toNat < 0x20 ∨ char = '\\' then none
      else (readBody rest).map fun (chars, after) => (char :: chars, after)

def natOfDigits (digits : List Char) : Nat :=
  digits.foldl (fun total digit => 10 * total + (digit.toNat - 0x30)) 0

def readFraction : List Char → Option (List Char × List Char)
  | '.' :: rest =>
      let (digits, after) := rest.span Char.isDigit
      if digits.isEmpty then none else some (digits, after)
  | rest => some ([], rest)

def readExponentDigits (negative : Bool) (chars : List Char) : Option (Int × List Char) :=
  let (digits, after) := chars.span Char.isDigit
  if digits.isEmpty then none
  else some (if negative then -Int.ofNat (natOfDigits digits) else Int.ofNat (natOfDigits digits), after)

def readExponent : List Char → Option (Option Int × List Char)
  | mark :: rest =>
      if mark = 'e' ∨ mark = 'E' then
        let result :=
          match rest with
          | '-' :: digits => readExponentDigits true digits
          | '+' :: digits => readExponentDigits false digits
          | digits => readExponentDigits false digits
        result.map fun (exponent, after) => (some exponent, after)
      else some (none, mark :: rest)
  | [] => some (none, [])

def finite? (value : Float) : Option Json :=
  if value.isFinite then some (.float value) else none

/-- Whole numbers stay exact while they fit 64 bits, signed below zero and unsigned above. -/
def wholeNumber? (negative : Bool) (magnitude : Nat) : Option Json :=
  if negative then
    if magnitude ≤ 0x8000000000000000 then some (.int (-Int.ofNat magnitude))
    else finite? (Decimal.ofDecimal true magnitude 0)
  else if magnitude < 0x10000000000000000 then some (.int (Int.ofNat magnitude))
  else finite? (Decimal.ofDecimal false magnitude 0)

def readUnsigned (negative : Bool) (chars : List Char) : Option (Json × List Char) := do
  let (whole, afterWhole) := chars.span Char.isDigit
  if whole.isEmpty || (whole.head? == some '0' && whole.length != 1) then none
  else
    let (fraction, afterFraction) ← readFraction afterWhole
    let (exponent, after) ← readExponent afterFraction
    let digits := natOfDigits (whole ++ fraction)
    let value ←
      if fraction.isEmpty && exponent.isNone then wholeNumber? negative digits
      else finite? (Decimal.ofDecimal negative digits (exponent.getD 0 - Int.ofNat fraction.length))
    pure (value, after)

def readNumber : List Char → Option (Json × List Char)
  | '-' :: rest => readUnsigned true rest
  | rest => readUnsigned false rest

mutual

def readValue : Nat → Nat → List Char → Option (Json × List Char)
  | 0, _, _ => none
  | fuel + 1, depth, chars =>
      match skipSpace chars with
      | '"' :: rest => (readBody rest).map fun (body, after) => (.text (String.ofList body), after)
      | '[' :: rest =>
          match depth, skipSpace rest with
          | 0, _ => none
          | _ + 1, ']' :: after => some (.list [], after)
          | inner + 1, items => (readItems fuel inner items).map fun (items, after) => (.list items, after)
      | '{' :: rest =>
          match depth, skipSpace rest with
          | 0, _ => none
          | _ + 1, '}' :: after => some (.object [], after)
          | inner + 1, members =>
              (readMembers fuel inner members).map fun (members, after) =>
                (.object (collapseMembers members), after)
      | 't' :: 'r' :: 'u' :: 'e' :: after => some (.bool true, after)
      | 'f' :: 'a' :: 'l' :: 's' :: 'e' :: after => some (.bool false, after)
      | 'n' :: 'u' :: 'l' :: 'l' :: after => some (.null, after)
      | number => readNumber number

def readItems : Nat → Nat → List Char → Option (List Json × List Char)
  | 0, _, _ => none
  | fuel + 1, depth, chars => do
      let (item, afterItem) ← readValue fuel depth chars
      match skipSpace afterItem with
      | ',' :: rest =>
          let (items, after) ← readItems fuel depth rest
          pure (item :: items, after)
      | ']' :: after => pure ([item], after)
      | _ => none

def readMembers : Nat → Nat → List Char → Option (List (String × Json) × List Char)
  | 0, _, _ => none
  | fuel + 1, depth, chars =>
      match skipSpace chars with
      | '"' :: rest => do
          let (key, afterKey) ← readBody rest
          match skipSpace afterKey with
          | ':' :: rest =>
              let (value, afterValue) ← readValue fuel depth rest
              match skipSpace afterValue with
              | ',' :: rest =>
                  let (members, after) ← readMembers fuel depth rest
                  pure ((String.ofList key, value) :: members, after)
              | '}' :: after => pure ([(String.ofList key, value)], after)
              | _ => none
          | _ => none
      | _ => none

end

def readDepth : Nat := 1024

def read? (text : String) : Option Json :=
  let chars := text.toList
  match readValue (2 * chars.length + 2) readDepth chars with
  | some (value, after) => if (skipSpace after).isEmpty then some value else none
  | none => none

def readBytes? (bytes : ByteArray) : Option Json :=
  (String.fromUTF8? bytes).bind read?

end InputBinding.Json
