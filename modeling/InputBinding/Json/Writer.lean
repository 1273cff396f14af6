import InputBinding.Json.Value
import InputBinding.Decimal.Layout

/-!
Writing of JSON text, compact or indented by two blanks a level. `render` writes any value; `write?`
refuses values that are nested too deep.
-/

namespace InputBinding.Json

/-- Numbers are positional from 0.00001 up to below 10^16, and exponents are not filled up. -/
def numberLayout : Decimal.Layout := ⟨-5, 15, 1⟩

def lowHex (code : Nat) : List Char :=
  Decimal.fillLeft 4 (Nat.toDigits 16 code)

/-- Escapes the quote, the backslash and the controls below the space, and nothing else. -/
def escapeChar (char : Char) : List Char :=
  if char = '"' ∨ char = '\\' then ['\\', char]
  else if char = '\x08' then ['\\', 'b']
  else if char = '\x0c' then ['\\', 'f']
  else if char = '\n' then ['\\', 'n']
  else if char = '\r' then ['\\', 'r']
  else if char = '\t' then ['\\', 't']
  else if char.toNat < 0x20 then '\\' :: 'u' :: lowHex char.toNat
  else [char]

def renderText (text : String) : List Char :=
  '"' :: text.toList.flatMap escapeChar ++ ['"']

/-- What no JSON number can say is written as null. -/
def renderFloat (value : Float) : List Char :=
  if value.isFinite then (numberLayout.render value).toList else "null".toList

def lineBreak : Option Nat → List Char
  | none => []
  | some level => '\n' :: List.replicate (2 * level) ' '

def colon : Option Nat → List Char
  | none => [':']
  | some _ => [':', ' ']

mutual

def render (level : Option Nat) : Json → List Char
  | .null => "null".toList
  | .bool true => "true".toList
  | .bool false => "false".toList
  | .int value => (toString value).toList
  | .float value => renderFloat value
  | .text value => renderText value
  | .list [] => ['[', ']']
  | .list (item :: rest) =>
      let inner := level.map (· + 1)
      '[' :: lineBreak inner ++ render inner item ++ renderItems inner rest ++ lineBreak level ++ [']']
  | .object [] => ['\x7b', '\x7d']
  | .object ((key, value) :: rest) =>
      let inner := level.map (· + 1)
      '\x7b' :: lineBreak inner ++ renderText key ++ colon level ++ render inner value ++
        renderMembers inner rest ++ lineBreak level ++ ['\x7d']

def renderItems (level : Option Nat) : List Json → List Char
  | [] => []
  | item :: rest => ',' :: lineBreak level ++ render level item ++ renderItems level rest

def renderMembers (level : Option Nat) : List (String × Json) → List Char
  | [] => []
  | (key, value) :: rest =>
      ',' :: lineBreak level ++ renderText key ++ colon level ++ render level value ++
        renderMembers level rest

end

mutual

/-- Whether a value can be written with the given number of levels left. A list without items needs
no level of its own, an object always does. -/
def fits : Nat → Json → Bool
  | 0, .list (_ :: _) => false
  | levels + 1, .list items => itemsFit levels items
  | 0, .object _ => false
  | levels + 1, .object members => membersFit levels members
  | _, _ => true

def itemsFit (levels : Nat) : List Json → Bool
  | [] => true
  | item :: rest => fits levels item && itemsFit levels rest

def membersFit (levels : Nat) : List (String × Json) → Bool
  | [] => true
  | (_, value) :: rest => fits levels value && membersFit levels rest

end

def writeDepth : Nat := 254

def write? (pretty : Bool) (value : Json) : Option String :=
  if fits writeDepth value then some (String.ofList (render (if pretty then some 0 else none) value))
  else none

mutual

def sortKeys : Json → Json
  | .list items => .list (sortItems items)
  | .object members =>
      .object ((sortMembers members).mergeSort fun left right => decide (left.1 ≤ right.1))
  | other => other

def sortItems : List Json → List Json
  | [] => []
  | item :: rest => sortKeys item :: sortItems rest

def sortMembers : List (String × Json) → List (String × Json)
  | [] => []
  | (key, value) :: rest => (key, sortKeys value) :: sortMembers rest

end

end InputBinding.Json
