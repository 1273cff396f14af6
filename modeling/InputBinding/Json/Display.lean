import InputBinding.Json.Value
import InputBinding.Decimal.Layout
import InputBinding.Text.Quoted

/-!
How values appear in messages and when a value of any kind is taken for a text: `display` shows a
text as it is, `inspect` shows it quoted, as it is also shown inside lists and objects.
-/

namespace InputBinding

/-- Numbers in messages are positional from 0.0001 up to below 10^16, with exponents of two digits. -/
def messageLayout : Decimal.Layout := ⟨-4, 15, 2⟩

def showFloat (value : Float) : String :=
  messageLayout.render value

namespace Json

mutual

def inspect : Json → String
  | .null => "None"
  | .bool true => "True"
  | .bool false => "False"
  | .int value => toString value
  | .float value => showFloat value
  | .text value => Text.quote value
  | .list [] => "[]"
  | .list (item :: rest) => "[" ++ inspect item ++ inspectItems rest ++ "]"
  | .object [] => "\x7b\x7d"
  | .object ((key, value) :: rest) =>
      "\x7b" ++ Text.quote key ++ ": " ++ inspect value ++ inspectMembers rest ++ "\x7d"

def inspectItems : List Json → String
  | [] => ""
  | item :: rest => ", " ++ inspect item ++ inspectItems rest

def inspectMembers : List (String × Json) → String
  | [] => ""
  | (key, value) :: rest => ", " ++ Text.quote key ++ ": " ++ inspect value ++ inspectMembers rest

end

def typeName : Json → String
  | .null => "NoneType"
  | .bool _ => "bool"
  | .int _ => "int"
  | .float _ => "float"
  | .text _ => "str"
  | .list _ => "list"
  | .object _ => "dict"

def display : Json → String
  | .text value => value
  | other => other.inspect

end Json

end InputBinding
