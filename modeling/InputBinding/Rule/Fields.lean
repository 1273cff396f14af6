import InputBinding.Rule
import InputBinding.Fault
import InputBinding.Text.Case
import InputBinding.Decimal.Reading

/-!
Rules as JSON objects. Reading fills in what is missing, ignores the case of labels, takes any value
for a descriptor text, reads numbers written as texts, and keeps tolerances between zero and one.
-/

namespace InputBinding

open Json (field?)

def readLabel (values : List α) (label : α → String) (field : String) (value : Json) : Except Fault α :=
  let wanted := Text.upper value.display
  match values.find? fun candidate => label candidate == wanted with
  | some found => .ok found
  | none => .error (.unknownLabel wanted field)

def readLabelField (members : List (String × Json)) (key : String) (values : List α) (label : α → String)
    (field : String) (default : α) : Except Fault α :=
  match field? members key with
  | none => .ok default
  | some value => readLabel values label field value

def readCategory (members : List (String × Json)) : Except Fault Category :=
  readLabelField members "category" [.button, .axis] Category.label "InputCategory" .button

def readKind (members : List (String × Json)) : Except Fault Kind :=
  readLabelField members "type" [.standard, .combo, .sequence] Kind.label "InputType" .standard

def readDirection (members : List (String × Json)) (key : String) : Except Fault Direction :=
  readLabelField members key [.neutral, .positive, .negative] Direction.label "AxisDirection" .neutral

def Json.toFloat : Json → Except Fault Float
  | .int value => .ok (Decimal.ofInt value)
  | .float value => .ok value
  | .bool value => .ok (if value then 1.0 else 0.0)
  | .text written =>
      match Decimal.readFloat? written with
      | some value => .ok value
      | none => .error (.unreadableNumber written)
  | value => .error (.notConvertible value)

def readFloatField (members : List (String × Json)) (key : String) : Except Fault Float :=
  match field? members key with
  | none => .ok 0.0
  | some value => value.toFloat

/-- The nearest number between zero and one; what is not a number becomes zero. -/
def clampUnit (value : Float) : Float :=
  let raised := if 0.0 < value then value else 0.0
  if raised < 1.0 then raised else 1.0

def readDescriptor (members : List (String × Json)) : String :=
  match field? members "descriptor" with
  | none | some .null => unboundText
  | some value => value.display

/-- Builds a rule from the members of an object; the first field that cannot be read decides. -/
def Rule.ofMembers (members : List (String × Json)) : Except Fault Rule := do
  let category ← readCategory members
  let kind ← readKind members
  let firstDirection ← readDirection members "axis1_dir"
  let secondDirection ← readDirection members "axis2_dir"
  let firstTolerance ← readFloatField members "axis1_tolerance"
  let secondTolerance ← readFloatField members "axis2_tolerance"
  let timeLimit ← readFloatField members "time_limit"
  pure {
    descriptor := readDescriptor members
    category, kind, firstDirection, secondDirection, timeLimit
    firstTolerance := clampUnit firstTolerance
    secondTolerance := clampUnit secondTolerance }

def Rule.ofJson : Json → Except Fault Rule
  | .object members => Rule.ofMembers members
  | value => .error (.withoutMembers value)

def Rule.toMembers (rule : Rule) : List (String × Json) := [
  ("descriptor", .text rule.descriptor),
  ("category", .text rule.category.label),
  ("type", .text rule.kind.label),
  ("axis1_dir", .text rule.firstDirection.label),
  ("axis2_dir", .text rule.secondDirection.label),
  ("axis1_tolerance", .float rule.firstTolerance),
  ("axis2_tolerance", .float rule.secondTolerance),
  ("time_limit", .float rule.timeLimit)]

end InputBinding
