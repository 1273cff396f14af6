import InputBinding.Rule

/-!
The canonical text of steps: one space behind each comma, none elsewhere, and a suffix behind every
axis name.
-/

namespace InputBinding

def stepDelimiter : String := ", "

def AxisTest.format (test : AxisTest) : String :=
  test.name.push test.direction.suffix

def Part.format : Part → String
  | .key name => name
  | .axis test => test.format

def Step.format : Step → String
  | .single part => part.format
  | .combo left right => left.format ++ "+" ++ right.format
  | .diagonal first second key =>
      let group := "(" ++ first.name ++ stepDelimiter ++
        ((second.name.push first.direction.suffix).push second.direction.suffix) ++ ")"
      match key with
      | none => group
      | some name => group ++ "+" ++ name

def formatSteps (steps : List Step) : String :=
  stepDelimiter.intercalate (steps.map Step.format)

def Descriptor.format (descriptor : Descriptor) : String :=
  if descriptor.isUnbound then unboundText else formatSteps descriptor.steps

end InputBinding
