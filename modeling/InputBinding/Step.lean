/-!
The steps that a descriptor asks for, one after another.
-/

namespace InputBinding

inductive Direction
  | neutral
  | positive
  | negative
deriving DecidableEq, Repr, Inhabited

structure AxisTest where
  name : String
  direction : Direction := .neutral
  tolerance : Float := 0.0
deriving DecidableEq, Repr

/-- A test of a single input. A key part is a bare name, which may turn out to name an axis. -/
inductive Part
  | key (name : String)
  | axis (test : AxisTest)
deriving DecidableEq, Repr

inductive Step
  | single (part : Part)
  | combo (left right : Part)
  | diagonal (first second : AxisTest) (key : Option String)
deriving DecidableEq, Repr

structure Descriptor where
  source : String
  steps : List Step := []
deriving DecidableEq, Repr

def Descriptor.isUnbound (descriptor : Descriptor) : Bool :=
  descriptor.steps.isEmpty

def Part.names : Part → List String
  | .key name => [name]
  | .axis test => [test.name]

def Step.names : Step → List String
  | .single part => part.names
  | .combo left right => left.names ++ right.names
  | .diagonal first second key => first.name :: second.name :: key.toList

def Direction.label : Direction → String
  | .neutral => "NEUTRAL"
  | .positive => "POSITIVE"
  | .negative => "NEGATIVE"

def Direction.suffix : Direction → Char
  | .negative => '<'
  | .positive => '>'
  | .neutral => '='

end InputBinding
