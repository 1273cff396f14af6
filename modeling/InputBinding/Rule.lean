import InputBinding.Step

/-!
Rules as they are configured and saved: a descriptor text and the settings it is read with.
-/

namespace InputBinding

inductive Category
  | button
  | axis
deriving DecidableEq, Repr, Inhabited

inductive Kind
  | standard
  | combo
  | sequence
deriving DecidableEq, Repr, Inhabited

structure AxisSettings where
  firstDirection : Direction := .neutral
  secondDirection : Direction := .neutral
  firstTolerance : Float := 0.0
  secondTolerance : Float := 0.0
deriving DecidableEq, Repr

def unboundText : String := "None"

/-- One configured rule. A time limit that is not positive leaves sequences unbounded. -/
structure Rule extends AxisSettings where
  descriptor : String := unboundText
  category : Category := .button
  kind : Kind := .standard
  timeLimit : Float := 0.0
deriving DecidableEq, Repr

def Rule.withDescriptor (rule : Rule) (descriptor : String) : Rule :=
  { rule with descriptor }

def Category.label : Category → String
  | .button => "BUTTON"
  | .axis => "AXIS"

def Kind.label : Kind → String
  | .standard => "STANDARD"
  | .combo => "COMBO"
  | .sequence => "SEQUENCE"

end InputBinding
