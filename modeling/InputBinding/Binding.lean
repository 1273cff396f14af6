import InputBinding.Descriptor.Grammar
import InputBinding.Descriptor.Printer
import InputBinding.Fault

/-!
A rule with the steps that its descriptor stands for and, if it is a sequence, how far the sequence
has come.
-/

namespace InputBinding

structure Progress where
  elapsed : Float := 0.0
  cursor : Nat := 0
  matched : List String := []

structure Binding extends Progress where
  rule : Rule
  descriptor : Descriptor
  defect : Option Defect := none

namespace Binding

/-- The binding of a rule, at rest. A rule that cannot be read has no steps. -/
def ofRule (axisNames : Option (List String)) (rule : Rule) : Binding :=
  match rule.parse axisNames with
  | .ok descriptor => { rule, descriptor }
  | .error defect => { rule, descriptor := { source := rule.descriptor }, defect := some defect }

def inert (binding : Binding) : Bool :=
  binding.defect.isSome || binding.descriptor.isUnbound

def isSequence (binding : Binding) : Bool :=
  binding.rule.kind = .sequence

def inProgress (binding : Binding) : Bool :=
  0 < binding.cursor

def matchedText (binding : Binding) : String :=
  stepDelimiter.intercalate binding.matched

def expectedStep (binding : Binding) : Option Step :=
  binding.descriptor.steps[binding.cursor]?

def complete (binding : Binding) : Bool :=
  !binding.descriptor.steps.isEmpty && binding.descriptor.steps.length ≤ binding.cursor

def advance (binding : Binding) : Except Fault Binding :=
  match binding.expectedStep with
  | none => .error .cursorOutOfRange
  | some step =>
      .ok { binding with matched := binding.matched ++ [step.format], cursor := binding.cursor + 1 }

def rest (binding : Binding) : Binding :=
  { binding with toProgress := {} }

def spend (delta : Float) (binding : Binding) : Binding :=
  if binding.isSequence && binding.inProgress then { binding with elapsed := binding.elapsed + delta }
  else binding

def overdue (binding : Binding) : Bool :=
  binding.inProgress && 0.0 < binding.rule.timeLimit && binding.rule.timeLimit < binding.elapsed

end Binding

end InputBinding
