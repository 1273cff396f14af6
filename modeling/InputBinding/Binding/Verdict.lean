import InputBinding.Binding
import InputBinding.Step.Holds

/-!
What a tick means for one binding. The verdict depends on the binding and the source alone; carrying
it out is left to others.
-/

namespace InputBinding

inductive Abandonment
  | timeout
  | interrupted
deriving DecidableEq, Repr

def Abandonment.label : Abandonment → String
  | .timeout => "timeout"
  | .interrupted => "interrupted"

inductive Verdict
  | pass
  | fire (value : Option Float)
  | advance
  | abandon (reason : Abandonment)
  | rewind
deriving DecidableEq, Repr

namespace Binding

/-- An axis fires with its value whenever it exists, a key while it is held. -/
def judgeStandard (source : Source) : Step → Inquiry Verdict
  | .single (.axis test) => do
      if ← source.findAxis test.name then return .fire (some (← source.sampleAxis test.name))
      else return .pass
  | .single (.key name) => do
      match ← source.identify name with
      | some .key => return if ← source.keyHolds false name then .fire none else .pass
      | some .axis => return .fire (some (← source.sampleAxis name))
      | none => return .pass
  | step => .ofExcept (.error (.unexpectedStep step))

def comboManner (binding : Binding) : Manner where
  bareDirection := binding.rule.firstDirection
  bareTolerance := binding.rule.firstTolerance

def judgeCombo (epsilon : Float) (source : Source) (binding : Binding) (step : Step) : Inquiry Verdict := do
  return if ← source.stepHolds epsilon binding.comboManner step then .fire none else .pass

/-- Whether a key press that is not the expected one breaks a sequence off. -/
def interruptedBy (source : Source) (binding : Binding) (step : Step) : Except Fault Bool := do
  if !binding.inProgress then return false
  if !(← source.anyKeyJustPressed) then return false
  match step.bareName? with
  | some name => source.awaitsKey name
  | none => return false

/-- A sequence moves on when the expected step holds, and only then looks for interruptions. -/
def judgeSequence (epsilon : Float) (source : Source) (binding : Binding) : Inquiry Verdict := do
  if binding.overdue then return .abandon .timeout
  else
    match binding.expectedStep with
    | none => return .rewind
    | some step =>
        if ← source.stepHolds epsilon { edge := true } step then return .advance
        else if ← .ofExcept (binding.interruptedBy source step) then return .abandon .interrupted
        else return .pass

def judge (epsilon : Float) (source : Source) (binding : Binding) : Inquiry Verdict :=
  match binding.rule.kind, binding.descriptor.steps with
  | .sequence, _ => binding.judgeSequence epsilon source
  | _, [] => .ofExcept (.error .cursorOutOfRange)
  | .combo, step :: _ => binding.judgeCombo epsilon source step
  | .standard, step :: _ => judgeStandard source step

end Binding

end InputBinding
