import InputBinding.Action
import InputBinding.Binding.Verdict
import InputBinding.Capture
import InputBinding.Resolver

/-!
One tick: every binding is judged once, in order, and those that fire invoke their actions. A
recoverable fault stops only the binding that it arose in. While a capture is open, a tick in which
keys go down belongs to the capture alone.
-/

namespace InputBinding

structure Matcher where
  table : Table
  capture : Option Capture := none
  resolver : Resolver := {}
  tracing : Bool := false
  frame : Int := -1
  invocations : Array Invocation := #[]

structure Report where
  frame : Int
  fired : List Invocation := []
  faulted : List Nat := []
  captured : Bool := false
deriving DecidableEq, Repr

structure Outcome where
  fired : Option Invocation := none
  faulted : Bool := false
deriving DecidableEq, Repr

def Report.add (index : Nat) (outcome : Outcome) (report : Report) : Report :=
  { report with
    fired := outcome.fired.toList ++ report.fired
    faulted := (if outcome.faulted then [index] else []) ++ report.faulted }

structure Frame where
  tick : Int
  delta : Float
  tracing : Bool
  sink : Sink

structure Turn where
  binding : Binding
  resolver : Resolver

namespace Turn

def rest : Journaled Turn Unit :=
  modify fun turn => { turn with binding := turn.binding.rest }

def abandon (index : Nat) (tick : Int) (reason : Abandonment) : Journaled Turn Unit := do
  let binding := (← get).binding
  Journaled.note (.sequenceReset index reason.label binding.cursor binding.elapsed)
  Journaled.announce (.sequenceReset tick index reason.label)
  rest

def conclude (index : Nat) (frame : Frame) (binding : Binding) : Journaled Turn Bool := do
  if binding.complete then
    Journaled.note (.sequenceCompleted index binding.rule.descriptor)
    Journaled.announce (.sequenceCompleted frame.tick index binding.matchedText)
    rest
    return true
  else
    Journaled.announce (.sequenceAdvanced frame.tick index binding.cursor)
    return false

def advance (index : Nat) (frame : Frame) : Journaled Turn Bool := do
  let turn ← get
  let binding ← Journaled.ofExcept turn.binding.advance
  set { turn with binding }
  if frame.tracing then
    Journaled.note (.sequenceProgress index binding.cursor binding.descriptor.steps.length binding.matchedText)
  conclude index frame binding

def carryOut (index : Nat) (frame : Frame) : Verdict → Journaled Turn (Option Invocation)
  | .pass => return none
  | .fire value => return some { mapping := index, value }
  | .advance => do
      return if ← advance index frame then some { mapping := index } else none
  | .abandon reason => do
      abandon index frame.tick reason
      return none
  | .rewind => do
      rest
      return none

def inquire (inquiry : Float → Source → Inquiry α) : Journaled Turn α :=
  Journaled.focus Turn.resolver (fun resolver turn => { turn with resolver }) (Resolver.ask inquiry)

def take (index : Nat) (frame : Frame) : Journaled Turn (Option Invocation) := do
  modify fun turn => { turn with binding := turn.binding.spend frame.delta }
  let binding := (← get).binding
  carryOut index frame (← inquire fun epsilon source => binding.judge epsilon source)

end Turn

namespace Matcher

def onTurn (index : Nat) (binding : Binding) (action : Journaled Turn α) : Journaled Matcher α :=
  Journaled.focus (fun matcher => ⟨binding, matcher.resolver⟩)
    (fun turn matcher => { matcher with
      table := matcher.table.put index turn.binding
      resolver := turn.resolver })
    action

def invoke (sink : Sink) (invocation : Invocation) : Journaled Matcher Unit := do
  let response := sink invocation
  modify fun matcher => { matcher with invocations := matcher.invocations.push invocation }
  Journaled.noteAll response.notices
  match response.fault with
  | none => pure ()
  | some fault => throw fault

/-- Lets a fault stop a single binding, which returns to rest. A fault that is not recoverable stops
the tick, and so does one that cannot be reported, because its message cannot be made or because a
subscriber fails on the report. -/
def contain (index : Nat) (tick : Int) (fault : Fault) : Journaled Matcher Unit := do
  if !fault.recoverable then throw fault
  match (← get).table.bindings[index]? with
  | none => pure ()
  | some binding =>
      Journaled.note (.bindingFault index binding.rule.descriptor)
      modify fun matcher => { matcher with table := matcher.table.put index binding.rest }
  let message ← Journaled.ofExcept fault.message
  Journaled.announce (.fault tick index fault.name message)

def matchBinding (index : Nat) (binding : Binding) (frame : Frame) : Journaled Matcher Outcome := do
  match ← Journaled.attempt (onTurn index binding (Turn.take index frame)) with
  | .error fault =>
      contain index frame.tick fault
      return { faulted := true }
  | .ok none => return {}
  | .ok (some invocation) =>
      match ← Journaled.attempt (invoke frame.sink invocation) with
      | .ok () => return { fired := some invocation }
      | .error fault =>
          contain index frame.tick fault
          return { fired := some invocation, faulted := true }

def matchAt (index : Nat) (frame : Frame) : Journaled Matcher Outcome := do
  match (← get).table.bindings[index]? with
  | none => return {}
  | some binding => if binding.inert then return {} else matchBinding index binding frame

def matchAll (frame : Frame) : List Nat → Journaled Matcher Report
  | [] => return { frame := frame.tick }
  | index :: others => do
      let outcome ← matchAt index frame
      let report ← matchAll frame others
      return report.add index outcome

def feedKeys (keys : List String) (tick : Int) : Journaled Matcher Bool := do
  match (← get).capture with
  | none => return false
  | some capture =>
      Journaled.focus (fun matcher => (matcher.table, capture))
        (fun state matcher => { matcher with table := state.1, capture := some state.2 })
        (Capture.feed keys tick)

def feedCapture (source : Source) (tick : Int) : Journaled Matcher Bool := do
  if !(← get).capture.any Capture.isOpen then return false
  let keys ← Journaled.ofExcept source.justPressedKeys
  if keys.isEmpty then return false
  let _ ← feedKeys keys tick
  return true

/-- Runs one tick. Without a frame number the tick takes the next one. -/
def tick (sink : Sink) (source : Source) (delta : Float) (frame? : Option Int) : Journaled Matcher Report := do
  if delta < 0.0 then throw .negativeDelta
  let number := frame?.getD ((← get).frame + 1)
  modify ({ · with frame := number })
  if ← feedCapture source number then return { frame := number, captured := true }
  else
    modify fun matcher => { matcher with resolver := matcher.resolver.begin source number }
    let matcher ← get
    matchAll ⟨number, delta, matcher.tracing, sink⟩ (List.range matcher.table.size)

def onTable (action : Journaled Table α) : Journaled Matcher α :=
  Journaled.focus Matcher.table (fun table matcher => { matcher with table }) action

def onCapture (action : Table → Journaled Capture Unit) : Journaled Matcher Unit := do
  let matcher ← get
  match matcher.capture with
  | none => pure ()
  | some capture =>
      Journaled.focus (fun _ => capture) (fun capture matcher => { matcher with capture := some capture })
        (action matcher.table)

def beginCapture (index tick : Int) : Journaled Matcher Unit :=
  onCapture fun table => Capture.begin table index tick

def cancelCapture : Journaled Matcher Unit :=
  onCapture fun _ => Capture.cancel

def rest : Journaled Matcher Unit :=
  modify fun matcher => { matcher with table := matcher.table.rest }

end Matcher

end InputBinding
