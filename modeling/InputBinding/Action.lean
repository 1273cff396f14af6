import InputBinding.Notice
import InputBinding.Fault

/-!
What happens when a binding fires: an action is invoked with the index of the binding and, for an
axis, with its value.
-/

namespace InputBinding

structure Invocation where
  mapping : Nat
  value : Option Float := none
deriving DecidableEq, Repr

structure Response where
  notices : List Notice := []
  fault : Option Fault := none

abbrev Sink := Invocation → Response

structure Dispatcher where
  buttons : List Int := []
  axes : List Int := []
deriving DecidableEq, Repr

inductive Call
  | button (mapping : Int)
  | axis (mapping : Int) (value : Float)
deriving DecidableEq, Repr

namespace Dispatcher

/-- A value goes to the axis handler; without one, or without a value, the button handler is called. -/
def call? (dispatcher : Dispatcher) (mapping : Int) (value : Option Float) : Option Call :=
  let button := if dispatcher.buttons.contains mapping then some (.button mapping) else none
  match value with
  | none => button
  | some number => if dispatcher.axes.contains mapping then some (.axis mapping number) else button

def toSink (dispatcher : Dispatcher) : Sink := fun invocation =>
  match dispatcher.call? invocation.mapping invocation.value with
  | some _ => {}
  | none => { notices := [.actionUnbound invocation.mapping invocation.value] }

end Dispatcher

end InputBinding
