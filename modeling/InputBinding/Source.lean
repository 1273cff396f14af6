import InputBinding.Fault

/-!
What a tick reads its input from: a snapshot of the keyboard and the axes, or anything else that
answers the same questions and may fail on them.
-/

namespace InputBinding

structure Source where
  keyHeld : String → Except Fault Bool
  keyJustPressed : String → Except Fault Bool
  anyKeyJustPressed : Except Fault Bool
  justPressedKeys : Except Fault (List String)
  keyExists : String → Except Fault Bool
  axisExists : String → Except Fault Bool
  axisValue : String → Except Fault Float

/-- The input of one frame. Without known keys every name that is no axis counts as a key. -/
structure Snapshot where
  frame : Int := 0
  pressed : List String := []
  justPressed : List String := []
  justReleased : List String := []
  known : Option (List String) := none
  axes : List (String × Float) := []

namespace Snapshot

def axisValue? (snapshot : Snapshot) (name : String) : Option Float :=
  snapshot.axes.reverse.lookup name

def isAxis (snapshot : Snapshot) (name : String) : Bool :=
  (snapshot.axisValue? name).isSome

def isKey (snapshot : Snapshot) (name : String) : Bool :=
  match snapshot.known with
  | none => !snapshot.isAxis name
  | some names => names.contains name

/-- A snapshot answers every question but for the value of an axis that it lacks. -/
def toSource (snapshot : Snapshot) : Source where
  keyHeld name := .ok (snapshot.pressed.contains name)
  keyJustPressed name := .ok (snapshot.justPressed.contains name)
  anyKeyJustPressed := .ok (!snapshot.justPressed.isEmpty)
  justPressedKeys := .ok snapshot.justPressed
  keyExists name := .ok (snapshot.isKey name)
  axisExists name := .ok (snapshot.isAxis name)
  axisValue name :=
    match snapshot.axisValue? name with
    | some value => .ok value
    | none => .error (.axisMissing name)

end Snapshot

end InputBinding
