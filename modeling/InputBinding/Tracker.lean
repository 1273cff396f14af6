import InputBinding.Source
import InputBinding.Notice
import InputBinding.Text.Blank

/-!
Raw key and axis events, gathered between frames and folded into one snapshot per frame. Axes have
to be declared before their values count.
-/

namespace InputBinding

structure KeyEvent where
  type : String
  key : String
deriving DecidableEq, Repr

def KeyEvent.down (key : String) : KeyEvent := ⟨"key_down", key⟩

def KeyEvent.up (key : String) : KeyEvent := ⟨"key_up", key⟩

structure AxisEvent where
  name : String
  value : Float

inductive InputEvent
  | key (event : KeyEvent)
  | axis (event : AxisEvent)
  | unknown

structure Tracker where
  keyEvents : List KeyEvent := []
  axisEvents : List AxisEvent := []
  pressed : List String := []
  axes : List (String × Float) := []
  known : Option (List String) := none

namespace Tracker

def declareIn (name : String) (axes : List (String × Float)) : List (String × Float) :=
  if axes.any (·.1 == name) then axes else axes ++ [(name, 0.0)]

def create (axisNames : List String) (keyNames : Option (List String)) : Tracker where
  axes := axisNames.foldl (fun axes name => declareIn name axes) []
  known := keyNames

def axisNames (tracker : Tracker) : List String :=
  tracker.axes.map Prod.fst

/-- Declares an axis, which rests at zero until an event says otherwise. -/
def declare (name : String) (tracker : Tracker) : Except Fault Tracker :=
  if (Text.trim name).isEmpty then .error .emptyAxisName
  else .ok { tracker with axes := declareIn (Text.trim name) tracker.axes }

def addKeyEvent (event : KeyEvent) (tracker : Tracker) : Tracker :=
  { tracker with keyEvents := tracker.keyEvents ++ [event] }

def addAxisEvent (event : AxisEvent) (tracker : Tracker) : Tracker :=
  { tracker with axisEvents := tracker.axisEvents ++ [event] }

def press (key : String) (tracker : Tracker) : Tracker :=
  tracker.addKeyEvent (.down key)

def release (key : String) (tracker : Tracker) : Tracker :=
  tracker.addKeyEvent (.up key)

def setAxis (name : String) (value : Float) (tracker : Tracker) : Tracker :=
  tracker.addAxisEvent ⟨name, value⟩

def consumeOne (tracker : Tracker) : InputEvent → Tracker
  | .key event => tracker.addKeyEvent event
  | .axis event => tracker.addAxisEvent event
  | .unknown => tracker

def consume (events : List InputEvent) (tracker : Tracker) : Tracker :=
  events.foldl consumeOne tracker

def drainKeys (tracker : Tracker) : List KeyEvent × Tracker :=
  (tracker.keyEvents, { tracker with keyEvents := [] })

def drainAxes (tracker : Tracker) : List AxisEvent × Tracker :=
  (tracker.axisEvents, { tracker with axisEvents := [] })

structure Keys where
  pressed : List String
  justPressed : List String := []
  justReleased : List String := []

def addOnce (key : String) (keys : List String) : List String :=
  if keys.contains key then keys else keys ++ [key]

/-- A key that is pressed already cannot go down, one that is not cannot go up. -/
def Keys.step (keys : Keys) (event : KeyEvent) : Keys :=
  let key := Text.trim event.key
  if key.isEmpty then keys
  else if event.type = "key_down" then
    if keys.pressed.contains key then keys
    else { keys with pressed := keys.pressed ++ [key], justPressed := addOnce key keys.justPressed }
  else if event.type = "key_up" then
    if keys.pressed.contains key then
      { keys with pressed := keys.pressed.filter (· != key), justReleased := addOnce key keys.justReleased }
    else keys
  else keys

def applyAxis (axes : List (String × Float)) (event : AxisEvent) : List (String × Float) :=
  axes.map fun (name, value) => if name = event.name then (name, event.value) else (name, value)

def build (frame : Int) (tracker : Tracker) : Snapshot × Tracker :=
  let keys := tracker.keyEvents.foldl Keys.step { pressed := tracker.pressed }
  let axes := tracker.axisEvents.foldl applyAxis tracker.axes
  ({ frame
     pressed := keys.pressed
     justPressed := keys.justPressed
     justReleased := keys.justReleased
     known := tracker.known
     axes },
   { tracker with keyEvents := [], axisEvents := [], pressed := keys.pressed, axes })

def keyNotice? (event : KeyEvent) : Option Notice :=
  let key := Text.trim event.key
  if key.isEmpty || event.type = "key_down" || event.type = "key_up" then none
  else some (.keyEventIgnored event.type key)

def axisNotice? (tracker : Tracker) (event : AxisEvent) : Option Notice :=
  if tracker.axes.any (·.1 == event.name) then none else some (.axisEventUndeclared event.name)

/-- What the next frame will have to say about events that it ignores. -/
def notices (tracker : Tracker) : List Notice :=
  tracker.keyEvents.filterMap keyNotice? ++ tracker.axisEvents.filterMap tracker.axisNotice?

end Tracker

end InputBinding
