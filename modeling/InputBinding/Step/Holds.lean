import InputBinding.Inquiry

/-!
When a step holds on a source. Names are resolved anew each time: a bare name is a key if the source
has such a key, otherwise an axis if it has such an axis. A step of several parts holds if all of
them do, and stops at the first that does not.
-/

namespace InputBinding

/-- Whether an axis value has the required sign and at least the given magnitude. A neutral axis
stays within epsilon of zero, whatever the magnitude asked for. -/
def Direction.admits (epsilon tolerance : Float) (direction : Direction) (value : Float) : Bool :=
  match direction with
  | .neutral => value.abs ≤ epsilon
  | .positive => !(value == 0.0 || value.abs < tolerance) && 0.0 < value
  | .negative => !(value == 0.0 || value.abs < tolerance) && value < 0.0

inductive Nature
  | key
  | axis
deriving DecidableEq, Repr

/-- How steps are tested. An edge test wants each key to have gone down in this very tick; the bare
direction and tolerance are for bare names that turn out to be axes. -/
structure Manner where
  edge : Bool := false
  bareDirection : Direction := .neutral
  bareTolerance : Float := 0.0
deriving DecidableEq, Repr

namespace Source

def findKey (source : Source) (name : String) : Inquiry Bool := do
  let found ← .ofExcept (source.keyExists name)
  .consult .key name found

def findAxis (source : Source) (name : String) : Inquiry Bool := do
  let found ← .ofExcept (source.axisExists name)
  .consult .axis name found

def identify (source : Source) (name : String) : Inquiry (Option Nature) := do
  if ← .ofExcept (source.keyExists name) then
    let _ ← .consult .identifier name true
    return some .key
  else
    let found ← .ofExcept (source.axisExists name)
    let _ ← .consult .identifier name found
    return if found then some .axis else none

def keyDown (source : Source) (edge : Bool) (name : String) : Inquiry Bool :=
  .ofExcept (if edge then source.keyJustPressed name else source.keyHeld name)

def keyHolds (source : Source) (edge : Bool) (name : String) : Inquiry Bool := do
  if ← source.findKey name then source.keyDown edge name else return false

def sampleAxis (source : Source) (name : String) : Inquiry Float := do
  if ← source.findAxis name then .ofExcept (source.axisValue name) else return 0.0

def axisHolds (source : Source) (epsilon : Float) (test : AxisTest) : Inquiry Bool := do
  if ← source.findAxis test.name then
    let value ← .ofExcept (source.axisValue test.name)
    return test.direction.admits epsilon test.tolerance value
  else return false

def partHolds (source : Source) (epsilon : Float) (manner : Manner) : Part → Inquiry Bool
  | .axis test => source.axisHolds epsilon test
  | .key name => do
      match ← source.identify name with
      | some .key => source.keyDown manner.edge name
      | some .axis => source.axisHolds epsilon ⟨name, manner.bareDirection, manner.bareTolerance⟩
      | none => return false

/-- Whether the suffix of a combo stands behind the wrong name: behind a key, beside an axis. -/
def isSwapped (source : Source) (left right : String) : Except Fault Bool := do
  if ← source.axisExists right then return false
  if !(← source.keyExists right) then return false
  if !(← source.axisExists left) then return false
  return !(← source.keyExists left)

def orient (source : Source) : Part → Part → Inquiry (List Part)
  | .key left, .axis right => do
      if ← .ofExcept (source.isSwapped left right.name) then
        return [.axis { right with name := left }, .key right.name]
      else return [.key left, .axis right]
  | left, right => return [left, right]

def partsOf (source : Source) : Step → Inquiry (List Part)
  | .single part => return [part]
  | .combo left right => source.orient left right
  | .diagonal first second key =>
      return [.axis first, .axis second] ++ (key.map Part.key).toList

def stepHolds (source : Source) (epsilon : Float) (manner : Manner) (step : Step) : Inquiry Bool := do
  Inquiry.all (source.partHolds epsilon manner) (← source.partsOf step)

/-- Whether a bare name waits for a key: it names one, or at least no axis. -/
def awaitsKey (source : Source) (name : String) : Except Fault Bool := do
  if ← source.keyExists name then return true
  return !(← source.axisExists name)

end Source

def Step.bareName? : Step → Option String
  | .single (.key name) => some name
  | _ => none

end InputBinding
