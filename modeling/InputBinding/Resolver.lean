import InputBinding.Step.Holds
import InputBinding.Journal

/-!
Asks the source of the current tick and reports what could not be found. A name is reported once when
it goes missing and once when it turns up again.
-/

namespace InputBinding

structure Resolver where
  epsilon : Float := 0.0
  tick : Int := 0
  source : Option Source := none
  unknown : List Marker := []

namespace Resolver

def create (epsilon : Float) : Except Fault Resolver :=
  if epsilon < 0.0 then .error .negativeEpsilon else .ok { epsilon }

def begin (source : Source) (tick : Int) (resolver : Resolver) : Resolver :=
  { resolver with source := some source, tick }

/-- Reports a name if it has gone missing or turned up since it was last looked up. -/
def report (consultation : Consultation) : Journaled Resolver Unit := do
  let resolver ← get
  let marker := consultation.marker
  let missing := resolver.unknown.contains marker
  if consultation.found && missing then
    set { resolver with unknown := resolver.unknown.filter (· != marker) }
    Journaled.note (.identifierResolved marker.lookup.label marker.name)
  else if !consultation.found && !missing then
    set { resolver with unknown := resolver.unknown ++ [marker] }
    Journaled.note (.identifierUnknown marker.lookup.label marker.name)
    Journaled.announce (.unknownIdentifier resolver.tick marker.lookup.label marker.name)

def reportAll : List Consultation → Journaled Resolver Unit
  | [] => pure ()
  | consultation :: rest => do
      report consultation
      reportAll rest

def ask (inquire : Float → Source → Inquiry α) : Journaled Resolver α := do
  let resolver ← get
  match resolver.source with
  | none => throw .sourceMissing
  | some source =>
      let inquiry := inquire resolver.epsilon source
      reportAll inquiry.consulted
      Journaled.ofExcept inquiry.answer

def keyHolds (edge : Bool) (name : String) : Journaled Resolver Bool :=
  ask fun _ source => source.keyHolds edge name

def sampleAxis (name : String) : Journaled Resolver Float :=
  ask fun _ source => source.sampleAxis name

def axisHolds (test : AxisTest) : Journaled Resolver Bool :=
  ask fun epsilon source => source.axisHolds epsilon test

def hasAxis (name : String) : Journaled Resolver Bool :=
  ask fun _ source => source.findAxis name

def identify (name : String) : Journaled Resolver (Option Nature) :=
  ask fun _ source => source.identify name

def stepHolds (manner : Manner) (step : Step) : Journaled Resolver Bool :=
  ask fun epsilon source => source.stepHolds epsilon manner step

def awaitsKey (step : Step) : Journaled Resolver Bool :=
  match step.bareName? with
  | none => return false
  | some name => ask fun _ source => .ofExcept (source.awaitsKey name)

end Resolver

end InputBinding
