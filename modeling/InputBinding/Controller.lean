import InputBinding.Clock
import InputBinding.Matcher
import InputBinding.Settings

/-!
One set of rules with everything that it takes to run it, a frame at a time.
-/

namespace InputBinding

structure Controller where
  settings : Settings
  matcher : Matcher
  clock : Clock

namespace Controller

def create (settings : Settings) (axisNames : Option (List String)) (rules : List Rule) :
    Journaled σ Controller := do
  Journaled.openChannel (Channel.create settings.eventCapacity settings.eventsEnabled [])
  let table ← Table.create settings.maxBindings axisNames rules
  let resolver ← Journaled.ofExcept (Resolver.create settings.epsilon)
  return {
    settings
    matcher := { table, capture := some {}, resolver, tracing := settings.tracing }
    clock := { longest := settings.longestDelta } }

def onMatcher (action : Journaled Matcher α) : Journaled Controller α :=
  Journaled.focus Controller.matcher (fun matcher controller => { controller with matcher }) action

def update (sink : Sink) (now : Float) (source : Source) : Journaled Controller Report := do
  let (time, clock) := (← get).clock.next now
  modify ({ · with clock })
  onMatcher (Matcher.tick sink source time.delta (some time.frame))

def beginCapture (index : Int) : Journaled Controller Unit :=
  onMatcher (Matcher.beginCapture index 0)

/-- Replaces all rules and gives up an open capture. -/
def load (rules : List Rule) : Journaled Controller Unit := do
  onMatcher Matcher.cancelCapture
  onMatcher (Matcher.onTable (Table.load rules))

end Controller

end InputBinding
