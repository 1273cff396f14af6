/-!
Frame times from the readings of a clock. The time between two frames is never negative and never
longer than a bound, however the readings jump.
-/

namespace InputBinding

structure Clock where
  longest : Float := 0.25
  last : Option Float := none
  elapsed : Float := 0.0
  frame : Int := -1
deriving Repr

structure FrameTime where
  frame : Int
  delta : Float
  elapsed : Float
deriving Repr

/-- The time between two readings, at least zero and at most the bound. What is not a number counts
as zero. -/
def boundedDelta (longest before now : Float) : Float :=
  let passed := if 0.0 < now - before then now - before else 0.0
  if longest < passed then longest else passed

def Clock.next (now : Float) (clock : Clock) : FrameTime × Clock :=
  let delta := match clock.last with
    | none => 0.0
    | some before => boundedDelta clock.longest before now
  let elapsed := clock.elapsed + delta
  let frame := clock.frame + 1
  (⟨frame, delta, elapsed⟩, { clock with last := some now, elapsed, frame })

end InputBinding
