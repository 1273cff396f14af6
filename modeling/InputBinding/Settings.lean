import InputBinding.Decimal.Reading
import InputBinding.Text.Blank
import InputBinding.Text.Case

/-!
Settings from environment variables. A variable that is missing or cannot be read counts as its
default, and a number below its minimum as the minimum.
-/

namespace InputBinding

abbrev Environment := List (String × String)

structure Settings where
  maxBindings : Int := 50
  epsilon : Float := 0.0
  longestDelta : Float := 0.25
  tracing : Bool := false
  eventsEnabled : Bool := true
  eventCapacity : Int := 2000
deriving Repr

namespace Settings

def readFlag (raw : Option String) (default : Bool) : Bool :=
  match raw with
  | none => default
  | some text =>
      let word := Text.lower (Text.trim text)
      if word ∈ ["1", "true", "yes", "on"] then true
      else if word ∈ ["0", "false", "no", "off"] then false
      else default

def readInt (raw : Option String) (default : Int) (minimum : Option Int) : Int :=
  let value := (raw.bind fun text => Decimal.readInt? (Text.trim text)).getD default
  match minimum with
  | none => value
  | some least => max least value

/-- What is not a number counts as the minimum. -/
def readFloat (raw : Option String) (default : Float) (minimum : Option Float) : Float :=
  let value := (raw.bind fun text => Decimal.readFloat? (Text.trim text)).getD default
  match minimum with
  | none => value
  | some least => if least < value then value else least

def load (environment : Environment) : Settings where
  maxBindings := readInt (environment.lookup "INPUTRULES_MAX_MAPPINGS") 50 (some 0)
  epsilon := readFloat (environment.lookup "INPUTRULES_AXIS_NEUTRAL_EPSILON") 0.0 (some 0.0)
  longestDelta := readFloat (environment.lookup "INPUTRULES_MAX_DELTA_SECONDS") 0.25 (some 0.0)
  tracing := readFlag (environment.lookup "INPUTRULES_TRACE") false
  eventsEnabled := readFlag (environment.lookup "INPUTRULES_DIAGNOSTICS_ENABLED") true
  eventCapacity := readInt (environment.lookup "INPUTRULES_DIAGNOSTICS_BUFFER_CAP") 2000 (some 100)

/-- The name of the log level. The first variable counts even if it is empty, the second does not. -/
def logLevelName (environment : Environment) (default : String) : String :=
  let chosen := match environment.lookup "INPUTRULES_LOG_LEVEL" with
    | some name => name
    | none =>
        match environment.lookup "LOG_LEVEL" with
        | some name => if name.isEmpty then default else name
        | none => default
  Text.upper (Text.trim chosen)

end Settings

end InputBinding
