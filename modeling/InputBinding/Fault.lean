import InputBinding.Descriptor.Defect
import InputBinding.Step
import InputBinding.Json.Display

/-!
Everything that can go wrong while the program runs. A fault has a class and a message. A fault
whose class belongs to one of certain families is recoverable: it stops only the binding that it
arose in.
-/

namespace InputBinding

/-- The classes of errors that a tick survives, each with all the classes that derive from it. -/
inductive Family
  | runtime
  | system
  | value
  | type
  | attribute
  | lookup
  | arithmetic
deriving DecidableEq, Repr

inductive Fault
  | malformed (descriptor : String) (defect : Defect)
  | unsupported (reason : String)
  | negativeDelta
  | negativeEpsilon
  | negativeLimit
  | negativeSize
  | capacityNotPositive
  | emptyAxisName
  | sourceMissing
  | indexOutOfRange
  | cursorOutOfRange
  | mappingOutOfRange (index : Int)
  | axisMissing (name : String)
  | unexpectedStep (step : Step)
  | unknownLabel (label field : String)
  | unreadableNumber (text : String)
  | notConvertible (value : Json)
  | withoutMembers (value : Json)
  | payloadNotObject
  | unsupportedVersion (version : Json)
  | mappingsNotList
  | mappingNotObject
  | unreadableJson
  | nestedTooDeep
  | reservedLogField (name : String)
  | unknownLevel (name : String)
  /-- An error that a source, a sink or a subscriber raises: the name of its class, the families that the
  class belongs to, and its message, where an attempt to make the message may fail in turn. -/
  | foreign (name : String) (families : List Family) (message : Except Fault String)

def AxisTest.inspect (test : AxisTest) : String :=
  let label := test.direction.label
  "AxisTest(name=" ++ Text.quote test.name ++ ", direction=<AxisDirection." ++ label ++ ": '" ++ label ++
    "'>, tolerance=" ++ showFloat test.tolerance ++ ")"

def inspectKey (name : String) : String :=
  "KeyStep(name=" ++ Text.quote name ++ ")"

def Part.inspect : Part → String
  | .key name => inspectKey name
  | .axis test => test.inspect

def Step.inspect : Step → String
  | .single part => part.inspect
  | .combo left right => "ComboStep(left=" ++ left.inspect ++ ", right=" ++ right.inspect ++ ")"
  | .diagonal first second key =>
      let keyText := match key with
        | none => "None"
        | some name => inspectKey name
      "DiagonalAxisStep(first=" ++ first.inspect ++ ", second=" ++ second.inspect ++ ", key=" ++ keyText ++ ")"

namespace Fault

def malformedText (descriptor reason : String) : String :=
  "malformed descriptor " ++ Text.quote descriptor ++ ": " ++ reason

def name : Fault → String
  | malformed _ _ => "MalformedDescriptorError"
  | unsupported _ => "UnsupportedOperationError"
  | negativeDelta | negativeEpsilon | negativeLimit | negativeSize | capacityNotPositive => "ValueError"
  | emptyAxisName | unknownLabel _ _ | unreadableNumber _ | unknownLevel _ => "ValueError"
  | payloadNotObject | unsupportedVersion _ | mappingsNotList | mappingNotObject => "ValueError"
  | sourceMissing => "RuntimeError"
  | indexOutOfRange | cursorOutOfRange | mappingOutOfRange _ => "IndexError"
  | axisMissing _ | reservedLogField _ => "KeyError"
  | unexpectedStep _ | notConvertible _ | nestedTooDeep => "TypeError"
  | withoutMembers _ => "AttributeError"
  | unreadableJson => "JSONDecodeError"
  | foreign name _ _ => name

def families : Fault → List Family
  | malformed _ _ | unreadableJson => [.value]
  | negativeDelta | negativeEpsilon | negativeLimit | negativeSize | capacityNotPositive => [.value]
  | emptyAxisName | unknownLabel _ _ | unreadableNumber _ | unknownLevel _ => [.value]
  | payloadNotObject | unsupportedVersion _ | mappingsNotList | mappingNotObject => [.value]
  | unsupported _ | sourceMissing => [.runtime]
  | indexOutOfRange | cursorOutOfRange | mappingOutOfRange _ => [.lookup]
  | axisMissing _ | reservedLogField _ => [.lookup]
  | unexpectedStep _ | notConvertible _ | nestedTooDeep => [.type]
  | withoutMembers _ => [.attribute]
  | foreign _ families _ => families

def recoverable (fault : Fault) : Bool :=
  !fault.families.isEmpty

def message : Fault → Except Fault String
  | malformed descriptor defect => .ok (malformedText descriptor defect.reason)
  | unsupported reason => .ok reason
  | negativeDelta => .ok "delta_seconds must be >= 0"
  | negativeEpsilon => .ok "neutral_epsilon must be >= 0"
  | negativeLimit => .ok "max_mappings must be >= 0"
  | negativeSize => .ok "size must be >= 0"
  | capacityNotPositive => .ok "capacity must be > 0"
  | emptyAxisName => .ok "axis name must not be empty"
  | sourceMissing => .ok "begin_tick() must be called before evaluating steps"
  | indexOutOfRange => .ok "list index out of range"
  | cursorOutOfRange => .ok "tuple index out of range"
  | mappingOutOfRange index => .ok ("mapping index out of range: " ++ toString index)
  | axisMissing name => .ok (Text.quote name)
  | unexpectedStep step => .ok ("standard mapping holds unexpected step " ++ step.inspect)
  | unknownLabel label field => .ok (Text.quote label ++ " is not a valid " ++ field)
  | unreadableNumber text => .ok ("could not convert string to float: " ++ Text.quote text)
  | notConvertible value =>
      .ok ("float() argument must be a string or a real number, not " ++ Text.quote value.typeName)
  | withoutMembers value => .ok (Text.quote value.typeName ++ " object has no attribute 'get'")
  | payloadNotObject => .ok "mapping records payload must be an object"
  | unsupportedVersion version => .ok ("unsupported mapping records schema_version: " ++ version.inspect)
  | mappingsNotList => .ok "mapping records payload must contain a 'mappings' list"
  | mappingNotObject => .ok "mapping record must be an object"
  | unreadableJson => .ok ""
  | nestedTooDeep => .ok "Recursion limit reached"
  | reservedLogField name => .ok (Text.quote ("Attempt to overwrite " ++ Text.quote name ++ " in LogRecord"))
  | unknownLevel name => .ok ("Unknown level: " ++ Text.quote name)
  | foreign _ _ message => message

def qualifiedName (fault : Fault) : String :=
  if fault.name ∈ ["InputRulesError", "UnsupportedOperationError", "MalformedDescriptorError"] then
    "inputrules.api.errors." ++ fault.name
  else fault.name

end Fault

end InputBinding
