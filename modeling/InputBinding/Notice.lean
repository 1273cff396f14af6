import InputBinding.Rule
import InputBinding.Json.Display
import InputBinding.Decimal.Layout

/-!
What the program writes to its log, as data. Each notice has a severity, the name of the logger
that it goes to, and a text.
-/

namespace InputBinding

inductive Severity
  | debug
  | info
  | warning
deriving DecidableEq, Repr

def Severity.label : Severity → String
  | .debug => "DEBUG"
  | .info => "INFO"
  | .warning => "WARNING"

inductive Notice
  | keyEventIgnored (type key : String)
  | axisEventUndeclared (name : String)
  | identifierResolved (kind name : String)
  | identifierUnknown (kind name : String)
  | rulesTruncated (count limit : Nat)
  | resizeClamped (requested : Int) (limit : Nat)
  | resized (previous size : Nat)
  | descriptorMalformed (index : Int) (kind : Kind) (reason descriptor : String)
  | bindingFault (index : Nat) (descriptor : String)
  | sequenceProgress (index cursor total : Nat) (matched : String)
  | sequenceCompleted (index : Nat) (descriptor : String)
  | sequenceReset (index : Nat) (reason : String) (cursor : Nat) (elapsed : Float)
  | captureRejected (index : Int) (reason : String)
  | captureRestarted (previous index : Int)
  | captureStarted (index : Int) (kind : Kind)
  | captureCancelled (index : Int) (draft : String)
  | captureTargetRemoved (index : Int)
  | captureTargetBecameSequence (index : Int)
  | captureFirstKey (index : Int) (key : String)
  | captureCompleted (index : Int) (descriptor : String)
  | actionUnbound (mapping : Int) (value : Option Float)

namespace Notice

def severity : Notice → Severity
  | keyEventIgnored .. | axisEventUndeclared .. | resized .. | sequenceProgress .. | sequenceReset ..
  | captureFirstKey .. | actionUnbound .. => .debug
  | identifierResolved .. | sequenceCompleted .. | captureRestarted .. | captureStarted ..
  | captureCancelled .. | captureCompleted .. => .info
  | identifierUnknown .. | rulesTruncated .. | resizeClamped .. | descriptorMalformed ..
  | bindingFault .. | captureRejected .. | captureTargetRemoved .. | captureTargetBecameSequence .. => .warning

def logger : Notice → String
  | keyEventIgnored .. | axisEventUndeclared .. => "inputrules.input.state_tracker"
  | identifierResolved .. | identifierUnknown .. => "inputrules.runtime.evaluator"
  | rulesTruncated .. | resizeClamped .. | resized .. | descriptorMalformed .. => "inputrules.runtime.mappings"
  | bindingFault .. | sequenceProgress .. | sequenceCompleted .. | sequenceReset .. => "inputrules.runtime.engine"
  | captureRejected .. | captureRestarted .. | captureStarted .. | captureCancelled ..
  | captureTargetRemoved .. | captureTargetBecameSequence .. | captureFirstKey .. | captureCompleted .. =>
      "inputrules.runtime.recorder"
  | actionUnbound .. => "inputrules.runtime.action_dispatch"

def text : Notice → String
  | keyEventIgnored type key => s!"input_event_ignored type={type} value={key}"
  | axisEventUndeclared name => s!"axis_event_undeclared name={name}"
  | identifierResolved kind name => s!"identifier_resolved kind={kind} name={name}"
  | identifierUnknown kind name =>
      s!"identifier_unknown kind={kind} name={name}; check key names and declared axes"
  | rulesTruncated count limit => s!"mapping_records_truncated count={count} max={limit}"
  | resizeClamped requested limit => s!"mapping_resize_clamped requested={requested} max={limit}"
  | resized previous size => s!"mapping_resized previous={previous} size={size}"
  | descriptorMalformed index kind reason descriptor =>
      s!"descriptor_malformed index={index} type={kind.label} reason={reason} descriptor=" ++
        Text.quote descriptor
  | bindingFault index descriptor => s!"mapping_fault index={index} descriptor=" ++ Text.quote descriptor
  | sequenceProgress index cursor total matched =>
      s!"sequence_progress index={index} cursor={cursor}/{total} matched=" ++ Text.quote matched
  | sequenceCompleted index descriptor =>
      s!"sequence_completed index={index} descriptor=" ++ Text.quote descriptor
  | sequenceReset index reason cursor elapsed =>
      s!"sequence_reset index={index} reason={reason} cursor={cursor} elapsed=" ++ Decimal.fixed 3 elapsed
  | captureRejected index reason => s!"capture_rejected index={index} reason={reason}"
  | captureRestarted previous index => s!"capture_restarted previous={previous} index={index}"
  | captureStarted index kind => s!"capture_started index={index} type={kind.label}"
  | captureCancelled index draft => s!"capture_cancelled index={index} draft=" ++ Text.quote draft
  | captureTargetRemoved index => s!"capture_target_removed index={index}"
  | captureTargetBecameSequence index => s!"capture_target_became_sequence index={index}"
  | captureFirstKey index key => s!"capture_combo_left index={index} key={key}"
  | captureCompleted index descriptor =>
      s!"capture_completed index={index} descriptor=" ++ Text.quote descriptor
  | actionUnbound mapping value =>
      let shown := match value with
        | some number => showFloat number
        | none => "None"
      s!"action_unbound mapping={mapping} value={shown}"

end Notice

end InputBinding
