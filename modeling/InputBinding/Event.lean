import InputBinding.Json.Value

/-!
Events that tell observers what the program does.
-/

namespace InputBinding

structure Event where
  tick : Int
  category : String
  name : String
  level : String := "info"
  mapping : Option Int := none
  value : Json := .null
  metadata : List (String × Json) := []

def Event.unknownIdentifier (tick : Int) (kind name : String) : Event where
  tick
  category := "mapping"
  name := "mapping.unknown_identifier"
  level := "warning"
  value := .text name
  metadata := [("kind", .text kind)]

def Event.malformed (mapping : Int) (descriptor reason : String) : Event where
  tick := 0
  category := "mapping"
  name := "mapping.malformed"
  level := "warning"
  mapping := some mapping
  value := .text descriptor
  metadata := [("reason", .text reason)]

def Event.fault (tick mapping : Int) (name message : String) : Event where
  tick
  category := "mapping"
  name := "mapping.fault"
  level := "error"
  mapping := some mapping
  value := .text name
  metadata := [("error", .text message)]

def Event.sequence (tick mapping : Int) (name : String) (value : Json) : Event where
  tick
  category := "sequence"
  name
  mapping := some mapping
  value

def Event.sequenceAdvanced (tick mapping : Int) (cursor : Nat) : Event :=
  .sequence tick mapping "sequence.advanced" (.int cursor)

def Event.sequenceCompleted (tick mapping : Int) (matched : String) : Event :=
  .sequence tick mapping "sequence.completed" (.text matched)

def Event.sequenceReset (tick mapping : Int) (reason : String) : Event :=
  .sequence tick mapping "sequence.reset" (.text reason)

def Event.capture (tick mapping : Int) (name : String) (value : Json) : Event where
  tick
  category := "capture"
  name
  mapping := some mapping
  value

def Event.captureStarted (tick mapping : Int) : Event :=
  .capture tick mapping "capture.started" .null

def Event.captureRejected (tick mapping : Int) (reason : String) : Event :=
  .capture tick mapping "capture.rejected" (.text reason)

def Event.captureCompleted (tick mapping : Int) (descriptor : String) : Event :=
  .capture tick mapping "capture.completed" (.text descriptor)

end InputBinding
