import InputBinding.Json.Codec
import InputBinding.Log.Template

/-!
Log entries and the two forms in which they are written: a line of text or a JSON object.
-/

namespace InputBinding.Log

structure Request where
  logger : String
  level : Int
  template : String
  arguments : List Json := []
  extra : List (String × Json) := []
  fault : Option Fault := none

/-- What is written about a request. The times are left to the caller. -/
structure Entry where
  logger : String
  level : Int
  message : String
  fields : List (String × Json) := []
  fault : Option String := none

def takenNames : List String := [
  "name", "msg", "args", "levelname", "levelno", "pathname", "filename", "module", "exc_info", "exc_text",
  "stack_info", "lineno", "funcName", "created", "msecs", "relativeCreated", "thread", "threadName",
  "processName", "process", "message", "asctime"]

def hiddenNames : List String := ["taskName"]

def faultText (fault : Fault) : String :=
  match fault.message with
  | .ok "" => fault.qualifiedName
  | .ok message => fault.qualifiedName ++ ": " ++ message
  | .error _ => fault.qualifiedName ++ ": <exception str() failed>"

def Request.entry? (request : Request) : Except Fault (Option Entry) :=
  match request.extra.find? fun (name, _) => takenNames.contains name with
  | some (name, _) => .error (.reservedLogField name)
  | none =>
      .ok ((Template.fill? request.template request.arguments).map fun message => {
        logger := request.logger
        level := request.level
        message
        fields := request.extra.filter fun (name, _) => !hiddenNames.contains name
        fault := request.fault.map faultText })

def levelName (level : Int) : String :=
  if level = 10 then "DEBUG"
  else if level = 20 then "INFO"
  else if level = 30 then "WARNING"
  else if level = 40 then "ERROR"
  else if level = 50 then "CRITICAL"
  else "Level " ++ toString level

structure Stamp where
  text : String
  json : String

def withFault (text : String) (fault : Option String) : String :=
  match fault with
  | none => text
  | some shown =>
      if text.toList.getLast? = some '\n' then text ++ shown else text ++ "\n" ++ shown

def Entry.full (entry : Entry) : String :=
  withFault entry.message entry.fault

inductive Form
  | text
  | json
deriving DecidableEq, Repr

def Entry.text (stamp : Stamp) (entry : Entry) : String :=
  let line := stamp.text ++ " " ++ levelName entry.level ++ " " ++ entry.logger ++ ": " ++ entry.message
  withFault line entry.fault

def Entry.json (codec : Json.Codec) (stamp : Stamp) (entry : Entry) : Except Fault String :=
  let fields := if entry.fields.isEmpty then []
    else [("fields", Json.object (entry.fields.map fun (name, value) => (name, .text value.display)))]
  let fault := match entry.fault with
    | none => []
    | some shown => [("exc_info", Json.text shown)]
  let members := [
    ("ts", Json.text stamp.json), ("level", .text (levelName entry.level)),
    ("logger", .text entry.logger), ("msg", .text entry.message)]
  codec.write false (.object (members ++ fields ++ fault))

def Entry.render (codec : Json.Codec) (stamp : Stamp) (entry : Entry) : Form → Except Fault String
  | .text => .ok (entry.text stamp)
  | .json => entry.json codec stamp

/-- The line of an entry. One that cannot be written is left out. -/
def Entry.line (codec : Json.Codec) (stamp : Stamp) (entry : Entry) (form : Form) : String :=
  match entry.render codec stamp form with
  | .ok text => text ++ "\n"
  | .error _ => ""

end InputBinding.Log
