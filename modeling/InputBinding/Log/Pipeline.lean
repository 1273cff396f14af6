import InputBinding.Log.Entry
import InputBinding.Settings

/-!
Where log entries go. Without a file they are written to the console at once. With a file they pass
through a queue, which joins message and fault into one message, to the console and then to the file.
-/

namespace InputBinding.Log

structure Plan where
  levelName : String := "INFO"
  consoleForm : String := "text"
  fileForm : String := "json"
  toFile : Bool := false
deriving DecidableEq, Repr

inductive Route
  /-- Nothing is set up: only warnings and worse are shown, as bare messages. -/
  | bare
  | silent
  | direct (console : Form)
  | queued (console file : Form)
deriving DecidableEq, Repr

structure Pipeline where
  level : Int := 30
  route : Route := .bare
  console : String := ""
  file : Option String := none
deriving DecidableEq, Repr

def Form.ofName (name : String) : Form :=
  if Text.lower (Text.trim name) = "json" then .json else .text

def levelOf (name : String) : Except Fault Int :=
  match Text.upper name with
  | "DEBUG" => .ok 10
  | "INFO" => .ok 20
  | "WARN" | "WARNING" => .ok 30
  | "ERROR" => .ok 40
  | "CRITICAL" | "FATAL" => .ok 50
  | "NOTSET" => .ok 0
  | "BASIC_FORMAT" => .error (.unknownLevel "%(levelname)s:%(name)s:%(message)s")
  | _ => .ok 20

namespace Pipeline

def handlers (pipeline : Pipeline) : List String :=
  match pipeline.route with
  | .bare => []
  | .silent => ["NullHandler"]
  | .direct _ => ["StreamHandler"]
  | .queued _ _ => ["QueueHandler"]

def configure (plan : Plan) (pipeline : Pipeline) : Except Fault Pipeline := do
  let level ← levelOf plan.levelName
  let console := Form.ofName plan.consoleForm
  let route := if plan.toFile then .queued console (.ofName plan.fileForm) else .direct console
  return { pipeline with level, route }

/-- Sets up logging to the console, unless somebody else has set up something. -/
def setUp (environment : Environment) (pipeline : Pipeline) : Except Fault Pipeline :=
  match pipeline.route with
  | .bare => pipeline.configure { levelName := Settings.logLevelName environment "INFO" }
  | _ => .ok pipeline

def accepts (level : Int) (pipeline : Pipeline) : Bool :=
  0 < level && pipeline.level ≤ level

def queuedEntry (entry : Entry) : Entry :=
  { entry with message := entry.full, fault := none }

/-- An entry as it reaches the file. Text on the console leaves its time among the fields. -/
def fileEntry (stamp : Stamp) (console : Form) (entry : Entry) : Entry :=
  match console with
  | .json => queuedEntry entry
  | .text => { queuedEntry entry with fields := entry.fields ++ [("asctime", .text stamp.text)] }

def write (codec : Json.Codec) (stamp : Stamp) (entry : Entry) (pipeline : Pipeline) : Pipeline :=
  match pipeline.route with
  | .silent => pipeline
  | .bare =>
      if 30 ≤ entry.level then { pipeline with console := pipeline.console ++ entry.full ++ "\n" }
      else pipeline
  | .direct console => { pipeline with console := pipeline.console ++ entry.line codec stamp console }
  | .queued console file =>
      { pipeline with
        console := pipeline.console ++ (queuedEntry entry).line codec stamp console
        file := some (pipeline.file.getD "" ++ (fileEntry stamp console entry).line codec stamp file) }

def log (codec : Json.Codec) (stamp : Stamp) (request : Request) (pipeline : Pipeline) :
    Except Fault Pipeline := do
  if pipeline.accepts request.level then
    match ← request.entry? with
    | none => return pipeline
    | some entry => return pipeline.write codec stamp entry
  else return pipeline

end Pipeline

end InputBinding.Log
