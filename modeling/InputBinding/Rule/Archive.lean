import InputBinding.Rule.Fields
import InputBinding.Json.Codec

/-!
Saved lists of rules: an object with a version and the rules in order, in the texts of some codec.
-/

namespace InputBinding.Archive

def currentVersion : Int := 1

/-- Whether a value equals the current version; truth and numbers with a fraction of zero count. -/
def isCurrent : Json → Bool
  | .int value => value = currentVersion
  | .float value => value == 1.0
  | .bool value => value
  | _ => false

def document (rules : List Rule) : Json :=
  .object [
    ("schema_version", .int currentVersion),
    ("mappings", .list (rules.map fun rule => .object rule.toMembers))]

def ruleOf : Json → Except Fault Rule
  | .object members => Rule.ofMembers members
  | _ => .error .mappingNotObject

def rulesOf : Json → Except Fault (List Rule)
  | .object members =>
      let version := (Json.field? members "schema_version").getD .null
      if !isCurrent version then .error (.unsupportedVersion version)
      else
        match Json.field? members "mappings" with
        | some (.list items) => items.mapM ruleOf
        | _ => .error .mappingsNotList
  | _ => .error .payloadNotObject

variable (codec : Json.Codec)

def save (pretty : Bool) (rules : List Rule) : Except Fault String :=
  codec.write pretty (document rules)

def load (text : String) : Except Fault (List Rule) := do
  rulesOf (← codec.readText text)

def loadBytes (bytes : ByteArray) : Except Fault (List Rule) := do
  rulesOf (← codec.readBytes bytes)

end InputBinding.Archive
