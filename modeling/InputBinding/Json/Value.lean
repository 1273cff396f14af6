/-!
JSON values. Whole numbers and numbers with a fraction are kept apart, and the members of an object
keep their order.
-/

namespace InputBinding

inductive Json
  | null
  | bool (value : Bool)
  | int (value : Int)
  | float (value : Float)
  | text (value : String)
  | list (items : List Json)
  | object (members : List (String × Json))
deriving Inhabited

namespace Json

def insertMember (key : String) (value : Json) : List (String × Json) → List (String × Json)
  | [] => [(key, value)]
  | (other, old) :: rest =>
      if other = key then (key, value) :: rest else (other, old) :: insertMember key value rest

/-- Members as they are read: of several with one key the last value counts, in the first place. -/
def collapseMembers (members : List (String × Json)) : List (String × Json) :=
  members.foldl (fun kept member => insertMember member.1 member.2 kept) []

def field? (members : List (String × Json)) (key : String) : Option Json :=
  members.lookup key

end Json

end InputBinding
