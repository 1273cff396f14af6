import InputBinding.Binding
import InputBinding.Journal

/-!
The bindings in order. Each rule is read anew when it or the declared axis names change, and the
table never holds more bindings than its limit.
-/

namespace InputBinding

structure Table where
  limit : Nat
  axisNames : Option (List String) := none
  bindings : List Binding := []

/-- The position that an index stands for in a list; negative ones count from the end. -/
def position? (length : Nat) (index : Int) : Option Nat :=
  let shifted := if index < 0 then index + length else index
  if 0 ≤ shifted ∧ shifted < length then some shifted.toNat else none

namespace Table

def size (table : Table) : Nat :=
  table.bindings.length

def rules (table : Table) : List Rule :=
  table.bindings.map (·.rule)

def binding (index : Int) (table : Table) : Except Fault Binding :=
  match (position? table.size index).bind fun position => table.bindings[position]? with
  | some found => .ok found
  | none => .error .indexOutOfRange

def put (position : Nat) (binding : Binding) (table : Table) : Table :=
  { table with bindings := table.bindings.set position binding }

def rest (table : Table) : Table :=
  { table with bindings := table.bindings.map Binding.rest }

def build (axisNames : Option (List String)) (index : Nat) (rule : Rule) : Journaled σ Binding := do
  let built := Binding.ofRule axisNames rule
  match built.defect with
  | none => return built
  | some defect =>
      Journaled.note (.descriptorMalformed index rule.kind defect.reason rule.descriptor)
      Journaled.announce (.malformed index rule.descriptor defect.reason)
      return built

def buildAll (axisNames : Option (List String)) (index : Nat) : List Rule → Journaled σ (List Binding)
  | [] => return []
  | rule :: others => do
      let first ← build axisNames index rule
      let rest ← buildAll axisNames (index + 1) others
      return first :: rest

def load (rules : List Rule) : Journaled Table Unit := do
  let table ← get
  if table.limit < rules.length then Journaled.note (.rulesTruncated rules.length table.limit)
  let bindings ← buildAll table.axisNames 0 (rules.take table.limit)
  modify ({ · with bindings })

def create (limit : Int) (axisNames : Option (List String)) (rules : List Rule) : Journaled σ Table :=
  if limit < 0 then throw .negativeLimit
  else Journaled.construct { limit := limit.toNat, axisNames } (load rules)

/-- Drops bindings from the end or adds unbound ones, up to the limit, and gives the new size. -/
def resize (size : Int) : Journaled Table Nat := do
  if size < 0 then throw .negativeSize
  let table ← get
  let target := min size.toNat table.limit
  if target < size.toNat then Journaled.note (.resizeClamped size table.limit)
  let current := table.size
  let added ← buildAll table.axisNames current (List.replicate (target - current) {})
  modify fun table => { table with bindings := table.bindings.take target ++ added }
  Journaled.note (.resized current target)
  return target

def setRule (index : Int) (rule : Rule) : Journaled Table Unit := do
  let table ← get
  if index < 0 ∨ table.size ≤ index then throw (.mappingOutOfRange index)
  let built ← build table.axisNames index.toNat rule
  modify (put index.toNat built)

def setDescriptor (index : Int) (descriptor : String) : Journaled Table Unit := do
  let found ← Journaled.ofExcept ((← get).binding index)
  setRule index (found.rule.withDescriptor descriptor)

def alter (index : Int) (change : Binding → Except Fault Binding) : Journaled Table Unit := do
  let table ← get
  let changed ← Journaled.ofExcept (table.binding index >>= change)
  match position? table.size index with
  | none => pure ()
  | some position => modify (put position changed)

def setAxisNames (axisNames : Option (List String)) : Journaled Table Unit := do
  modify ({ · with axisNames })
  load (← get).rules

end Table

end InputBinding
