import InputBinding.Table

/-!
Binding by pressing keys. An open capture turns the next keys that go down into the descriptor of one
rule: a standard rule takes the first key, a combo the first two that differ. Keys that go down
together are taken in the order of their names.
-/

namespace InputBinding

structure Capture where
  target : Option Int := none
  firstKey : Option String := none
deriving DecidableEq, Repr

namespace Capture

def isOpen (capture : Capture) : Bool :=
  capture.target.isSome

def draft (capture : Capture) : String :=
  match capture.firstKey with
  | none => ""
  | some key => key ++ "+"

def sequenceRefusal : String :=
  "sequence descriptors must be typed in, e.g. " ++ Text.quote "W, W, S, S, A, D, A, D, B, A, Return"

def axisRefusal : String :=
  "axis mappings must name their axis by hand"

def refusal? (rule : Rule) : Option String :=
  if rule.kind = .sequence then some sequenceRefusal
  else if rule.category = .axis then some axisRefusal
  else none

/-- Opens a capture for the rule at an index. A refused one leaves an open capture as it is. -/
def begin (table : Table) (index tick : Int) : Journaled Capture Unit := do
  let binding ← Journaled.ofExcept (table.binding index)
  match refusal? binding.rule with
  | some reason =>
      Journaled.note (.captureRejected index reason)
      Journaled.announce (.captureRejected tick index reason)
      throw (.unsupported reason)
  | none =>
      match (← get).target with
      | some previous => Journaled.note (.captureRestarted previous index)
      | none => pure ()
      set ({ target := some index } : Capture)
      Journaled.note (.captureStarted index binding.rule.kind)
      Journaled.announce (.captureStarted tick index)

def cancel : Journaled Capture Unit := do
  let capture ← get
  match capture.target with
  | none => pure ()
  | some index =>
      Journaled.note (.captureCancelled index capture.draft)
      set ({} : Capture)

def onTable (action : Journaled Table α) : Journaled (Table × Capture) α :=
  Journaled.focus Prod.fst (fun table state => (table, state.2)) action

def onCapture (action : Journaled Capture α) : Journaled (Table × Capture) α :=
  Journaled.focus Prod.snd (fun capture state => (state.1, capture)) action

def finish (index tick : Int) (descriptor : String) : Journaled (Table × Capture) Unit := do
  onTable (Table.setDescriptor index descriptor)
  onCapture (set ({} : Capture))
  Journaled.note (.captureCompleted index descriptor)
  Journaled.announce (.captureCompleted tick index descriptor)

def takeKeys (kind : Kind) (index tick : Int) : List String → Journaled (Table × Capture) Bool
  | [] => return false
  | key :: others => do
      if kind = .standard then
        finish index tick key
        return true
      else
        match (← get).2.firstKey with
        | none =>
            onCapture (modify ({ · with firstKey := some key }))
            Journaled.note (.captureFirstKey index key)
            takeKeys kind index tick others
        | some first =>
            if key = first then takeKeys kind index tick others
            else
              finish index tick (first ++ "+" ++ key)
              return true

/-- The names of the keys in a batch, sorted, without blanks around them; blank names are dropped. -/
def keysOf (batch : List String) : List String :=
  ((batch.eraseDups.mergeSort fun left right => decide (left ≤ right)).map Text.trim).filter
    fun key => !key.isEmpty

def abandon (notice : Notice) : Journaled (Table × Capture) Bool := do
  Journaled.note notice
  onCapture cancel
  return false

def feed (batch : List String) (tick : Int) : Journaled (Table × Capture) Bool := do
  let (table, capture) ← get
  match capture.target with
  | none => return false
  | some index =>
      if (table.size : Int) ≤ index then abandon (.captureTargetRemoved index)
      else
        let binding ← Journaled.ofExcept (table.binding index)
        if binding.isSequence then abandon (.captureTargetBecameSequence index)
        else takeKeys binding.rule.kind index tick (keysOf batch)

end Capture

end InputBinding
