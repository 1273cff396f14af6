import InputBinding.Fault

/-!
A buffer that keeps the newest items. The slots fill up first; from then on the write index goes
round them and each new item takes the slot of the oldest.
-/

namespace InputBinding

/-- A slot may be written without an item, and is then passed over when the items are listed. -/
structure Ring (α : Type) where
  capacity : Nat
  slots : Array (Option α) := #[]
  writeIndex : Nat := 0

namespace Ring

/-- Only the check of the capacity is modelled. The memory for the slots is not: they are taken as they are needed. -/
def create (capacity : Int) : Except Fault (Ring α) :=
  if capacity ≤ 0 then .error .capacityNotPositive else .ok { capacity := capacity.toNat }

def size (ring : Ring α) : Nat :=
  ring.slots.size

def isFull (ring : Ring α) : Bool :=
  decide (ring.capacity ≤ ring.slots.size)

def write (slot : Option α) (ring : Ring α) : Ring α :=
  { ring with
    slots := if ring.isFull then ring.slots.setIfInBounds ring.writeIndex slot else ring.slots.push slot
    writeIndex := (ring.writeIndex + 1) % ring.capacity }

def push (item : α) (ring : Ring α) : Ring α :=
  ring.write (some item)

def clear (ring : Ring α) : Ring α :=
  { capacity := ring.capacity }

def start (ring : Ring α) : Nat :=
  if ring.isFull then ring.writeIndex else 0

def toList (ring : Ring α) : List α :=
  (List.range ring.size).filterMap fun offset =>
    (ring.slots[(ring.start + offset) % ring.capacity]?).join

/-- The newest items, as many as the limit says; a limit that is not positive sets no limit. -/
def newest (limit : Option Int) (ring : Ring α) : List α :=
  let items := ring.toList
  match limit with
  | none => items
  | some bound => if bound ≤ 0 then items else items.drop (items.length - bound.toNat)

@[simp] theorem capacity_push (item : α) (ring : Ring α) :
    (ring.push item).capacity = ring.capacity := rfl

end Ring

end InputBinding
