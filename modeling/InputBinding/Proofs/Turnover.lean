import InputBinding.Proofs.LookBacks

/-!
A ring as a queue that drops its oldest item for each new one once it is full. The slots are seen here as a store of
fixed length, of which those not yet in use are empty: a push writes one cell of it, and a listing reads only cells
that have been written.
-/

namespace InputBinding.Ring

variable {ring : Ring α} {items : List α}

def cells (ring : Ring α) : List (Option α) :=
  ring.slots.toList ++ List.replicate (ring.capacity - ring.size) none

/-- The cells that the next operation writes or reads are there. -/
structure InRange (ring : Ring α) : Prop where
  length : ring.cells.length = ring.capacity
  written : ring.writeIndex < ring.cells.length
  push : ∀ item, (ring.push item).cells = ring.cells.set ring.writeIndex (some item)
  read : ∀ offset, offset < ring.size → (ring.start + offset) % ring.capacity < ring.slots.size

theorem Holds.length_cells (holds : ring.Holds items) : ring.cells.length = ring.capacity := by
  have bounded := holds.bounded
  rw [cells, List.length_append, List.length_replicate, Array.length_toList]
  change ring.size + (ring.capacity - ring.size) = ring.capacity
  omega

theorem Holds.cells_push_room (holds : ring.Holds items) (room : ring.size < ring.capacity) (item : α) :
    (ring.push item).cells = ring.cells.set ring.writeIndex (some item) := by
  have slots := slots_push_of_room room item
  have size := size_push_of_room room item
  have index : ring.writeIndex = ring.slots.toList.length := holds.filling room
  have oneEmpty : ring.capacity - ring.size = (ring.capacity - (ring.size + 1)) + 1 := by omega
  rw [cells, cells, slots, size, capacity_push, oneEmpty, List.replicate_succ, index, List.set_append_right _ _ le_rfl,
    Nat.sub_self, List.set_cons_zero, Array.toList_push, List.append_assoc, List.singleton_append]

theorem cells_push_full (full : ring.size = ring.capacity) (item : α) :
    (ring.push item).cells = ring.cells.set ring.writeIndex (some item) := by
  have slots := slots_push_of_full full.ge item
  have size := size_push_of_full full.ge item
  have noneEmpty : ring.capacity - ring.size = 0 := by omega
  rw [cells, cells, slots, size, capacity_push, noneEmpty, List.replicate_zero, List.append_nil, List.append_nil,
    Array.toList_setIfInBounds]

theorem Holds.inRange (holds : ring.Holds items) : ring.InRange where
  length := holds.length_cells
  written := by
    rw [holds.length_cells]
    exact holds.writeBound
  push item := by
    rcases holds.bounded.lt_or_eq with room | full
    · exact holds.cells_push_room room item
    · exact cells_push_full full item
  read offset bound := by
    obtain ⟨inside, _⟩ := Array.getElem?_eq_some_iff.mp (holds.found offset bound)
    exact inside

/-- Through any history of pushes and clears a ring holds as many of the items pushed since the last clear as it has
slots, the newest of them, and lists them from the oldest on; it never writes or reads a slot that it does not have. -/
theorem drops_oldest {capacity : Int} (positive : 1 ≤ capacity) (history : List (Operation α)) :
    ∃ fresh, create capacity = .ok fresh ∧
      let ring := fresh.after history
      ring.size = min capacity.toNat (pushed history).length ∧
      ring.capacity = capacity.toNat ∧
      ring.writeIndex < capacity.toNat ∧
      ring.InRange ∧
      ring.newest none = (pushed history).rtake ring.size := by
  have created : create capacity = .ok { capacity := capacity.toNat : Ring α } := by
    rw [create, if_neg (by omega)]
  refine ⟨_, created, ?_⟩
  intro ring
  obtain ⟨sameCapacity, holds⟩ := holds_after created history
  have size : ring.size = min capacity.toNat (pushed history).length := by
    rw [← holds.length, List.rtake, List.length_drop, sameCapacity]
    omega
  have kept : (pushed history).rtake ring.capacity = (pushed history).rtake ring.size := by
    rw [List.rtake, List.rtake, sameCapacity, size]
    congr 1
    omega
  exact ⟨size, sameCapacity, sameCapacity ▸ holds.writeBound, holds.inRange, holds.toList.trans kept⟩

def rounds : List (Operation Nat) :=
  [.push 1, .push 2, .clear, .push 3, .push 4, .push 5, .push 6, .push 7, .push 8, .push 9]

theorem drops_oldest_rounds :
    (1 : Int) ≤ 3 ∧ ∃ fresh, create 3 = .ok fresh ∧ (fresh.after rounds).size = 3 ∧
      (fresh.after rounds).newest none = [7, 8, 9] ∧
      ((fresh.after rounds).push 10).cells = (fresh.after rounds).cells.set (fresh.after rounds).writeIndex (some 10) := by
  obtain ⟨fresh, created, size, _, _, inRange, listed⟩ := drops_oldest (by decide : (1 : Int) ≤ 3) rounds
  have three : (fresh.after rounds).size = 3 := size.trans (by decide)
  refine ⟨by decide, fresh, created, three, ?_, inRange.push 10⟩
  rw [listed, three]
  decide

end InputBinding.Ring
