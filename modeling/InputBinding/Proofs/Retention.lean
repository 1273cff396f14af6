import Mathlib.Data.List.DropRight
import InputBinding.Ring

/-!
What a ring keeps: the newest items, as many as it has slots. Listed from the oldest on, they begin at the
write index once all slots are in use.
-/

namespace InputBinding.Ring

variable {ring : Ring α} {items : List α}

/-- The slots in use hold these items, read from the oldest on. -/
structure Holds (ring : Ring α) (items : List α) : Prop where
  positive : 0 < ring.capacity
  bounded : ring.size ≤ ring.capacity
  writeBound : ring.writeIndex < ring.capacity
  filling : ring.size < ring.capacity → ring.writeIndex = ring.size
  length : items.length = ring.size
  found : ∀ offset, offset < ring.size → ring.slots[(ring.start + offset) % ring.capacity]? = some items[offset]?

theorem holds_create {capacity : Int} (created : create capacity = .ok ring) :
    ring.capacity = capacity.toNat ∧ ring.Holds [] := by
  unfold create at created
  split at created
  · cases created
  · cases created
    have positive : 0 < capacity.toNat := by omega
    refine ⟨rfl, positive, Nat.zero_le _, positive, fun _ => rfl, rfl, ?_⟩
    intro offset bound
    exact absurd bound (Nat.not_lt_zero offset)

theorem Holds.clear (holds : ring.Holds items) : ring.clear.Holds [] := by
  refine ⟨holds.positive, Nat.zero_le _, holds.positive, fun _ => rfl, rfl, ?_⟩
  intro offset bound
  exact absurd bound (Nat.not_lt_zero offset)

theorem Holds.toList (holds : ring.Holds items) : ring.toList = items := by
  have listed : ∀ offset ∈ List.range ring.size,
      (ring.slots[(ring.start + offset) % ring.capacity]?).join = items[offset]? := by
    intro offset member
    rw [holds.found offset (List.mem_range.mp member)]
    rfl
  have all : (List.range items.length).map (fun offset => items[offset]?) = items.map some := by
    apply List.ext_getElem
    · simp
    · intro position _ bound
      rw [List.length_map] at bound
      simp [bound]
  calc ring.toList = (List.range items.length).filterMap fun offset => items[offset]? := by
        rw [Ring.toList, List.filterMap_congr listed, holds.length]
    _ = ((List.range items.length).map fun offset => items[offset]?).filterMap id := by
        rw [List.filterMap_map]
        rfl
    _ = items := by
        rw [all, List.filterMap_map]
        exact List.filterMap_some

theorem isFull_iff : ring.isFull = true ↔ ring.capacity ≤ ring.size := decide_eq_true_iff

theorem start_of_room (room : ring.size < ring.capacity) : ring.start = 0 := by
  have notFull : ¬ ring.isFull = true := fun full => absurd (isFull_iff.mp full) (by omega)
  simp only [start, if_neg notFull]

theorem start_of_full (full : ring.capacity ≤ ring.size) : ring.start = ring.writeIndex := by
  simp only [start, if_pos (isFull_iff.mpr full)]

theorem slots_push_of_room (room : ring.size < ring.capacity) (item : α) :
    (ring.push item).slots = ring.slots.push (some item) := by
  have notFull : ¬ ring.isFull = true := fun full => absurd (isFull_iff.mp full) (by omega)
  simp only [push, write, if_neg notFull]

theorem slots_push_of_full (full : ring.capacity ≤ ring.size) (item : α) :
    (ring.push item).slots = ring.slots.setIfInBounds ring.writeIndex (some item) := by
  simp only [push, write, if_pos (isFull_iff.mpr full)]

theorem size_push_of_room (room : ring.size < ring.capacity) (item : α) : (ring.push item).size = ring.size + 1 := by
  rw [size, slots_push_of_room room, Array.size_push]
  rfl

theorem size_push_of_full (full : ring.capacity ≤ ring.size) (item : α) : (ring.push item).size = ring.size := by
  rw [size, slots_push_of_full full, Array.size_setIfInBounds]
  rfl

theorem Holds.push_room (holds : ring.Holds items) (room : ring.size < ring.capacity) (item : α) :
    (ring.push item).Holds (items ++ [item]) := by
  have slots := slots_push_of_room room item
  have size := size_push_of_room room item
  have written : (ring.push item).writeIndex = (ring.size + 1) % ring.capacity := by
    rw [← holds.filling room]
    rfl
  -- The slot that fills the ring sends the write index back to the first one.
  have start : (ring.push item).start = 0 := by
    by_cases last : ring.size + 1 = ring.capacity
    · rw [start_of_full (by rw [size, capacity_push]; omega), written, last, Nat.mod_self]
    · exact start_of_room (by rw [size, capacity_push]; omega)
  refine ⟨holds.positive, by rw [size, capacity_push]; omega, ?_, ?_, ?_, ?_⟩
  · rw [written]
    exact Nat.mod_lt _ holds.positive
  · intro more
    rw [size, capacity_push] at more
    rw [written, size, Nat.mod_eq_of_lt more]
  · rw [size, List.length_append, holds.length]
    rfl
  · intro offset bound
    rw [size] at bound
    have inside : offset < ring.capacity := by omega
    rw [start, capacity_push, Nat.zero_add, Nat.mod_eq_of_lt inside, slots, Array.getElem?_push]
    change (if offset = ring.size then some (some item) else ring.slots[offset]?) = _
    by_cases new : offset = ring.size
    · rw [if_pos new, new, ← holds.length, List.getElem?_concat_length]
    · have old := holds.found offset (by omega)
      rw [start_of_room room, Nat.zero_add, Nat.mod_eq_of_lt inside] at old
      rw [if_neg new, old, List.getElem?_append_left (by rw [holds.length]; omega)]

theorem wrapped_ne {index offset capacity : Nat} (bound : index < capacity) (moved : 0 < offset)
    (once : offset < capacity) : (index + offset) % capacity ≠ index := by
  by_cases inside : index + offset < capacity
  · rw [Nat.mod_eq_of_lt inside]
    omega
  · rw [Nat.mod_eq_sub_mod (by omega), Nat.mod_eq_of_lt (by omega)]
    omega

theorem Holds.push_full (holds : ring.Holds items) (full : ring.size = ring.capacity) (item : α) :
    (ring.push item).Holds (items.drop 1 ++ [item]) := by
  have slots := slots_push_of_full full.ge item
  have size := size_push_of_full full.ge item
  have written : (ring.push item).writeIndex = (ring.writeIndex + 1) % ring.capacity := rfl
  have start : (ring.push item).start = (ring.writeIndex + 1) % ring.capacity := by
    rw [start_of_full (by rw [size, capacity_push]; omega), written]
  have positive := holds.positive
  have writeBound := holds.writeBound
  have writeSlot : ring.writeIndex < ring.slots.size := by
    change ring.writeIndex < ring.size
    omega
  refine ⟨positive, by rw [size, capacity_push]; omega, ?_, ?_, ?_, ?_⟩
  · rw [written]
    exact Nat.mod_lt _ positive
  · intro more
    rw [size, capacity_push] at more
    omega
  · rw [size, List.length_append, List.length_drop, holds.length, List.length_singleton]
    omega
  · intro offset bound
    rw [size, full] at bound
    have place : ((ring.writeIndex + 1) % ring.capacity + offset) % ring.capacity =
        (ring.writeIndex + (offset + 1)) % ring.capacity := by
      rw [Nat.mod_add_mod, Nat.add_assoc, Nat.add_comm 1 offset]
    have kept : (items.drop 1).length + 1 = ring.capacity := by
      rw [List.length_drop, holds.length]
      omega
    rw [start, capacity_push, place, slots]
    by_cases new : offset + 1 = ring.capacity
    · have last : offset = (items.drop 1).length := by omega
      rw [new, Nat.add_mod_right, Nat.mod_eq_of_lt writeBound, Array.getElem?_setIfInBounds_self_of_lt writeSlot, last,
        List.getElem?_concat_length]
    · have elsewhere := wrapped_ne writeBound (Nat.succ_pos offset) (by omega)
      have old := holds.found (offset + 1) (by omega)
      rw [start_of_full (by omega)] at old
      rw [Array.getElem?_setIfInBounds_ne elsewhere.symm, old, List.getElem?_append_left (by omega), List.getElem?_drop,
        Nat.add_comm 1 offset]

/-- Whatever has been pushed, a ring holds the newest of it, as many items as it has slots. -/
theorem Holds.push (holds : ring.Holds (items.rtake ring.capacity)) (item : α) :
    (ring.push item).Holds ((items ++ [item]).rtake ring.capacity) := by
  have length := holds.length
  simp only [List.rtake, List.length_drop] at length
  have count : (items ++ [item]).length = items.length + 1 := List.length_append
  by_cases room : ring.size < ring.capacity
  · have grown := holds.push_room room item
    have few : items.length - ring.capacity = 0 := by omega
    have fits : items.length + 1 - ring.capacity = 0 := by omega
    rwa [List.rtake, few, List.drop_zero, ← List.drop_zero (l := items ++ [item]), ← fits, ← count] at grown
  · have full : ring.size = ring.capacity := by
      have bounded := holds.bounded
      omega
    have moved := holds.push_full full item
    have next : items.length - ring.capacity + 1 = items.length + 1 - ring.capacity := by omega
    have inside : items.length + 1 - ring.capacity ≤ items.length := by
      have positive := holds.positive
      omega
    rwa [List.rtake, List.drop_drop, next, ← List.drop_append_of_le_length inside, ← count] at moved

end InputBinding.Ring
