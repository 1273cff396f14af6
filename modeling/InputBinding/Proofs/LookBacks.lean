import InputBinding.Proofs.Deliveries

/-!
Looking back on what a ring has kept. A positive limit shows the newest items, as many as it says; any other limit
shows them all, where none would be expected.
-/

namespace InputBinding

namespace Ring

inductive Operation (α : Type)
  | push (item : α)
  | clear

namespace Operation

def perform (ring : Ring α) : Operation α → Ring α
  | push item => ring.push item
  | clear => ring.clear

def item? : Operation α → Option α
  | push item => some item
  | clear => none

def isClear : Operation α → Bool
  | push _ => false
  | clear => true

end Operation

def after (history : List (Operation α)) (ring : Ring α) : Ring α :=
  history.foldl Operation.perform ring

/-- The items that have been pushed since the ring was last cleared. -/
def pushed (history : List (Operation α)) : List α :=
  (history.rtakeWhile fun operation => !operation.isClear).filterMap Operation.item?

theorem after_concat (history : List (Operation α)) (operation : Operation α) (ring : Ring α) :
    ring.after (history ++ [operation]) = operation.perform (ring.after history) := by
  simp [after]

theorem pushed_push (history : List (Operation α)) (item : α) :
    pushed (history ++ [.push item]) = pushed history ++ [item] := by
  rw [pushed, List.rtakeWhile_concat]
  simp [pushed, Operation.isClear, Operation.item?]

theorem pushed_clear (history : List (Operation α)) : pushed (history ++ [.clear]) = [] := by
  rw [pushed, List.rtakeWhile_concat]
  simp [Operation.isClear]

theorem holds_after {capacity : Int} {fresh : Ring α} (created : create capacity = .ok fresh)
    (history : List (Operation α)) :
    (fresh.after history).capacity = capacity.toNat ∧
      (fresh.after history).Holds ((pushed history).rtake (fresh.after history).capacity) := by
  induction history using List.reverseRecOn with
  | nil =>
      obtain ⟨sameCapacity, holds⟩ := holds_create created
      exact ⟨sameCapacity, by simpa [pushed, after] using holds⟩
  | append_singleton earlier operation ih =>
      obtain ⟨sameCapacity, holds⟩ := ih
      rw [after_concat]
      cases operation with
      | push item =>
          rw [pushed_push]
          exact ⟨sameCapacity, holds.push item⟩
      | clear =>
          rw [pushed_clear, List.rtake_nil]
          exact ⟨sameCapacity, holds.clear⟩

theorem newest_of_positive {limit : Int} (positive : 0 < limit) (ring : Ring α) :
    ring.newest (some limit) = (ring.newest none).rtake limit.toNat := by
  have limited : ¬ limit ≤ 0 := by omega
  simp only [newest, if_neg limited, List.rtake]

theorem newest_of_nonpositive {limit : Int} (unlimited : limit ≤ 0) (ring : Ring α) :
    ring.newest (some limit) = ring.newest none := by
  simp only [newest, if_pos unlimited]

theorem length_newest_le {limit : Int} (positive : 0 < limit) (ring : Ring α) :
    (ring.newest (some limit)).length ≤ limit.toNat := by
  rw [newest_of_positive positive, List.rtake, List.length_drop]
  omega

end Ring

theorem Channel.length_lookBack_le {limit : Int} (positive : 0 < limit) (channel : Channel) (filter : Filter) :
    (channel.lookBack (some limit) filter).length ≤ limit.toNat :=
  (List.length_filter_le _ _).trans (Ring.length_newest_le positive channel.history)

theorem Channel.lookBack_of_nonpositive {limit : Int} (unlimited : limit ≤ 0) (channel : Channel) (filter : Filter) :
    channel.lookBack (some limit) filter = channel.lookBack none filter := by
  rw [lookBack, Ring.newest_of_nonpositive unlimited, lookBack]

namespace Ring

/-- Whatever has happened to a ring, a look back without a limit shows the newest of what was pushed since it was
cleared, and one with a positive limit shows the newest of these, no more than the limit says. A channel shows no
more either, whatever is filtered. A limit that is not positive makes no difference. -/
theorem newest_tail {capacity : Int} {fresh : Ring α} (created : create capacity = .ok fresh)
    (history : List (Operation α)) (limit : Int) :
    let ring := fresh.after history
    ring.newest none = (pushed history).rtake capacity.toNat ∧
    (0 < limit →
      ring.newest (some limit) = (ring.newest none).rtake limit.toNat ∧
      (ring.newest (some limit)).length ≤ limit.toNat ∧
      ∀ (channel : Channel) (filter : Channel.Filter), (channel.lookBack (some limit) filter).length ≤ limit.toNat) ∧
    (limit ≤ 0 →
      ring.newest (some limit) = ring.newest none ∧
      ∀ (channel : Channel) (filter : Channel.Filter),
        channel.lookBack (some limit) filter = channel.lookBack none filter) := by
  intro ring
  obtain ⟨sameCapacity, holds⟩ := holds_after created history
  refine ⟨?_, fun positive => ?_, fun unlimited => ?_⟩
  · rw [← sameCapacity]
    exact holds.toList
  · exact ⟨newest_of_positive positive ring, length_newest_le positive ring,
      fun channel filter => channel.length_lookBack_le positive filter⟩
  · exact ⟨newest_of_nonpositive unlimited ring,
      fun channel filter => channel.lookBack_of_nonpositive unlimited filter⟩

def wrapped : List (Operation Nat) :=
  [.push 1, .push 2, .clear, .push 3, .push 4, .push 5, .push 6]

theorem newest_tail_wrapped :
    create 3 = .ok { capacity := 3 : Ring Nat } ∧ (0 : Int) < 2 ∧
      ((({ capacity := 3 } : Ring Nat).after wrapped).newest none) = [4, 5, 6] ∧
      ((({ capacity := 3 } : Ring Nat).after wrapped).newest (some 2)) = [5, 6] := by
  have created : create 3 = .ok { capacity := 3 : Ring Nat } := rfl
  obtain ⟨all, tail, _⟩ := newest_tail created wrapped 2
  have kept : (pushed wrapped).rtake 3 = [4, 5, 6] := by decide
  refine ⟨created, by decide, all.trans kept, ?_⟩
  rw [(tail (by decide)).1, all]
  decide

theorem newest_zero :
    let ring := ({ capacity := 3 } : Ring Nat).after wrapped
    ring.newest (some 0) = [4, 5, 6] ∧ ring.newest (some 0) ≠ (ring.newest none).rtake (max 0 (0 : Int)).toNat ∧
      ¬ (ring.newest (some 0)).length ≤ (max 0 (0 : Int)).toNat := by
  decide

end Ring

end InputBinding
