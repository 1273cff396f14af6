import Mathlib.Data.Prod.Lex

/-!
How floating point numbers compare with each other and with zero. What is not a number compares with nothing.
-/

namespace InputBinding

open Float.Model

theorem float_lt_iff (left right : Float) :
    left < right ↔ left.toModel.unpack.compare right.toModel.unpack = some .lt := by
  change decide (left.toModel.unpack.lt right.toModel.unpack = true) = true ↔ _
  rw [decide_eq_true_iff]
  exact beq_iff_eq

theorem float_le_iff (left right : Float) :
    left ≤ right ↔
      ∃ order, left.toModel.unpack.compare right.toModel.unpack = some order ∧ order.isLE = true := by
  change decide (left.toModel.unpack.le right.toModel.unpack = true) = true ↔ _
  rw [decide_eq_true_iff]
  exact Option.any_eq_true _ _

theorem compare_swap (left right : UnpackedFloat) : right.compare left = (left.compare right).map Ordering.swap := by
  have flipped (first second : Int) (low high : Nat) :
      (compare second first).then (compare high low) = ((compare first second).then (compare low high)).swap := by
    rw [Ordering.swap_then, Int.compare_swap, Nat.compare_swap]
  cases left with
  | notANumber => cases right <;> rfl
  | zero sign =>
      cases right with
      | notANumber | zero other => rfl
      | infinity other | finite other => cases other <;> rfl
  | infinity sign =>
      cases right with
      | notANumber | zero other => cases sign <;> rfl
      | infinity other | finite other => cases sign <;> cases other <;> rfl
  | finite sign low first =>
      cases right with
      | notANumber | zero other => cases sign <;> rfl
      | infinity other => cases sign <;> cases other <;> rfl
      | finite other high second =>
          cases sign <;> cases other
          · exact congrArg some (congrArg Ordering.swap (flipped first second low high))
          · rfl
          · rfl
          · exact congrArg some (flipped first second low high)

theorem isSome_compare (left right : UnpackedFloat) :
    (left.compare right).isSome = (!left.isNaN && !right.isNaN) := by
  cases left with
  | notANumber => cases right <;> rfl
  | zero sign =>
      cases right with
      | notANumber | zero other => rfl
      | infinity other | finite other => cases other <;> rfl
  | infinity sign | finite sign =>
      cases right with
      | notANumber | zero other => cases sign <;> rfl
      | infinity other | finite other => cases sign <;> cases other <;> rfl

theorem float_le_of_lt {left right : Float} (less : left < right) : left ≤ right :=
  (float_le_iff left right).mpr ⟨.lt, (float_lt_iff left right).mp less, rfl⟩

theorem isNaN_of_le {left right : Float} (ordered : left ≤ right) : left.isNaN = false ∧ right.isNaN = false := by
  obtain ⟨order, compared, _⟩ := (float_le_iff left right).mp ordered
  have numbers := isSome_compare left.toModel.unpack right.toModel.unpack
  rw [compared] at numbers
  change left.toModel.unpack.isNaN = false ∧ right.toModel.unpack.isNaN = false
  simpa using numbers.symm

theorem float_le_of_not_lt {left right : Float} (number : left.isNaN = false) (other : right.isNaN = false)
    (notLess : ¬ right < left) : left ≤ right := by
  have numbers : (left.toModel.unpack.compare right.toModel.unpack).isSome = true := by
    rw [isSome_compare]
    change left.toModel.unpack.isNaN = false at number
    change right.toModel.unpack.isNaN = false at other
    rw [number, other]
    rfl
  obtain ⟨order, compared⟩ := Option.isSome_iff_exists.mp numbers
  rw [float_lt_iff, compare_swap, compared] at notLess
  refine (float_le_iff left right).mpr ⟨order, compared, ?_⟩
  cases order with
  | lt | eq => rfl
  | gt => exact absurd rfl notLess

theorem not_lt_of_le {left right : Float} (ordered : left ≤ right) : ¬ right < left := by
  obtain ⟨order, compared, isLE⟩ := (float_le_iff left right).mp ordered
  rw [float_lt_iff, compare_swap, compared]
  cases order with
  | lt | eq => simp
  | gt => cases isLE

theorem float_le_refl {value : Float} (number : value.isNaN = false) : value ≤ value :=
  float_le_of_not_lt number number fun less => not_lt_of_le (float_le_of_lt less) less

theorem unpack_zero : (Float.toModel 0.0).unpack = .zero .positive := by
  rfl

theorem positive_or_not (value : Float) :
    0.0 < value ∨ value ≤ 0.0 ∨ ∀ other : Float, ¬ value < other := by
  simp only [float_lt_iff, float_le_iff, unpack_zero]
  cases value.toModel.unpack with
  | notANumber => exact Or.inr (Or.inr fun _ impossible => by cases impossible)
  | zero sign => exact Or.inr (Or.inl ⟨.eq, rfl, rfl⟩)
  | infinity sign | finite sign =>
      cases sign with
      | positive => exact Or.inl rfl
      | negative => exact Or.inr (Or.inl ⟨.lt, rfl, rfl⟩)

theorem not_positive_of_le {value : Float} (small : value ≤ 0.0) : ¬ 0.0 < value :=
  not_lt_of_le small

theorem not_negative_of_positive {value : Float} (positive : 0.0 < value) : ¬ value < 0.0 :=
  not_lt_of_le (float_le_of_lt positive)

theorem float_beq_iff (left right : Float) :
    (left == right) = true ↔ left.toModel.unpack.compare right.toModel.unpack = some .eq := by
  change left.toModel.unpack.beq right.toModel.unpack = true ↔ _
  exact beq_iff_eq

theorem float_ne_of_lt {left right : Float} (less : left < right) :
    (left == right) = false ∧ (right == left) = false := by
  rw [← Bool.not_eq_true, ← Bool.not_eq_true, float_beq_iff, float_beq_iff,
    compare_swap left.toModel.unpack right.toModel.unpack, (float_lt_iff left right).mp less]
  decide

/-- The place of a number in the order: first its sign and kind, then its exponent, then its mantissa. -/
def place : UnpackedFloat → Int ×ₗ Int ×ₗ Int
  | .notANumber | .zero _ => toLex (0, toLex (0, 0))
  | .infinity .positive => toLex (2, toLex (0, 0))
  | .infinity .negative => toLex (-2, toLex (0, 0))
  | .finite .positive mantissa exponent _ => toLex (1, toLex (exponent, (mantissa : Int)))
  | .finite .negative mantissa exponent _ => toLex (-1, toLex (-exponent, -(mantissa : Int)))

theorem compare_natCast (low high : Nat) : compare (low : Int) high = compare low high := by
  simp only [compare, compareOfLessAndEq, Int.ofNat_lt, Int.natCast_inj]

theorem compare_neg (low high : Int) : compare (-low) (-high) = compare high low := by
  simp only [compare, compareOfLessAndEq, Int.neg_lt_neg_iff, Int.neg_inj, eq_comm]

theorem compare_place {left right : UnpackedFloat} (number : left.isNaN = false) (other : right.isNaN = false) :
    left.compare right = some (compare (place left) (place right)) := by
  cases left with
  | notANumber => cases number
  | zero sign =>
      cases right with
      | notANumber => cases other
      | zero side => rfl
      | infinity side | finite side => cases side <;> rfl
  | infinity sign =>
      cases right with
      | notANumber => cases other
      | zero side => cases sign <;> rfl
      | infinity side | finite side => cases sign <;> cases side <;> rfl
  | finite sign low first =>
      cases right with
      | notANumber => cases other
      | zero side => cases sign <;> rfl
      | infinity side => cases sign <;> cases side <;> rfl
      | finite side high second =>
          cases sign <;> cases side
          · change some _ = some ((compare (-first) (-second)).then (compare (-(low : Int)) (-(high : Int))))
            rw [compare_neg, compare_neg, compare_natCast, Ordering.swap_then, Int.compare_swap, Nat.compare_swap]
          · rfl
          · rfl
          · change some _ = some ((compare first second).then (compare (low : Int) high))
            rw [compare_natCast]

theorem float_lt_of_le_of_lt {left middle right : Float} (first : left ≤ middle) (second : middle < right) :
    left < right := by
  obtain ⟨number, between⟩ := isNaN_of_le first
  obtain ⟨_, other⟩ := isNaN_of_le (float_le_of_lt second)
  obtain ⟨order, compared, isLE⟩ := (float_le_iff left middle).mp first
  rw [compare_place number between, Option.some.injEq] at compared
  rw [float_lt_iff, compare_place between other, Option.some.injEq, compare_lt_iff_lt] at second
  rw [float_lt_iff, compare_place number other, Option.some.injEq, compare_lt_iff_lt]
  refine lt_of_le_of_lt (compare_le_iff_le.mp ?_) second
  rw [compared]
  exact Ordering.isLE_iff_ne_gt.mp isLE

end InputBinding
