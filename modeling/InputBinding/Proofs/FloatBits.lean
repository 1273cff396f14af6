import Mathlib
import InputBinding.Decimal.Layout
import InputBinding.Decimal.Nearest

/-!
The bits of finite numbers. A finite number is the one whose bits its mantissa and exponent count.
-/

namespace InputBinding.Decimal

/-- A mantissa and an exponent as the bits of a finite number give them. -/
structure Canonical (mantissa : Nat) (exponent : Int) : Prop where
  small : mantissa < 2 * hiddenBit
  least : -1074 ≤ exponent
  most : exponent ≤ 971
  normal : exponent = -1074 ∨ hiddenBit ≤ mantissa

def magnitudeBits (mantissa : Nat) (exponent : Int) : Nat :=
  (exponent + 1074).toNat * hiddenBit + mantissa

theorem ofMagnitude_eq {value : Float} {negative : Bool} {bits : Nat}
    (same : value.toBits.toNat = if negative then signBit + bits else bits) : ofMagnitude negative bits = value := by
  rw [ofMagnitude, ← same, UInt64.ofNat_toNat, Float.ofBits_toBits]

theorem toBits_split (value : Float) :
    value.toBits.toNat = if signBit ≤ value.toBits.toNat
      then signBit + (value.toBits.toNat / hiddenBit % 2048 * hiddenBit + value.toBits.toNat % hiddenBit)
      else value.toBits.toNat / hiddenBit % 2048 * hiddenBit + value.toBits.toNat % hiddenBit := by
  have bound : value.toBits.toNat < 2 ^ 64 := value.toBits.toNat_lt
  generalize value.toBits.toNat = bits at bound
  unfold signBit hiddenBit
  split <;> omega

theorem canonical_of_finite {value : Float} {negative : Bool} {mantissa : Nat} {exponent : Int}
    (finite : Double.ofFloat value = .finite negative mantissa exponent) :
    Canonical mantissa exponent ∧ ofMagnitude negative (magnitudeBits mantissa exponent) = value := by
  have parts := toBits_split value
  have fraction : value.toBits.toNat % hiddenBit < hiddenBit := Nat.mod_lt _ (by decide)
  have biased : value.toBits.toNat / hiddenBit % 2048 < 2048 := Nat.mod_lt _ (by decide)
  unfold Double.ofFloat at finite
  simp only [Int.ofNat_eq_natCast] at finite
  generalize value.toBits.toNat / hiddenBit % 2048 = power at parts biased finite
  generalize value.toBits.toNat % hiddenBit = rest at parts fraction finite
  split at finite
  · split at finite <;> cases finite
  · rename_i regular
    split at finite
    · rename_i subnormal
      subst subnormal
      cases finite
      refine ⟨⟨by omega, by omega, by omega, Or.inl rfl⟩, ofMagnitude_eq ?_⟩
      simp only [magnitudeBits, decide_eq_true_eq]
      exact parts
    · cases finite
      refine ⟨⟨by omega, by omega, by omega, Or.inr (by omega)⟩, ofMagnitude_eq ?_⟩
      have bits : magnitudeBits (hiddenBit + rest) (power - 1075) = power * hiddenBit + rest := by
        have before : ((power : Int) - 1075 + 1074).toNat + 1 = power := by omega
        rw [magnitudeBits, ← Nat.add_assoc, ← Nat.succ_mul, Nat.succ_eq_add_one, before]
      simp only [bits, decide_eq_true_eq]
      exact parts

theorem isFinite_iff_power (value : Float) :
    value.isFinite = true ↔ value.toBits.toNat / hiddenBit % 2048 ≠ 2047 := by
  have power : (@Float.Model.UnpackedFloat.unpackExponent Float.Model.Format.binary64 value.toBits.toBitVec).toNat =
      value.toBits.toNat / hiddenBit % 2048 := by
    simp [Float.Model.UnpackedFloat.unpackExponent, hiddenBit, Nat.shiftRight_eq_div_pow]
  have all (vector : BitVec 11) : vector = -1#11 ↔ vector.toNat = 2047 := by
    rw [← BitVec.toNat_inj]
    rfl
  change (Float.Model.UnpackedFloat.unpack Float.Model.Format.binary64 value.toBits.toBitVec).isFinite = true ↔ _
  rw [← power, ne_eq, ← all]
  unfold Float.Model.UnpackedFloat.unpack
  dsimp only
  split
  · split <;> simp_all [Float.Model.UnpackedFloat.isFinite]
  · split
    · split <;> simp_all [Float.Model.UnpackedFloat.isFinite]
    · simp_all [Float.Model.UnpackedFloat.isFinite]

theorem isFinite_iff (value : Float) : value.isFinite = true ↔
    ∃ negative mantissa exponent, Double.ofFloat value = .finite negative mantissa exponent := by
  rw [isFinite_iff_power]
  unfold Double.ofFloat
  dsimp only
  split
  · rename_i all
    split <;> simp [all]
  · rename_i regular
    split <;> simp [regular]

end InputBinding.Decimal
