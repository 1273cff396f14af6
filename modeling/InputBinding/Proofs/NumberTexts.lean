import InputBinding.Proofs.Codecs
import InputBinding.Proofs.ShortestDigits

/-!
Written numbers are read back as they were. Whichever way the digits are laid out, the text stands for the
same decimal.
-/

namespace InputBinding

namespace Decimal

theorem natOfDigits_eq (digits : List Char) : Json.natOfDigits digits = Nat.ofDigitChars 10 digits 0 := by
  rw [Nat.ofDigitChars_eq_foldl]
  rfl

theorem natOfDigits_append (earlier later : List Char) :
    Json.natOfDigits (earlier ++ later) = Json.natOfDigits earlier * 10 ^ later.length + Json.natOfDigits later := by
  simp only [natOfDigits_eq]
  rw [Nat.ofDigitChars_append, Nat.ofDigitChars_eq_ofDigitChars_zero, Nat.mul_comm]

@[simp] theorem natOfDigits_zeros (count : Nat) : Json.natOfDigits (zeros count) = 0 := by
  simp [natOfDigits_eq, zeros, Nat.ofDigitChars_replicate_zero]

@[simp] theorem natOfDigits_toDigits (number : Nat) : Json.natOfDigits (Nat.toDigits 10 number) = number := by
  rw [natOfDigits_eq, Nat.ofDigitChars_ten_toDigits]

@[simp] theorem length_zeros (count : Nat) : (zeros count).length = count :=
  List.length_replicate

def AllDigits (chars : List Char) : Prop :=
  ∀ char ∈ chars, char.isDigit = true

theorem allDigits_zeros (count : Nat) : AllDigits (zeros count) := by
  intro char member
  rw [List.eq_of_mem_replicate member]
  rfl

theorem allDigits_toDigits (number : Nat) : AllDigits (Nat.toDigits 10 number) :=
  fun _ member => Nat.isDigit_of_mem_toDigits (by decide) (by decide) member

theorem AllDigits.append {earlier later : List Char} (first : AllDigits earlier) (second : AllDigits later) :
    AllDigits (earlier ++ later) := by
  intro char member
  rcases List.mem_append.mp member with early | late
  · exact first char early
  · exact second char late

theorem toDigits_head {number : Nat} (positive : 0 < number) : (Nat.toDigits 10 number).head? ≠ some '0' := by
  induction number using Nat.strongRecOn with
  | ind number ih =>
      rw [Nat.toDigits_eq_if (by decide)]
      split
      · rw [List.head?_cons, ne_eq, Option.some.injEq, Nat.digitChar_eq_zero]
        omega
      · have shorter := ih (number / 10) (by omega) (by omega)
        rwa [List.head?_append_of_ne_nil _ Nat.toDigits_ne_nil]

theorem significantDigits_spec (significand : Nat) :
    significantDigits significand ≠ [] ∧
      ∃ count, Nat.toDigits 10 significand = significantDigits significand ++ zeros count := by
  have parts := List.takeWhile_append_dropWhile (p := (· == '0')) (l := (Nat.toDigits 10 significand).reverse)
  have trailing : ((Nat.toDigits 10 significand).reverse.takeWhile (· == '0')) =
      zeros ((Nat.toDigits 10 significand).reverse.takeWhile (· == '0')).length := by
    rw [zeros, List.eq_replicate_iff]
    refine ⟨rfl, fun char member => ?_⟩
    simpa using List.mem_takeWhile_imp member
  rw [trailing] at parts
  have whole := congrArg List.reverse parts
  rw [List.reverse_append, List.reverse_reverse, zeros, List.reverse_replicate] at whole
  unfold significantDigits
  generalize ((Nat.toDigits 10 significand).reverse.dropWhile (· == '0')).reverse = kept at whole
  generalize ((Nat.toDigits 10 significand).reverse.takeWhile (· == '0')).length = count at whole
  cases kept with
  | cons first others => exact ⟨by simp, count, whole.symm⟩
  | nil =>
      refine ⟨by simp, count - 1, ?_⟩
      cases count with
      | zero => exact absurd whole.symm Nat.toDigits_ne_nil
      | succ fewer => exact whole.symm

end Decimal

namespace Json

open Decimal

def Stops (rest : List Char) : Prop :=
  ∀ char ∈ rest.head?, char.isDigit = false ∧ char ≠ '.' ∧ char ≠ 'e' ∧ char ≠ 'E'

theorem span_digits {digits : List Char} (all : AllDigits digits) {rest : List Char}
    (ends : ∀ char ∈ rest.head?, char.isDigit = false) : (digits ++ rest).span Char.isDigit = (digits, rest) := by
  rw [List.span_eq_takeWhile_dropWhile, List.takeWhile_append_of_pos all, List.dropWhile_append_of_pos all]
  cases rest with
  | nil => simp
  | cons char others => simp [ends char rfl]

theorem Stops.digits {rest : List Char} (stops : Stops rest) : ∀ char ∈ rest.head?, char.isDigit = false :=
  fun char first => (stops char first).1

theorem readFraction_digits {digits : List Char} (all : AllDigits digits) (nonempty : digits ≠ []) {rest : List Char}
    (ends : ∀ char ∈ rest.head?, char.isDigit = false) :
    readFraction ('.' :: digits ++ rest) = some (digits, rest) := by
  have empty : digits.isEmpty = false := by simpa using nonempty
  simp only [readFraction, List.cons_append, span_digits all ends, empty, Bool.false_eq_true, if_false]

theorem readFraction_none {rest : List Char} (ends : rest.head? ≠ some '.') : readFraction rest = some ([], rest) := by
  unfold readFraction
  split
  · simp at ends
  · rfl

theorem readExponent_none {rest : List Char} (stops : Stops rest) : readExponent rest = some (none, rest) := by
  cases rest with
  | nil => rfl
  | cons char others =>
      obtain ⟨_, _, notSmall, notLarge⟩ := stops char rfl
      simp [readExponent, notSmall, notLarge]

theorem readExponentDigits_digits {digits : List Char} (all : AllDigits digits) (nonempty : digits ≠ [])
    {rest : List Char} (stops : Stops rest) (negative : Bool) :
    readExponentDigits negative (digits ++ rest) =
      some (if negative then -(natOfDigits digits : Int) else natOfDigits digits, rest) := by
  have empty : digits.isEmpty = false := by simpa using nonempty
  simp only [readExponentDigits, span_digits all stops.digits, empty, Bool.false_eq_true, if_false, Int.ofNat_eq_natCast]

theorem readExponent_scientific (width : Nat) (leading : Int) {rest : List Char} (stops : Stops rest) :
    readExponent ('e' :: (if leading < 0 then '-' else '+') :: fillLeft width (Nat.toDigits 10 leading.natAbs) ++ rest) =
      some (some leading, rest) := by
  have all : AllDigits (fillLeft width (Nat.toDigits 10 leading.natAbs)) :=
    (allDigits_zeros _).append (allDigits_toDigits _)
  have nonempty : fillLeft width (Nat.toDigits 10 leading.natAbs) ≠ [] := by
    simp [fillLeft, Nat.toDigits_ne_nil]
  have value : natOfDigits (fillLeft width (Nat.toDigits 10 leading.natAbs)) = leading.natAbs := by
    simp [fillLeft, natOfDigits_append]
  by_cases negative : leading < 0
  · have read := readExponentDigits_digits all nonempty stops true
    have back : -(leading.natAbs : Int) = leading := by omega
    rw [value, if_pos rfl, back] at read
    simp [readExponent, negative, read]
  · have read := readExponentDigits_digits all nonempty stops false
    have back : (leading.natAbs : Int) = leading := by omega
    rw [value, if_neg (by decide), back] at read
    simp [readExponent, negative, read]

theorem readUnsigned_parts {whole fraction afterWhole afterFraction rest : List Char} {exponent : Option Int}
    (all : AllDigits whole) (nonempty : whole ≠ []) (leadingZero : whole.head? = some '0' → whole.length = 1)
    (ends : ∀ char ∈ afterWhole.head?, char.isDigit = false)
    (readFractional : readFraction afterWhole = some (fraction, afterFraction))
    (readPower : readExponent afterFraction = some (exponent, rest))
    (notWhole : fraction ≠ [] ∨ exponent ≠ none) (negative : Bool) :
    readUnsigned negative (whole ++ afterWhole) =
      (finite? (ofDecimal negative (natOfDigits (whole ++ fraction))
        (exponent.getD 0 - Int.ofNat fraction.length))).map fun value => (value, rest) := by
  have notEmpty : whole.isEmpty = false := by simpa using nonempty
  have accepted : (whole.isEmpty || (whole.head? == some '0' && whole.length != 1)) = false := by
    simp only [notEmpty, Bool.false_or, Bool.and_eq_false_imp, beq_iff_eq, bne_eq_false_iff_eq]
    exact leadingZero
  have notInteger : (fraction.isEmpty && exponent.isNone) = false := by
    rcases notWhole with fractional | powered
    · simp [fractional]
    · simp [Option.isSome_iff_ne_none.mpr powered]
  simp only [readUnsigned, span_digits all ends, accepted, Bool.false_eq_true, if_false, readFractional,
    Option.bind_eq_bind, Option.bind_some, readPower, notInteger]
  cases finite? (ofDecimal negative (natOfDigits (whole ++ fraction))
    (exponent.getD 0 - Int.ofNat fraction.length)) <;> rfl

/-- A text that begins with a digit and is read as a number with a fraction, whatever its sign. -/
def ReadsAs (chars : List Char) (number : ℚ) : Prop :=
  (∃ first ∈ chars.head?, first.isDigit = true) ∧
    ∃ (digits : Nat) (power : Int), digits * (10 : ℚ) ^ power = number ∧ ∀ negative rest, Stops rest →
      readUnsigned negative (chars ++ rest) = (finite? (ofDecimal negative digits power)).map fun value => (value, rest)

theorem stops_point {rest : List Char} : ∀ char ∈ ('.' :: rest).head?, char.isDigit = false := by
  rintro _ ⟨⟩
  rfl

theorem stops_mark {rest : List Char} : ∀ char ∈ ('e' :: rest).head?, char.isDigit = false := by
  rintro _ ⟨⟩
  rfl

theorem head_isDigit {chars : List Char} (all : AllDigits chars) (nonempty : chars ≠ []) (rest : List Char) :
    ∃ first ∈ (chars ++ rest).head?, first.isDigit = true := by
  obtain ⟨first, others, rfl⟩ := List.exists_cons_of_ne_nil nonempty
  exact ⟨first, rfl, all first List.mem_cons_self⟩

theorem readsAs_pointed {whole fraction : List Char} (all : AllDigits whole) (nonempty : whole ≠ [])
    (leadingZero : whole.head? = some '0' → whole.length = 1) (allFraction : AllDigits fraction)
    (nonemptyFraction : fraction ≠ []) :
    ReadsAs (whole ++ '.' :: fraction) (natOfDigits (whole ++ fraction) * (10 : ℚ) ^ (-(fraction.length : Int))) := by
  refine ⟨head_isDigit all nonempty _, _, _, rfl, ?_⟩
  intro negative rest stops
  have read := readUnsigned_parts all nonempty leadingZero stops_point
    (readFraction_digits allFraction nonemptyFraction stops.digits) (readExponent_none stops)
    (Or.inl nonemptyFraction) negative
  rw [List.append_assoc, List.cons_append]
  simpa using read

variable {digits : List Char}

theorem readsAs_plain (all : AllDigits digits) (nonempty : digits ≠ []) {leading : Int}
    (leadingZero : digits.head? = some '0' → digits.length = 1 ∧ leading ≤ 0) :
    ReadsAs (plain digits leading) (natOfDigits digits * (10 : ℚ) ^ (leading + 1 - digits.length)) := by
  have zero : natOfDigits ['0'] = 0 := rfl
  have zeroDigit : AllDigits ['0'] := by simp [AllDigits]
  unfold plain
  dsimp only
  split
  · -- All digits stand behind the point, filled up with zeros in front.
    have read : ReadsAs (['0'] ++ '.' :: (zeros (-leading - 1).toNat ++ digits)) _ :=
      readsAs_pointed zeroDigit (by simp) (by simp) ((allDigits_zeros _).append all) (by simp [nonempty])
    have power : -((zeros (-leading - 1).toNat ++ digits).length : Int) = leading + 1 - digits.length := by
      rw [List.length_append, length_zeros]
      omega
    have value : natOfDigits (['0'] ++ (zeros (-leading - 1).toNat ++ digits)) = natOfDigits digits := by
      rw [natOfDigits_append, natOfDigits_append, natOfDigits_zeros, zero]
      omega
    rwa [power, value] at read
  · split
    · -- All digits stand before the point, filled up with zeros behind, and the fraction is a zero.
      have onlyZero : (digits ++ zeros (leading.toNat + 1 - digits.length)).head? = some '0' →
          (digits ++ zeros (leading.toNat + 1 - digits.length)).length = 1 := by
        rw [List.head?_append_of_ne_nil _ nonempty, List.length_append, length_zeros]
        intro zeroFirst
        have bounds := leadingZero zeroFirst
        omega
      have read : ReadsAs (digits ++ zeros (leading.toNat + 1 - digits.length) ++ '.' :: ['0']) _ :=
        readsAs_pointed (all.append (allDigits_zeros _)) (by simp [nonempty]) onlyZero zeroDigit (by simp)
      have value : natOfDigits (digits ++ zeros (leading.toNat + 1 - digits.length) ++ ['0']) =
          natOfDigits digits * 10 ^ (leading.toNat + 1 - digits.length + 1) := by
        rw [natOfDigits_append, natOfDigits_append, natOfDigits_zeros, length_zeros, zero, pow_succ]
        simp [Nat.mul_assoc]
      have power : leading + 1 - digits.length = ((leading.toNat + 1 - digits.length + 1 : Nat) : Int) + -1 := by
        omega
      rwa [value, Nat.cast_mul, Nat.cast_pow, Nat.cast_ofNat, mul_assoc, ← zpow_natCast, List.length_singleton,
        Nat.cast_one, ← zpow_add₀ (by norm_num), ← power] at read
    · have onlyZero : (digits.take (leading.toNat + 1)).head? = some '0' → (digits.take (leading.toNat + 1)).length = 1 := by
        rw [List.head?_take, if_neg (Nat.succ_ne_zero leading.toNat)]
        intro zeroFirst
        have bounds := leadingZero zeroFirst
        omega
      have allWhole : AllDigits (digits.take (leading.toNat + 1)) := fun char member =>
        all char (List.mem_of_mem_take member)
      have allFraction : AllDigits (digits.drop (leading.toNat + 1)) := fun char member =>
        all char (List.mem_of_mem_drop member)
      have read : ReadsAs (digits.take (leading.toNat + 1) ++ '.' :: digits.drop (leading.toNat + 1)) _ :=
        readsAs_pointed allWhole (by simp [nonempty]) onlyZero allFraction (by simp; omega)
      have power : -((digits.drop (leading.toNat + 1)).length : Int) = leading + 1 - digits.length := by
        rw [List.length_drop]
        omega
      rwa [List.take_append_drop, power] at read

theorem readsAs_scientific (all : AllDigits digits) (nonempty : digits ≠ []) (width : Nat) (leading : Int) :
    ReadsAs (scientific width digits leading) (natOfDigits digits * (10 : ℚ) ^ (leading + 1 - digits.length)) := by
  obtain ⟨first, others, rfl⟩ := List.exists_cons_of_ne_nil nonempty
  have firstDigit : AllDigits [first] := by
    simpa [AllDigits] using all first List.mem_cons_self
  have otherDigits : AllDigits others := fun char member => all char (List.mem_cons_of_mem first member)
  have power : leading + 1 - ((first :: others).length : Int) = leading - Int.ofNat others.length := by
    rw [List.length_cons, Int.ofNat_eq_natCast]
    omega
  rw [power]
  refine ⟨⟨first, by simp [scientific], all first List.mem_cons_self⟩, _, _, rfl, ?_⟩
  intro negative rest stops
  have readPower := readExponent_scientific width leading stops
  have onlyOne : ([first] : List Char).head? = some '0' → ([first] : List Char).length = 1 := fun _ => rfl
  cases others with
  | nil =>
      have read := readUnsigned_parts firstDigit (by simp) onlyOne stops_mark (readFraction_none (by simp)) readPower
        (Or.inr (by simp)) negative
      simpa [scientific] using read
  | cons second further =>
      have read := readUnsigned_parts firstDigit (by simp) onlyOne stops_point
        (readFraction_digits otherDigits (by simp) stops_mark) readPower (Or.inl (by simp)) negative
      simpa [scientific] using read

theorem natOfDigits_significantDigits (significand : Nat) (scale : Int) :
    natOfDigits (significantDigits significand) *
        (10 : ℚ) ^ (scale + Int.ofNat (Nat.toDigits 10 significand).length - 1 + 1 -
          (significantDigits significand).length) =
      significand * (10 : ℚ) ^ scale := by
  obtain ⟨_, count, whole⟩ := significantDigits_spec significand
  have value : natOfDigits (significantDigits significand) * 10 ^ count = significand := by
    have total := natOfDigits_toDigits significand
    rwa [whole, natOfDigits_append, natOfDigits_zeros, length_zeros, Nat.add_zero] at total
  have power : scale + Int.ofNat (Nat.toDigits 10 significand).length - 1 + 1 -
      (significantDigits significand).length = count + scale := by
    rw [whole, List.length_append, length_zeros, Int.ofNat_eq_natCast]
    push_cast
    omega
  rw [power, zpow_add₀ (by norm_num), zpow_natCast, ← mul_assoc]
  exact_mod_cast congrArg (fun total : ℚ => total * 10 ^ scale) (by exact_mod_cast value)

theorem allDigits_significantDigits (significand : Nat) : AllDigits (significantDigits significand) := by
  obtain ⟨_, count, whole⟩ := significantDigits_spec significand
  intro char member
  exact allDigits_toDigits significand char (by rw [whole]; exact List.mem_append_left _ member)

theorem significantDigits_head {significand : Nat} (positive : 0 < significand) :
    (significantDigits significand).head? ≠ some '0' := by
  obtain ⟨nonempty, count, whole⟩ := significantDigits_spec significand
  have first := toDigits_head positive
  rwa [whole, List.head?_append_of_ne_nil _ nonempty] at first

theorem shortest_positive {mantissa : Nat} {exponent : Int} (canonical : Canonical mantissa exponent)
    (present : 0 < mantissa) : 0 < (shortest mantissa exponent).1 := by
  obtain ⟨low, _⟩ := contains_bounds canonical present (contains_shortest canonical present)
  have least : (0 : ℚ) < 10 ^ (-401 : Int) := by positivity
  refine Nat.pos_of_ne_zero fun nothing => ?_
  rw [nothing, Nat.cast_zero, zero_mul] at low
  exact absurd low (not_lt.mpr least.le)

theorem readsAs_render {value : Float} {negative : Bool} {mantissa : Nat} {exponent : Int}
    (finite : Double.ofFloat value = .finite negative mantissa exponent) (layout : Layout) :
    ∃ chars, layout.render value = signed negative chars ∧
      ReadsAs chars ((shortest mantissa exponent).1 * (10 : ℚ) ^ (shortest mantissa exponent).2) := by
  obtain ⟨canonical, _⟩ := canonical_of_finite finite
  have zeroFirst : (significantDigits (shortest mantissa exponent).1).head? = some '0' → mantissa = 0 := by
    intro zeroFirst
    by_contra present
    exact significantDigits_head (shortest_positive canonical (Nat.pos_of_ne_zero present)) zeroFirst
  simp only [Layout.render, finite]
  generalize chosen : shortest mantissa exponent = found at zeroFirst
  obtain ⟨significand, scale⟩ := found
  obtain ⟨nonempty, _⟩ := significantDigits_spec significand
  rw [← natOfDigits_significantDigits]
  split
  · refine ⟨_, rfl, readsAs_plain (allDigits_significantDigits significand) nonempty fun first => ?_⟩
    have nothing : (0, 0) = (significand, scale) := by rw [← chosen, shortest, if_pos (zeroFirst first)]
    cases nothing
    exact ⟨rfl, by decide⟩
  · exact ⟨_, rfl, readsAs_scientific (allDigits_significantDigits significand) nonempty _ _⟩

theorem not_minus {char : Char} (isDigit : char.isDigit = true) : char ≠ '-' := by
  rintro rfl
  exact absurd isDigit (by decide)

theorem readNumber_unsigned {chars : List Char} (first : ∃ char ∈ chars.head?, char.isDigit = true) (rest : List Char) :
    readNumber (chars ++ rest) = readUnsigned false (chars ++ rest) := by
  cases chars with
  | nil =>
      obtain ⟨_, impossible, _⟩ := first
      cases impossible
  | cons char others =>
      obtain ⟨_, ⟨⟩, isDigit⟩ := first
      simp [readNumber, not_minus isDigit]

def Numeric (chars : List Char) : Prop :=
  ∃ first ∈ chars.head?, first = '-' ∨ first.isDigit = true

/-- A finite number is read back as it was written. -/
theorem readNumber_renderFloat {value : Float} (finite : value.isFinite = true) {rest : List Char} (stops : Stops rest) :
    readNumber (renderFloat value ++ rest) = some (.float value, rest) := by
  obtain ⟨negative, mantissa, exponent, same⟩ := (isFinite_iff value).mp finite
  obtain ⟨chars, written, first, digits, power, number, read⟩ := readsAs_render same numberLayout
  have unsigned := read negative rest stops
  rw [ofDecimal_shortest same number, finite?, if_pos finite] at unsigned
  rw [renderFloat, if_pos finite, written]
  cases negative with
  | true => simpa [signed, readNumber] using unsigned
  | false =>
      simp only [signed, Bool.false_eq_true, if_false, String.toList_ofList]
      rw [readNumber_unsigned first]
      exact unsigned

theorem numeric_renderFloat {value : Float} (finite : value.isFinite = true) : Numeric (renderFloat value) := by
  obtain ⟨negative, mantissa, exponent, same⟩ := (isFinite_iff value).mp finite
  obtain ⟨chars, written, ⟨first, head, isDigit⟩, _⟩ := readsAs_render same numberLayout
  rw [renderFloat, if_pos finite, written]
  cases negative with
  | true => exact ⟨'-', by simp [signed], Or.inl rfl⟩
  | false => exact ⟨first, by simpa [signed] using head, Or.inr isDigit⟩

theorem toList_toString (value : Int) :
    (toString value).toList = if value < 0 then '-' :: Nat.toDigits 10 value.natAbs else Nat.toDigits 10 value.natAbs := by
  cases value with
  | ofNat magnitude =>
      have nonnegative : ¬ Int.ofNat magnitude < 0 := Int.not_lt.mpr (Int.natCast_nonneg magnitude)
      rw [if_neg nonnegative]
      exact String.toList_ofList
  | negSucc magnitude =>
      rw [if_pos (Int.negSucc_lt_zero magnitude)]
      exact (String.toList_append).trans (congrArg ('-' :: ·) String.toList_ofList)

theorem toDigits_first (number : Nat) : ∃ first ∈ (Nat.toDigits 10 number).head?, first.isDigit = true := by
  have first := head_isDigit (allDigits_toDigits number) Nat.toDigits_ne_nil []
  rwa [List.append_nil] at first

theorem readUnsigned_toDigits (negative : Bool) (number : Nat) {rest : List Char} (stops : Stops rest) :
    readUnsigned negative (Nat.toDigits 10 number ++ rest) =
      (wholeNumber? negative number).map fun value => (value, rest) := by
  have noPoint : rest.head? ≠ some '.' := fun point => (stops '.' point).2.1 rfl
  have accepted : ((Nat.toDigits 10 number).isEmpty ||
      ((Nat.toDigits 10 number).head? == some '0' && (Nat.toDigits 10 number).length != 1)) = false := by
    rcases Nat.eq_zero_or_pos number with rfl | positive
    · rfl
    · simp [toDigits_head positive, Nat.toDigits_ne_nil]
  simp only [readUnsigned, span_digits (allDigits_toDigits number) stops.digits, accepted, Bool.false_eq_true, if_false,
    readFraction_none noPoint, readExponent_none stops, Option.bind_eq_bind, Option.bind_some, List.append_nil,
    natOfDigits_toDigits, List.isEmpty_nil, Option.isNone_none, Bool.and_self, if_true]
  cases wholeNumber? negative number <;> rfl

theorem readNumber_int {value : Int} (exact : Exact value) {rest : List Char} (stops : Stops rest) :
    readNumber ((toString value).toList ++ rest) = some (.int value, rest) := by
  obtain ⟨least, most⟩ := exact
  rw [toList_toString]
  split
  · rename_i negative
    have small : value.natAbs ≤ 0x8000000000000000 := by omega
    have back : -Int.ofNat value.natAbs = value := by
      rw [Int.ofNat_eq_natCast]
      omega
    rw [List.cons_append, readNumber, readUnsigned_toDigits true _ stops, wholeNumber?, if_pos rfl, if_pos small, back]
    rfl
  · rename_i negative
    have small : value.natAbs < 0x10000000000000000 := by omega
    have back : Int.ofNat value.natAbs = value := by
      rw [Int.ofNat_eq_natCast]
      omega
    rw [readNumber_unsigned (toDigits_first _), readUnsigned_toDigits false _ stops, wholeNumber?,
      if_neg (by decide), if_pos small, back]
    rfl

theorem numeric_int (value : Int) : Numeric (toString value).toList := by
  rw [toList_toString]
  split
  · exact ⟨'-', rfl, Or.inl rfl⟩
  · obtain ⟨first, head, isDigit⟩ := toDigits_first value.natAbs
    exact ⟨first, head, Or.inr isDigit⟩

end Json

end InputBinding
