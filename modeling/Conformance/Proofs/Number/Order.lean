import Conformance.Proofs.Number.Comparison
/-!
The order of numbers. Rounding an integer carries it past no double, so numbers that are in order as
rationals compare in that order, however they are held (`Number.isAtMost_of_le`). Two numbers next to each
other may compare as equal, but never the wrong way round.
-/

namespace Conformance

namespace Double

section Magnitudes

variable {double : Double} {number : Nat} {negative : Bool}

theorem magnitude_lt : double.magnitude < 2 ^ 53 * 2 ^ double.shift := by
  unfold magnitude
  rw [Nat.pow_eq]
  exact Nat.mul_lt_mul_of_pos_right significand_lt (Nat.two_pow_pos _)

/-- A double whose steps are not finer than given ones is a whole number of these. -/
theorem magnitude_eq_of_shift_le {steps : Nat} (coarse : steps ≤ double.shift) :
    double.magnitude = double.significand * 2 ^ (double.shift - steps) * 2 ^ steps := by
  unfold magnitude
  rw [Nat.pow_eq, Nat.mul_assoc, ← Nat.pow_add, Nat.sub_add_cancel coarse]

/-- A double of finer steps than a natural number is less than `2 ^ 52` steps of the number. -/
theorem magnitude_lt_of_shift_lt {steps : Nat} (finer : double.shift < steps) :
    double.magnitude < 2 ^ 52 * 2 ^ steps :=
  calc
    double.magnitude < 2 ^ 53 * 2 ^ double.shift := magnitude_lt
    _ = 2 ^ 52 * 2 ^ (double.shift + 1) := by
      rw [Nat.pow_succ 2 double.shift]
      ring
    _ ≤ 2 ^ 52 * 2 ^ steps := Nat.mul_le_mul_left _ (Nat.pow_le_pow_right Nat.two_pos finer)

theorem magnitude_nearest_le (bounded : number < 2 ^ 64)
    (above : number * unitsPerOne ≤ double.magnitude) :
    (nearest negative number 1).magnitude ≤ double.magnitude := by
  have exponent : stepExponent number 1 ≤ 64 + 1022 := stepExponent_le bounded
  rw [magnitude_nearest Nat.one_pos (by omega)]
  rcases Nat.lt_or_ge double.shift (stepExponent number 1) with finer | coarser
  · have few : 2 ^ 52 * 2 ^ stepExponent number 1 ≤ number * unitsPerOne := by
      have least := pow_mul_le Nat.one_pos (Nat.zero_lt_of_lt finer)
      rwa [Nat.one_mul] at least
    exact absurd (few.trans above) (Nat.not_le.mpr (magnitude_lt_of_shift_lt finer))
  · have whole := magnitude_eq_of_shift_le coarser
    rw [whole] at above ⊢
    rw [← Nat.one_mul (2 ^ stepExponent number 1)] at above
    exact Nat.mul_le_mul_right _
      (roundHalfEven_le (Nat.mul_pos Nat.one_pos (Nat.two_pow_pos _)) above)

theorem le_magnitude_nearest (bounded : number < 2 ^ 64)
    (below : double.magnitude ≤ number * unitsPerOne) :
    double.magnitude ≤ (nearest negative number 1).magnitude := by
  have exponent : stepExponent number 1 ≤ 64 + 1022 := stepExponent_le bounded
  rw [magnitude_nearest Nat.one_pos (by omega)]
  rcases Nat.lt_or_ge double.shift (stepExponent number 1) with finer | coarser
  · have count : 2 ^ 52 ≤ stepCount number 1 := le_stepCount Nat.one_pos (Nat.zero_lt_of_lt finer)
    exact (magnitude_lt_of_shift_lt finer).le.trans (Nat.mul_le_mul_right _ count)
  · have whole := magnitude_eq_of_shift_le coarser
    rw [whole] at below ⊢
    rw [← Nat.one_mul (2 ^ stepExponent number 1)] at below
    exact Nat.mul_le_mul_right _
      (le_roundHalfEven (Nat.mul_pos Nat.one_pos (Nat.two_pow_pos _)) below)

end Magnitudes

section Integers

variable {double : Double} {whole : ℤ}

/-- Rounding an integer carries it past no double above it. -/
theorem toRat_ofInt_le (bounded : whole.natAbs < 2 ^ 64) (below : whole ≤ double.toRat) :
    (ofInt whole).toRat ≤ double.toRat := by
  have size : double.units.natAbs = double.magnitude := natAbs_units
  rw [le_toRat_iff] at below
  rw [toRat_le_toRat_iff, units_ofInt_eq bounded]
  split
  · rename_i negative
    rcases Int.lt_or_le double.units 0 with negative' | nonneg'
    · have near : double.magnitude ≤ whole.natAbs * unitsPerOne := by
        rw [← natAbs_mul_unitsPerOne]
        omega
      have rounded : double.magnitude ≤ (ofInt whole).magnitude := le_magnitude_nearest bounded near
      omega
    · omega
  · rename_i nonneg
    have least : 0 ≤ whole * (unitsPerOne : ℤ) :=
      Int.mul_nonneg (Int.not_lt.mp nonneg) (Int.natCast_nonneg _)
    have near : whole.natAbs * unitsPerOne ≤ double.magnitude := by
      rw [← natAbs_mul_unitsPerOne]
      omega
    have rounded : (ofInt whole).magnitude ≤ double.magnitude := magnitude_nearest_le bounded near
    omega

/-- Rounding an integer carries it past no double below it. -/
theorem le_toRat_ofInt (bounded : whole.natAbs < 2 ^ 64) (above : double.toRat ≤ whole) :
    double.toRat ≤ (ofInt whole).toRat := by
  have size : double.units.natAbs = double.magnitude := natAbs_units
  rw [toRat_le_iff] at above
  rw [toRat_le_toRat_iff, units_ofInt_eq bounded]
  split
  · rename_i negative
    have most : whole * (unitsPerOne : ℤ) ≤ 0 :=
      Int.mul_nonpos_of_nonpos_of_nonneg negative.le (Int.natCast_nonneg _)
    have near : whole.natAbs * unitsPerOne ≤ double.magnitude := by
      rw [← natAbs_mul_unitsPerOne]
      omega
    have rounded : (ofInt whole).magnitude ≤ double.magnitude := magnitude_nearest_le bounded near
    omega
  · rename_i nonneg
    rcases Int.lt_or_le double.units 0 with negative' | nonneg'
    · omega
    · have near : double.magnitude ≤ whole.natAbs * unitsPerOne := by
        rw [← natAbs_mul_unitsPerOne]
        omega
      have rounded : double.magnitude ≤ (ofInt whole).magnitude := le_magnitude_nearest bounded near
      omega

end Integers

section Comparison

variable {left right double : Double}

theorem less_iff_of_isFinite (finite : left.isFinite = true) (finite' : right.isFinite = true) :
    left.less right = true ↔ left.toRat < right.toRat := by
  unfold less
  rw [isNaN_of_isFinite finite, isNaN_of_isFinite finite', isInfinite_of_isFinite finite,
    isInfinite_of_isFinite finite', toRat_lt_toRat_iff]
  exact decide_eq_true_iff

theorem compare?_iff :
    (left.compare? right = some .lt ∨ left.compare? right = some .eq) ↔
      left.isNaN = false ∧ right.isNaN = false ∧ (left.less right = true ∨ left.equal right = true) := by
  unfold compare?
  rw [← and_assoc, ← Bool.or_eq_false_iff]
  cases left.isNaN || right.isNaN <;> cases left.less right <;> cases left.equal right <;> simp

theorem compare?_iff_of_isFinite (finite : left.isFinite = true) (finite' : right.isFinite = true) :
    (left.compare? right = some .lt ∨ left.compare? right = some .eq) ↔ left.toRat ≤ right.toRat := by
  rw [compare?_iff, less_iff_of_isFinite finite finite', equal_iff_of_isFinite finite,
    and_iff_right (isNaN_of_isFinite finite), and_iff_right (isNaN_of_isFinite finite'),
    and_iff_right finite', le_iff_lt_or_eq]

end Comparison

end Double

namespace Number

variable {left right number : Number} {amount amount' : ℚ}

theorem isAtMost_iff : left.isAtMost right = true ↔
    left.compare? right = some .lt ∨ left.compare? right = some .eq := by
  unfold isAtMost
  split
  · rename_i found
    rw [found]
    exact iff_of_true rfl (.inl rfl)
  · rename_i found
    rw [found]
    exact iff_of_true rfl (.inr rfl)
  · rename_i other other'
    exact iff_of_false Bool.false_ne_true (not_or.mpr ⟨other, other'⟩)

theorem isAtMost_int_iff {left right : Int64} :
    (int left).isAtMost (int right) = true ↔ left.toInt ≤ right.toInt := by
  have compared : (int left).compare? (int right) = some (compare left.toInt right.toInt) := rfl
  rw [isAtMost_iff, compared, Option.some.injEq, Option.some.injEq, compare_lt_iff_lt,
    compare_eq_iff_eq, le_iff_lt_or_eq]

theorem compare?_of_mixed (mixed : (left.isInteger && right.isInteger) = false) :
    left.compare? right = left.toDouble.compare? right.toDouble := by
  cases left with
  | float => rfl
  | int =>
      cases right with
      | float => rfl
      | int => cases mixed

theorem isFinite_of_rational? (reads : number.rational? = some amount) :
    number.toDouble.isFinite = true := by
  cases number with
  | int => exact isFinite_toDouble_int
  | float => exact (rational?_float_eq_some.mp reads).1

theorem isAtMost_iff_of_mixed (mixed : (left.isInteger && right.isInteger) = false)
    (finite : left.toDouble.isFinite = true) (finite' : right.toDouble.isFinite = true) :
    left.isAtMost right = true ↔ left.toDouble.toRat ≤ right.toDouble.toRat := by
  rw [isAtMost_iff, compare?_of_mixed mixed, Double.compare?_iff_of_isFinite finite finite']

/-- Numbers in order as rationals compare in that order. -/
theorem isAtMost_of_le (reads : left.rational? = some amount) (reads' : right.rational? = some amount')
    (atMost : amount ≤ amount') : left.isAtMost right = true := by
  have finite := isFinite_of_rational? reads
  have finite' := isFinite_of_rational? reads'
  cases left with
  | int whole =>
      cases Option.some.inj reads
      cases right with
      | int whole' =>
          cases Option.some.inj reads'
          exact isAtMost_int_iff.mpr (Int.cast_le.mp atMost)
      | float double' =>
          obtain ⟨_, rfl⟩ := rational?_float_eq_some.mp reads'
          rw [isAtMost_iff_of_mixed rfl finite finite']
          exact Double.toRat_ofInt_le natAbs_toInt_lt atMost
  | float double =>
      obtain ⟨_, rfl⟩ := rational?_float_eq_some.mp reads
      rw [isAtMost_iff_of_mixed rfl finite finite']
      cases right with
      | int whole' =>
          cases Option.some.inj reads'
          exact Double.le_toRat_ofInt natAbs_toInt_lt atMost
      | float double' =>
          obtain ⟨_, rfl⟩ := rational?_float_eq_some.mp reads'
          exact atMost

/-- A number that is one is at most the double nearest to it, and the other way round. -/
theorem isAtMost_toDouble (proper : number.toDouble.isNaN = false) :
    number.isAtMost (float number.toDouble) = true ∧
      (float number.toDouble).isAtMost number = true := by
  have same : number.toDouble.equal number.toDouble = true := Double.equal_self_iff.mpr proper
  constructor
  · rw [isAtMost_iff, compare?_of_mixed (Bool.and_false _)]
    exact Double.compare?_iff.mpr ⟨proper, proper, .inr same⟩
  · have mixed : ((float number.toDouble).isInteger && number.isInteger) = false := rfl
    rw [isAtMost_iff, compare?_of_mixed mixed]
    exact Double.compare?_iff.mpr ⟨proper, proper, .inr same⟩

/-- Nothing compares with the double that is no number. -/
theorem isNaN_of_isAtMost (atMost : left.isAtMost right = true) :
    left.toDouble.isNaN = false ∧ right.toDouble.isNaN = false := by
  cases mixed : left.isInteger && right.isInteger with
  | true =>
      cases left with
      | float => cases mixed
      | int =>
          cases right with
          | float => cases mixed
          | int =>
              exact ⟨Double.isNaN_of_isFinite isFinite_toDouble_int,
                Double.isNaN_of_isFinite isFinite_toDouble_int⟩
  | false =>
      rw [isAtMost_iff, compare?_of_mixed mixed, Double.compare?_iff] at atMost
      exact ⟨atMost.1, atMost.2.1⟩

end Number

end Conformance
