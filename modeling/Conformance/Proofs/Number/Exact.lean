import Conformance.Number
import Conformance.Proofs.Number.Rounding
import Mathlib.Data.Rat.Floor
/-!
Doubles as rationals. A finite double is a whole number of units, hence a rational (`Double.toRat`), and
the order, the equality and the integer parts of finite doubles are those of the rationals. Doubles that
are the same rational are the same double, but for the two zeros (`Double.eq_of_units_eq`).
-/

namespace Conformance

/-- The integer part of a rational, towards zero. -/
def towardZero (amount : ℚ) : ℤ := if 0 ≤ amount then ⌊amount⌋ else ⌈amount⌉

theorem abs_intCast_le_iff {whole : ℤ} {bound : ℕ} : |(whole : ℚ)| ≤ bound ↔ whole.natAbs ≤ bound := by
  rw [← Int.cast_abs, Int.abs_eq_natAbs, Int.cast_natCast, Nat.cast_le]

namespace Double

/-- The rational that a finite double is. -/
def toRat (double : Double) : ℚ := double.units / unitsPerOne

section Classes

variable {double : Double}

theorem isFinite_of_isNaN (nan : double.isNaN = true) : double.isFinite = false := by
  unfold isFinite
  rw [(Bool.and_eq_true_iff.mp nan).1]
  rfl

theorem isNaN_of_isFinite (finite : double.isFinite = true) : double.isNaN = false := by
  by_contra nan
  rw [isFinite_of_isNaN (Bool.of_not_eq_false nan)] at finite
  cases finite

theorem isInfinite_of_isFinite (finite : double.isFinite = true) : double.isInfinite = false := by
  unfold isFinite at finite
  unfold isInfinite
  rw [Bool.not_eq_true' _ |>.mp finite, Bool.false_and]

end Classes

section Order

variable {double left right : Double} {whole : ℤ} {bound : ℕ}

theorem cast_unitsPerOne_pos : (0 : ℚ) < unitsPerOne := Nat.cast_pos.mpr unitsPerOne_pos

theorem natAbs_units : double.units.natAbs = double.magnitude := by
  unfold units
  split <;> omega

theorem toRat_le_toRat_iff : left.toRat ≤ right.toRat ↔ left.units ≤ right.units := by
  unfold toRat
  rw [div_le_div_iff_of_pos_right cast_unitsPerOne_pos, Int.cast_le]

theorem toRat_lt_toRat_iff : left.toRat < right.toRat ↔ left.units < right.units := by
  unfold toRat
  rw [div_lt_div_iff_of_pos_right cast_unitsPerOne_pos, Int.cast_lt]

theorem toRat_eq_toRat_iff : left.toRat = right.toRat ↔ left.units = right.units := by
  rw [le_antisymm_iff, le_antisymm_iff, toRat_le_toRat_iff, toRat_le_toRat_iff]

theorem toRat_eq_iff : double.toRat = whole ↔ double.units = whole * unitsPerOne := by
  unfold toRat
  rw [div_eq_iff cast_unitsPerOne_pos.ne']
  exact_mod_cast Iff.rfl

theorem natAbs_mul_unitsPerOne :
    (whole * unitsPerOne : ℤ).natAbs = whole.natAbs * unitsPerOne := by
  rw [Int.natAbs_mul, Int.natAbs_natCast]

theorem magnitude_of_toRat_eq (same : double.toRat = whole) :
    double.magnitude = whole.natAbs * unitsPerOne := by
  rw [← natAbs_units, toRat_eq_iff.mp same, natAbs_mul_unitsPerOne]

theorem toRat_le_iff : double.toRat ≤ whole ↔ double.units ≤ whole * unitsPerOne := by
  unfold toRat
  rw [div_le_iff₀ cast_unitsPerOne_pos]
  exact_mod_cast Iff.rfl

theorem le_toRat_iff : whole ≤ double.toRat ↔ whole * unitsPerOne ≤ double.units := by
  unfold toRat
  rw [le_div_iff₀ cast_unitsPerOne_pos]
  exact_mod_cast Iff.rfl

theorem abs_toRat_le_iff : |double.toRat| ≤ bound ↔ double.magnitude ≤ bound * unitsPerOne := by
  have above : double.toRat ≤ ((bound : ℤ) : ℚ) ↔ double.units ≤ bound * unitsPerOne := toRat_le_iff
  have below : ((-bound : ℤ) : ℚ) ≤ double.toRat ↔ -bound * unitsPerOne ≤ double.units :=
    le_toRat_iff
  rw [Int.cast_natCast] at above
  rw [Int.cast_neg, Int.cast_natCast] at below
  have product : (-bound : ℤ) * unitsPerOne = -((bound * unitsPerOne : ℕ) : ℤ) := by
    rw [Int.neg_mul, Nat.cast_mul]
  rw [abs_le, above, below, product, ← natAbs_units, ← Nat.cast_mul]
  omega

end Order

section Parts

variable {double : Double}

theorem floor_eq : double.floor = ⌊double.toRat⌋ := by
  unfold floor toRat
  rw [Rat.floor_intCast_div_natCast, Int.fdiv_eq_ediv_of_nonneg _ (Int.natCast_nonneg _)]

theorem ceiling_eq : double.ceiling = ⌈double.toRat⌉ := by
  unfold ceiling toRat
  rw [Rat.ceil_intCast_div_natCast, Int.fdiv_eq_ediv_of_nonneg _ (Int.natCast_nonneg _)]

theorem toRat_nonneg_iff : 0 ≤ double.toRat ↔ 0 ≤ double.units := by
  have cast : ((0 : ℤ) : ℚ) ≤ double.toRat ↔ 0 * (unitsPerOne : ℤ) ≤ double.units := le_toRat_iff
  rwa [Int.cast_zero, Int.zero_mul] at cast

theorem truncated_eq : double.truncated = towardZero double.toRat := by
  unfold towardZero
  rw [← floor_eq, ← ceiling_eq]
  unfold truncated floor ceiling
  split
  · rename_i nonneg
    rw [Int.fdiv_eq_tdiv_of_nonneg (toRat_nonneg_iff.mp nonneg) (Int.natCast_nonneg _)]
  · rename_i negative
    have below : double.units < 0 := by rwa [toRat_nonneg_iff, Int.not_le] at negative
    rw [Int.fdiv_eq_tdiv_of_nonneg (by omega) (Int.natCast_nonneg _), Int.neg_tdiv, Int.neg_neg]

theorem isIntegral_iff : double.isIntegral = true ↔
    double.isFinite = true ∧ ∃ whole : ℤ, double.toRat = whole := by
  unfold isIntegral
  rw [Bool.and_eq_true, beq_iff_eq, ← natAbs_units, ← Nat.dvd_iff_mod_eq_zero,
    ← Int.natCast_dvd]
  refine and_congr_right fun _ => ⟨?_, ?_⟩
  · rintro ⟨whole, product⟩
    exact ⟨whole, toRat_eq_iff.mpr (by rw [product, Int.mul_comm])⟩
  · rintro ⟨whole, same⟩
    rw [toRat_eq_iff.mp same]
    exact Int.dvd_mul_left _ _

end Parts

section Significands

variable {double left right : Double}

theorem significand_lt : double.significand < 2 ^ 53 := by
  have fraction := double.fraction.isLt
  unfold significand
  rw [Nat.pow_eq]
  split <;> omega

/-- Only at the least size of steps the significand has a leading zero. -/
theorem le_significand (coarse : 0 < double.shift) : 2 ^ 52 ≤ double.significand := by
  have notLeast : double.exponent ≠ 0#11 := by
    intro least
    unfold shift at coarse
    rw [least] at coarse
    exact absurd coarse (by decide)
  unfold significand
  rw [if_neg notLeast, Nat.pow_eq]
  exact Nat.le_add_right _ _

/-- From `2 ^ 53` on doubles are whole. -/
theorem isIntegral_of_large (finite : double.isFinite = true)
    (large : 2 ^ 53 * unitsPerOne ≤ double.magnitude) : double.isIntegral = true := by
  obtain ⟨bits, _, unit⟩ := exists_unitsPerOne_eq
  have coarse : bits ≤ double.shift := by
    by_contra fine
    have steps : 2 ^ double.shift ≤ unitsPerOne := by
      rw [unit]
      exact Nat.pow_le_pow_right Nat.two_pos (by omega)
    have magnitude : double.magnitude < 2 ^ 53 * unitsPerOne := by
      unfold magnitude
      exact Nat.mul_lt_mul_of_lt_of_le significand_lt steps unitsPerOne_pos
    omega
  have divides : unitsPerOne ∣ double.magnitude := by
    rw [unit]
    exact Nat.dvd_mul_left_of_dvd (Nat.pow_dvd_pow 2 coarse) _
  unfold isIntegral
  rw [finite, Bool.true_and, beq_iff_eq]
  exact Nat.mod_eq_zero_of_dvd divides

theorem shift_le_of_magnitude_eq (same : left.magnitude = right.magnitude) :
    right.shift ≤ left.shift := by
  by_contra finer
  have coarse : 2 ^ 52 ≤ right.significand := le_significand (by omega)
  have steps : right.shift = left.shift + 1 + (right.shift - left.shift - 1) := by omega
  have one := Nat.two_pow_pos (right.shift - left.shift - 1)
  have product : left.significand * 2 ^ left.shift =
      right.significand * 2 * 2 ^ (right.shift - left.shift - 1) * 2 ^ left.shift := by
    unfold magnitude at same
    rw [Nat.pow_eq, Nat.pow_eq, steps, Nat.pow_add, Nat.pow_succ] at same
    rw [same]
    ring
  have significands := Nat.eq_of_mul_eq_mul_right (Nat.two_pow_pos _) product
  have short : left.significand < 2 ^ 53 := significand_lt
  nlinarith

theorem fields_eq_of_magnitude_eq (same : left.magnitude = right.magnitude) :
    left.exponent = right.exponent ∧ left.fraction = right.fraction := by
  have shifts : left.shift = right.shift :=
    Nat.le_antisymm (shift_le_of_magnitude_eq same.symm) (shift_le_of_magnitude_eq same)
  have significands : left.significand = right.significand := by
    unfold magnitude at same
    rw [shifts] at same
    exact Nat.eq_of_mul_eq_mul_right (Nat.two_pow_pos _) same
  have short := left.fraction.isLt
  have short' := right.fraction.isLt
  unfold shift at shifts
  unfold significand at significands
  rw [Nat.pow_eq] at significands
  by_cases least : left.exponent = 0#11
  · by_cases least' : right.exponent = 0#11
    · rw [if_pos least, if_pos least'] at significands
      exact ⟨least.trans least'.symm, BitVec.eq_of_toNat_eq significands⟩
    · rw [if_pos least, if_neg least'] at significands
      omega
  · by_cases least' : right.exponent = 0#11
    · rw [if_neg least, if_pos least'] at significands
      omega
    · have nonzero : left.exponent.toNat ≠ 0 := fun zero => least (BitVec.eq_of_toNat_eq zero)
      have nonzero' : right.exponent.toNat ≠ 0 := fun zero => least' (BitVec.eq_of_toNat_eq zero)
      rw [if_neg least, if_neg least'] at significands
      exact ⟨BitVec.eq_of_toNat_eq (by omega), BitVec.eq_of_toNat_eq (by omega)⟩

/-- Finite doubles of the same units are the same, but for the two zeros. -/
theorem eq_of_units_eq (same : left.units = right.units) :
    left = right ∨ left.magnitude = 0 ∧ right.magnitude = 0 := by
  have magnitudes : left.magnitude = right.magnitude := by
    rw [← natAbs_units, ← natAbs_units, same]
  obtain ⟨exponents, fractions⟩ := fields_eq_of_magnitude_eq magnitudes
  by_cases signs : left.negative = right.negative
  · left
    cases left
    cases right
    cases signs
    cases exponents
    cases fractions
    rfl
  · -- Opposite units are equal only if they are zero.
    right
    have opposite : right.negative = !left.negative := (Bool.not_eq.mpr signs).symm
    unfold units at same
    rw [opposite, ← magnitudes] at same
    rw [← magnitudes, and_self]
    cases sign : left.negative with
    | false =>
        rw [sign] at same
        simp only [Bool.not_false, Bool.false_eq_true, if_false, if_true] at same
        omega
    | true =>
        rw [sign] at same
        simp only [Bool.not_true, Bool.false_eq_true, if_false, if_true] at same
        omega

end Significands

end Double

namespace Number

/-- The rational that a number is, if it is one. -/
def rational? : Number → Option ℚ
  | .int value => some value.toInt
  | .float value => if value.isFinite then some value.toRat else none

theorem rational?_float {double : Double} :
    (float double).rational? = if double.isFinite then some double.toRat else none :=
  rfl

theorem rational?_float_eq_some {double : Double} {amount : ℚ} :
    (float double).rational? = some amount ↔ double.isFinite = true ∧ double.toRat = amount := by
  rw [rational?_float, Option.ite_none_right_eq_some, Option.some.injEq]

theorem natAbs_toInt_lt {whole : Int64} : whole.toInt.natAbs < 2 ^ 64 := by
  have lower := whole.le_toInt
  have upper := whole.toInt_lt
  omega

theorem isFinite_toDouble_int {whole : Int64} : (int whole).toDouble.isFinite = true :=
  Double.isFinite_ofInt natAbs_toInt_lt

theorem isExactRange_iff {double : Double} : isExactRange double = true ↔
    double.isFinite = true ∧ |double.toRat| ≤ exactLimit := by
  unfold isExactRange
  rw [Bool.and_eq_true, decide_eq_true_eq, Double.abs_toRat_le_iff]

end Number

end Conformance
