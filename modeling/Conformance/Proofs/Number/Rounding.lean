import Conformance.Double
import Mathlib.Algebra.Order.Ring.Nat
import Mathlib.Tactic.Linarith
import Mathlib.Tactic.Ring
/-!
Rounding to doubles. A quotient of natural numbers is measured in steps, of a size that leaves between
`2 ^ 52` and `2 ^ 53` of them, and the nearest number of steps is the magnitude of the nearest double
(`Double.magnitude_nearest`). Where the number of steps is whole, nothing is rounded.
-/

namespace Conformance

namespace Double

/-- How often a unit is doubled until it is one. The number is kept out of the powers of two below, so
that none of them is written out. -/
theorem exists_unitsPerOne_eq : ∃ bits, bits = 1074 ∧ unitsPerOne = 2 ^ bits := by
  obtain ⟨bits, size⟩ : ∃ bits, bits = 1074 := ⟨_, rfl⟩
  refine ⟨bits, size, ?_⟩
  unfold unitsPerOne
  rw [← size, Nat.pow_eq]

theorem unitsPerOne_pos : 0 < unitsPerOne := by
  obtain ⟨bits, _, unit⟩ := exists_unitsPerOne_eq
  rw [unit]
  exact Nat.two_pow_pos bits

section Halves

variable {numerator denominator bound : Nat}

/-- Rounding gives at most a bound if the quotient lies below the half behind it, or on this half and
the bound is even. -/
theorem roundHalfEven_le_iff (positive : 0 < denominator) :
    roundHalfEven numerator denominator ≤ bound ↔
      2 * numerator < (2 * bound + 1) * denominator ∨
        2 * numerator = (2 * bound + 1) * denominator ∧ bound % 2 = 0 := by
  have parts := Nat.div_add_mod numerator denominator
  have rest := Nat.mod_lt numerator positive
  have rounded : roundHalfEven numerator denominator =
      if 2 * (numerator % denominator) < denominator then numerator / denominator
      else if denominator < 2 * (numerator % denominator) then numerator / denominator + 1
      else numerator / denominator + numerator / denominator % 2 := rfl
  rw [rounded]
  generalize numerator % denominator = remainder at *
  generalize numerator / denominator = whole at *
  rcases Nat.lt_trichotomy whole bound with below | rfl | above
  · have far : denominator * (whole + 1) ≤ denominator * bound := Nat.mul_le_mul_left _ below
    have left : 2 * numerator < (2 * bound + 1) * denominator := by nlinarith
    refine ⟨fun _ => .inl left, fun _ => ?_⟩
    split
    · omega
    · split <;> omega
  · have half : (2 * whole + 1) * denominator = 2 * (denominator * whole) + denominator := by ring
    rw [half]
    split
    · omega
    · split <;> omega
  · have far : denominator * (bound + 1) ≤ denominator * whole := Nat.mul_le_mul_left _ above
    have right : (2 * bound + 1) * denominator < 2 * numerator := by nlinarith
    constructor
    · intro small
      split at small
      · omega
      · split at small <;> omega
    · rintro (left | ⟨same, _⟩) <;> omega

theorem le_roundHalfEven (positive : 0 < denominator) (above : bound * denominator ≤ numerator) :
    bound ≤ roundHalfEven numerator denominator := by
  by_contra less
  have below : roundHalfEven numerator denominator ≤ bound - 1 := by omega
  have left : 2 * numerator ≤ (2 * (bound - 1) + 1) * denominator := by
    rcases (roundHalfEven_le_iff positive).mp below with left | ⟨same, _⟩
    · exact left.le
    · exact same.le
  have nonzero : 2 * (bound - 1) + 1 < 2 * bound := by omega
  have short := Nat.mul_lt_mul_of_pos_right nonzero positive
  have double : 2 * bound * denominator = 2 * (bound * denominator) := Nat.mul_assoc ..
  omega

theorem roundHalfEven_le (positive : 0 < denominator) (below : numerator ≤ bound * denominator) :
    roundHalfEven numerator denominator ≤ bound := by
  refine (roundHalfEven_le_iff positive).mpr (.inl ?_)
  nlinarith

theorem roundHalfEven_mul (positive : 0 < denominator) :
    roundHalfEven (bound * denominator) denominator = bound :=
  Nat.le_antisymm (roundHalfEven_le positive le_rfl) (le_roundHalfEven positive le_rfl)

/-- A common factor of numerator and denominator does not matter. -/
theorem roundHalfEven_mul_mul (positive : 0 < denominator) {factor : Nat} (scales : 0 < factor) :
    roundHalfEven (numerator * factor) (denominator * factor) =
      roundHalfEven numerator denominator := by
  refine eq_of_forall_ge_iff fun limit => ?_
  rw [roundHalfEven_le_iff positive, roundHalfEven_le_iff (Nat.mul_pos positive scales)]
  rw [← Nat.mul_assoc, ← Nat.mul_assoc, Nat.mul_lt_mul_right scales, Nat.mul_left_inj scales.ne']

end Halves

section Codes

variable {negative : Bool} {shift steps : Nat}

/-- The double of a code below the infinite one, field by field. -/
theorem ofCode_eq {code : Nat} (finite : code < 2047 * 2 ^ 52) :
    ofCode negative code =
      ⟨negative, BitVec.ofNat 11 (code / 2 ^ 52), BitVec.ofNat 52 (code % 2 ^ 52)⟩ :=
  if_neg (Nat.not_le.mpr finite)

theorem isFinite_ofCode {code : Nat} (finite : code < 2047 * 2 ^ 52) :
    (ofCode negative code).isFinite = true := by
  have exponent : code / 2 ^ 52 < 2047 := by omega
  have notLargest : BitVec.ofNat 11 (code / 2 ^ 52) ≠ BitVec.allOnes 11 := by
    intro same
    have value := congrArg BitVec.toNat same
    rw [BitVec.toNat_ofNat, BitVec.toNat_allOnes, Nat.mod_eq_of_lt (by omega)] at value
    omega
  rw [ofCode_eq finite]
  unfold isFinite isSpecial
  rw [beq_eq_false_iff_ne.mpr notLargest]
  rfl

theorem magnitude_ofCode_eq {code : Nat} (finite : code < 2047 * 2 ^ 52) :
    (ofCode negative code).magnitude =
      (if code / 2 ^ 52 = 0 then code % 2 ^ 52 else 2 ^ 52 + code % 2 ^ 52) *
        2 ^ (code / 2 ^ 52 - 1) := by
  have exponent : (BitVec.ofNat 11 (code / 2 ^ 52)).toNat = code / 2 ^ 52 := by
    rw [BitVec.toNat_ofNat, Nat.mod_eq_of_lt (by omega)]
  have fraction : (BitVec.ofNat 52 (code % 2 ^ 52)).toNat = code % 2 ^ 52 := by
    rw [BitVec.toNat_ofNat, Nat.mod_eq_of_lt (by omega)]
  have least : BitVec.ofNat 11 (code / 2 ^ 52) = 0#11 ↔ code / 2 ^ 52 = 0 := by
    rw [BitVec.toNat_eq, exponent]
    rfl
  rw [ofCode_eq finite]
  simp only [magnitude, significand, shift, least, exponent, fraction, Nat.pow_eq]

/-- A number of steps of `2 ^ shift` is a double, if the steps fit into the significand, and leave it no
leading zero except at the least size. -/
theorem magnitude_ofCode (fits : steps ≤ 2 ^ 53) (leading : 0 < shift → 2 ^ 52 ≤ steps)
    (small : shift ≤ 2044) :
    (ofCode negative (shift * 2 ^ 52 + steps)).magnitude = steps * 2 ^ shift := by
  rw [magnitude_ofCode_eq (by omega)]
  rcases Nat.lt_or_ge steps (2 ^ 52) with short | long
  · have least : shift = 0 := by
      by_contra nonzero
      have long := leading (Nat.pos_of_ne_zero nonzero)
      omega
    subst least
    have exponent : (0 * 2 ^ 52 + steps) / 2 ^ 52 = 0 := by omega
    have fraction : (0 * 2 ^ 52 + steps) % 2 ^ 52 = steps := by omega
    rw [exponent, fraction, if_pos rfl]
  · rcases Nat.lt_or_ge steps (2 ^ 53) with inside | full
    · have exponent : (shift * 2 ^ 52 + steps) / 2 ^ 52 = shift + 1 := by omega
      have fraction : (shift * 2 ^ 52 + steps) % 2 ^ 52 = steps - 2 ^ 52 := by omega
      have leadingOne : 2 ^ 52 + (steps - 2 ^ 52) = steps := by omega
      rw [exponent, fraction, if_neg (Nat.succ_ne_zero shift), leadingOne, Nat.add_sub_cancel]
    · -- The steps carry over into the next size.
      have carried : steps = 2 ^ 53 := Nat.le_antisymm fits full
      subst carried
      have exponent : (shift * 2 ^ 52 + 2 ^ 53) / 2 ^ 52 = shift + 1 + 1 := by omega
      have fraction : (shift * 2 ^ 52 + 2 ^ 53) % 2 ^ 52 = 0 := by omega
      rw [exponent, fraction, if_neg (Nat.succ_ne_zero _), Nat.add_sub_cancel]
      ring

end Codes

section Nearest

variable {negative : Bool} {numerator denominator : Nat}

/-- The size of the steps in which a quotient is measured, as an exponent of two. -/
def stepExponent (numerator denominator : Nat) : Nat :=
  Nat.log2 (numerator * unitsPerOne / denominator) - 52

/-- The number of steps that is nearest to a quotient. -/
def stepCount (numerator denominator : Nat) : Nat :=
  roundHalfEven (numerator * unitsPerOne) (denominator * 2 ^ stepExponent numerator denominator)

theorem nearest_eq :
    nearest negative numerator denominator =
      ofCode negative
        (stepExponent numerator denominator * 2 ^ 52 + stepCount numerator denominator) :=
  rfl

theorem stepCount_le (positive : 0 < denominator) :
    stepCount numerator denominator ≤ 2 ^ 53 := by
  apply roundHalfEven_le (Nat.mul_pos positive (Nat.two_pow_pos _))
  have size : Nat.log2 (numerator * unitsPerOne / denominator) + 1 ≤
      53 + stepExponent numerator denominator := by
    unfold stepExponent
    omega
  have below : numerator * unitsPerOne / denominator <
      2 ^ (53 + stepExponent numerator denominator) :=
    Nat.lt_of_lt_of_le Nat.lt_log2_self (Nat.pow_le_pow_right Nat.two_pos size)
  have product := (Nat.div_lt_iff_lt_mul positive).mp below
  rw [Nat.pow_add, Nat.mul_assoc, Nat.mul_comm (2 ^ stepExponent numerator denominator)] at product
  exact product.le

theorem pow_mul_le (positive : 0 < denominator) (coarse : 0 < stepExponent numerator denominator) :
    2 ^ 52 * (denominator * 2 ^ stepExponent numerator denominator) ≤ numerator * unitsPerOne := by
  have size : Nat.log2 (numerator * unitsPerOne / denominator) =
      52 + stepExponent numerator denominator := by
    unfold stepExponent at coarse ⊢
    omega
  have nonzero : numerator * unitsPerOne / denominator ≠ 0 := by
    intro zero
    rw [zero, Nat.log2_zero] at size
    omega
  have above := Nat.log2_self_le nonzero
  rw [size] at above
  have product := (Nat.le_div_iff_mul_le positive).mp above
  rwa [Nat.pow_add, Nat.mul_assoc, Nat.mul_comm (2 ^ stepExponent numerator denominator)] at product

theorem le_stepCount (positive : 0 < denominator) (coarse : 0 < stepExponent numerator denominator) :
    2 ^ 52 ≤ stepCount numerator denominator :=
  le_roundHalfEven (Nat.mul_pos positive (Nat.two_pow_pos _)) (pow_mul_le positive coarse)

theorem code_nearest_lt (positive : 0 < denominator)
    (small : stepExponent numerator denominator ≤ 2044) :
    stepExponent numerator denominator * 2 ^ 52 + stepCount numerator denominator <
      2047 * 2 ^ 52 := by
  have fits : stepCount numerator denominator ≤ 2 ^ 53 := stepCount_le positive
  omega

theorem isFinite_nearest (positive : 0 < denominator)
    (small : stepExponent numerator denominator ≤ 2044) :
    (nearest negative numerator denominator).isFinite = true :=
  isFinite_ofCode (code_nearest_lt positive small)

theorem negative_nearest (positive : 0 < denominator)
    (small : stepExponent numerator denominator ≤ 2044) :
    (nearest negative numerator denominator).negative = negative := by
  rw [nearest_eq, ofCode_eq (code_nearest_lt positive small)]

/-- The magnitude of the nearest double is a whole number of steps, the nearest one. -/
theorem magnitude_nearest (positive : 0 < denominator)
    (small : stepExponent numerator denominator ≤ 2044) :
    (nearest negative numerator denominator).magnitude =
      stepCount numerator denominator * 2 ^ stepExponent numerator denominator :=
  magnitude_ofCode (stepCount_le positive) (le_stepCount positive) small

/-- A common factor of numerator and denominator does not matter. -/
theorem nearest_mul_mul (positive : 0 < denominator) {factor : Nat} (scales : 0 < factor) :
    nearest negative (numerator * factor) (denominator * factor) =
      nearest negative numerator denominator := by
  have quotient : numerator * factor * unitsPerOne / (denominator * factor) =
      numerator * unitsPerOne / denominator := by
    rw [Nat.mul_right_comm, Nat.mul_div_mul_right _ _ scales]
  have exponent : stepExponent (numerator * factor) (denominator * factor) =
      stepExponent numerator denominator := by
    unfold stepExponent
    rw [quotient]
  have count : stepCount (numerator * factor) (denominator * factor) =
      stepCount numerator denominator := by
    unfold stepCount
    rw [exponent, Nat.mul_right_comm numerator, Nat.mul_right_comm denominator]
    exact roundHalfEven_mul_mul (Nat.mul_pos positive (Nat.two_pow_pos _)) scales
  rw [nearest_eq, nearest_eq, exponent, count]

end Nearest

section Whole

variable {negative : Bool} {number denominator size : Nat}

/-- A quotient between two powers of two is measured in steps that leave `2 ^ 52` of them to the lower
one. -/
theorem stepExponent_eq (positive : 0 < denominator)
    (above : 2 ^ size * denominator ≤ number * unitsPerOne)
    (below : number * unitsPerOne < 2 ^ (size + 1) * denominator) :
    stepExponent number denominator = size - 52 := by
  have lower : 2 ^ size ≤ number * unitsPerOne / denominator :=
    (Nat.le_div_iff_mul_le positive).mpr above
  have upper : number * unitsPerOne / denominator < 2 ^ (size + 1) :=
    (Nat.div_lt_iff_lt_mul positive).mpr below
  have nonzero : number * unitsPerOne / denominator ≠ 0 :=
    (Nat.lt_of_lt_of_le (Nat.two_pow_pos size) lower).ne'
  unfold stepExponent
  rw [(Nat.log2_eq_iff nonzero).mpr ⟨lower, upper⟩]

theorem stepExponent_one (nonzero : number ≠ 0) :
    stepExponent number 1 = Nat.log2 number + 1022 := by
  obtain ⟨bits, size, unit⟩ := exists_unitsPerOne_eq
  have above : 2 ^ (Nat.log2 number + bits) * 1 ≤ number * unitsPerOne := by
    rw [Nat.mul_one, Nat.pow_add, ← unit]
    exact Nat.mul_le_mul_right _ (Nat.log2_self_le nonzero)
  have below : number * unitsPerOne < 2 ^ (Nat.log2 number + bits + 1) * 1 := by
    rw [Nat.mul_one, Nat.add_right_comm, Nat.pow_add, ← unit]
    exact Nat.mul_lt_mul_of_pos_right Nat.lt_log2_self unitsPerOne_pos
  rw [stepExponent_eq Nat.one_pos above below]
  omega

theorem stepExponent_zero : stepExponent 0 denominator = 0 := by
  unfold stepExponent
  rw [Nat.zero_mul, Nat.zero_div, Nat.log2_zero]

theorem stepExponent_le {bits : Nat} (small : number < 2 ^ bits) :
    stepExponent number denominator ≤ bits + 1022 := by
  obtain ⟨all, total, unit⟩ := exists_unitsPerOne_eq
  unfold stepExponent
  rcases Nat.eq_zero_or_pos (number * unitsPerOne / denominator) with none | some
  · rw [none, Nat.log2_zero]
    exact Nat.zero_le _
  · have below : number * unitsPerOne / denominator < 2 ^ (bits + all) := by
      rw [Nat.pow_add, ← unit]
      exact (Nat.div_le_self _ _).trans_lt (Nat.mul_lt_mul_of_pos_right small unitsPerOne_pos)
    have log := (Nat.log2_lt some.ne').mpr below
    omega

/-- A quotient that is a whole number of steps is not rounded. -/
theorem magnitude_nearest_of_dvd (positive : 0 < denominator)
    (small : stepExponent number denominator ≤ 2044)
    (divides : denominator * 2 ^ stepExponent number denominator ∣ number * unitsPerOne) :
    (nearest negative number denominator).magnitude * denominator = number * unitsPerOne := by
  obtain ⟨count, product⟩ := divides
  have steps : stepCount number denominator = count := by
    unfold stepCount
    rw [product, Nat.mul_comm]
    exact roundHalfEven_mul (Nat.mul_pos positive (Nat.two_pow_pos _))
  rw [magnitude_nearest positive small, steps, product]
  ring

/-- Natural numbers up to `2 ^ 53` are doubles. -/
theorem magnitude_nearest_whole (small : number ≤ 2 ^ 53) :
    (nearest negative number 1).magnitude = number * unitsPerOne := by
  obtain ⟨bits, size, unit⟩ := exists_unitsPerOne_eq
  have exponent : stepExponent number 1 ≤ 54 + 1022 := stepExponent_le (by omega)
  rw [← Nat.mul_one (Double.magnitude _)]
  refine magnitude_nearest_of_dvd Nat.one_pos (by omega) ?_
  rw [Nat.one_mul]
  rcases Nat.eq_zero_or_pos number with rfl | positive
  · rw [Nat.zero_mul]
    exact Nat.dvd_zero _
  · rw [stepExponent_one positive.ne', unit]
    rcases Nat.lt_or_ge number (2 ^ 53) with less | equal
    · have log := (Nat.log2_lt positive.ne').mpr less
      exact Nat.dvd_mul_left_of_dvd (Nat.pow_dvd_pow 2 (by omega)) number
    · have same : number = 2 ^ 53 := Nat.le_antisymm small equal
      have log : Nat.log2 number = 53 := by rw [same, Nat.log2_two_pow]
      have product : number * 2 ^ bits = 2 ^ (53 + bits) := by rw [same, Nat.pow_add]
      rw [product]
      exact Nat.pow_dvd_pow 2 (by omega)

end Whole

section Integers

variable {whole : Int}

theorem stepExponent_natAbs_le (bounded : whole.natAbs < 2 ^ 64) :
    stepExponent whole.natAbs 1 ≤ 2044 := by
  have exponent : stepExponent whole.natAbs 1 ≤ 64 + 1022 := stepExponent_le bounded
  omega

theorem isFinite_ofInt (bounded : whole.natAbs < 2 ^ 64) : (ofInt whole).isFinite = true :=
  isFinite_nearest Nat.one_pos (stepExponent_natAbs_le bounded)

theorem units_ofInt_eq (bounded : whole.natAbs < 2 ^ 64) :
    (ofInt whole).units =
      if whole < 0 then -((ofInt whole).magnitude : Int) else ((ofInt whole).magnitude : Int) := by
  have sign : (ofInt whole).negative = decide (whole < 0) :=
    negative_nearest Nat.one_pos (stepExponent_natAbs_le bounded)
  unfold units
  rw [sign]
  simp only [decide_eq_true_eq]

/-- Integers up to `2 ^ 53` are doubles. -/
theorem units_ofInt (small : whole.natAbs ≤ 2 ^ 53) :
    (ofInt whole).units = whole * unitsPerOne := by
  have magnitude : (ofInt whole).magnitude = whole.natAbs * unitsPerOne :=
    magnitude_nearest_whole small
  rw [units_ofInt_eq (by omega), magnitude]
  split
  · rw [Nat.cast_mul, ← Int.neg_mul]
    congr 1
    omega
  · rw [Nat.cast_mul]
    congr 1
    omega

end Integers

end Double

end Conformance
