import Conformance.Proofs.Number.Quotients
import Conformance.Proofs.Number.Readings
/-!
Multiples among whole numbers up to `exactLimit`. Two integers divide exactly. With a double the quotient is
rounded, so that every multiple passes, and besides the numbers that are nearly multiples: none of them lies
below a third of `exactLimit` if the divisor is below two fifths of it (`Number.multiples_of_whole`).
-/

namespace Conformance

namespace Number

variable {number divisor : Number} {left right : Int64} {whole part : ℤ}

theorem toInt_eq_of_rational? (reads : (int left).rational? = some (whole : ℚ)) : left.toInt = whole := by
  have same : (left.toInt : ℚ) = whole := Option.some.inj reads
  exact_mod_cast same

/-- Whole numbers up to `exactLimit` are doubles. -/
theorem toDouble_of_rational? (reads : number.rational? = some (whole : ℚ))
    (small : whole.natAbs ≤ exactLimit) :
    number.toDouble.isFinite = true ∧
      number.toDouble.magnitude = whole.natAbs * Double.unitsPerOne := by
  cases number with
  | int left =>
      cases toInt_eq_of_rational? reads
      have same : (int left).toDouble.toRat = left.toInt :=
        Double.toRat_eq_iff.mpr (Double.units_ofInt small)
      exact ⟨isFinite_toDouble_int, Double.magnitude_of_toRat_eq same⟩
  | float double =>
      obtain ⟨finite, same⟩ := rational?_float_eq_some.mp reads
      exact ⟨finite, Double.magnitude_of_toRat_eq same⟩

theorem isZero_eq_false (reads : divisor.rational? = some (part : ℚ)) (nonzero : part ≠ 0) :
    divisor.isZero = false := by
  cases divisor with
  | int right =>
      cases toInt_eq_of_rational? reads
      have differ : right ≠ 0 := fun zero => nonzero (by rw [zero, Int64.toInt_zero])
      exact beq_eq_false_iff_ne.mpr differ
  | float double =>
      obtain ⟨_, same⟩ := rational?_float_eq_some.mp reads
      have magnitude : double.magnitude ≠ 0 := by
        rw [Double.magnitude_of_toRat_eq same]
        exact Nat.mul_ne_zero (Int.natAbs_ne_zero.mpr nonzero) Double.unitsPerOne_pos.ne'
      have differ : (double.magnitude == 0) = false := beq_eq_false_iff_ne.mpr magnitude
      exact (congrArg (double.isFinite && ·) differ).trans (Bool.and_false _)

theorem isMultipleOf_int (nonzero : (int right).isZero = false) :
    (int left).isMultipleOf (int right) = decide (right.toInt ∣ left.toInt) := by
  unfold isMultipleOf
  rw [if_neg (by rw [nonzero]; exact Bool.false_ne_true), Bool.eq_iff_iff, beq_iff_eq,
    decide_eq_true_iff, Int.dvd_iff_tmod_eq_zero]

theorem isMultipleOf_of_mixed (mixed : (number.isInteger && divisor.isInteger) = false)
    (nonzero : divisor.isZero = false) (finite : number.toDouble.isFinite = true)
    (finite' : divisor.toDouble.isFinite = true) :
    number.isMultipleOf divisor = ((number.toDouble.quotient divisor.toDouble).isFinite &&
      (number.toDouble.quotient divisor.toDouble).isNearlyIntegral) := by
  have unfolded : number.isMultipleOf divisor =
      if divisor.isZero then false
      else if !number.toDouble.isFinite || divisor.toDouble.isNaN then false
      else if divisor.toDouble.isInfinite then true
      else ((number.toDouble.quotient divisor.toDouble).isFinite &&
        (number.toDouble.quotient divisor.toDouble).isNearlyIntegral) := by
    cases number with
    | float => rfl
    | int =>
        cases divisor with
        | float => rfl
        | int => cases mixed
  rw [unfolded, nonzero, finite, Double.isNaN_of_isFinite finite', Double.isInfinite_of_isFinite finite']
  rfl

/-- With a double, what counts is how the quotient of the whole numbers is rounded. -/
theorem isMultipleOf_eq (reads : number.rational? = some (whole : ℚ))
    (reads' : divisor.rational? = some (part : ℚ)) (small : whole.natAbs ≤ exactLimit)
    (positive : 1 ≤ part) (small' : part ≤ exactLimit) :
    number.isMultipleOf divisor =
      if number.isInteger && divisor.isInteger then decide (part ∣ whole)
      else Double.isNearlyMultiple whole.natAbs part.natAbs := by
  have limit : exactLimit = 2 ^ 53 := rfl
  have nonzero := isZero_eq_false reads' (show part ≠ 0 by omega)
  cases integers : number.isInteger && divisor.isInteger with
  | true =>
      cases number with
      | float => cases integers
      | int =>
          cases divisor with
          | float => cases integers
          | int =>
              cases toInt_eq_of_rational? reads
              cases toInt_eq_of_rational? reads'
              rw [isMultipleOf_int nonzero, if_pos rfl]
  | false =>
      obtain ⟨finite, magnitude⟩ := toDouble_of_rational? reads small
      obtain ⟨finite', magnitude'⟩ := toDouble_of_rational? reads' (show part.natAbs ≤ exactLimit by omega)
      have filled : 0 < part.natAbs := by omega
      have quotient : number.toDouble.quotient divisor.toDouble =
          Double.nearest (number.toDouble.negative != divisor.toDouble.negative) whole.natAbs
            part.natAbs := by
        unfold Double.quotient
        rw [magnitude, magnitude', Double.nearest_mul_mul filled Double.unitsPerOne_pos]
      have exponent : Double.stepExponent whole.natAbs part.natAbs ≤ 54 + 1022 :=
        Double.stepExponent_le (by omega)
      rw [isMultipleOf_of_mixed integers nonzero finite finite', quotient,
        Double.isFinite_nearest filled (by omega), Bool.true_and,
        Double.isNearlyIntegral_nearest_eq small filled (by omega), if_neg Bool.false_ne_true]

/-- A whole double passes for an integer where doubles are not wanted, and is converted to that integer. -/
theorem convert_ofKinds {double : Double} {kinds : KindSet} {isPartial : Bool}
    (listed : .integer ∈ kinds) (unwanted : .float ∉ kinds)
    (reads : (float double).rational? = some (whole : ℚ)) (small : whole.natAbs ≤ exactLimit) :
    (Check.ofKinds kinds).violation? isPartial (.number (float double)) = none ∧
      ∃ value : Int64, value.toInt = whole ∧
        (Check.ofKinds kinds).convert isPartial (.number (float double)) =
          .ok (.number (int value)) := by
  obtain ⟨finite, amount⟩ := rational?_float_eq_some.mp reads
  have value : (Int64.ofInt whole).toInt = whole := toInt_ofInt small
  have read : (float double).integer? = some (Int64.ofInt whole) := by
    rw [integer?_eq_some_iff, value, amount, abs_intCast_le_iff]
    exact ⟨finite, rfl, small⟩
  have cut : (float double).truncate? = some (int (Int64.ofInt whole)) := by
    rw [truncate?_eq_some_iff, amount, towardZero_intCast]
    exact ⟨finite, _, rfl, .inl value⟩
  have counts : (float double).integer?.isSome := by
    rw [read]
    rfl
  exact ⟨(Check.ofKinds_eq_none kinds).mpr (.inr ⟨double, rfl, listed, counts⟩), _, value,
    Value.coerce_float_eq_int_iff.mpr ⟨listed, unwanted, cut⟩⟩

theorem convert_multipleOf {isPartial : Bool} :
    (Check.multipleOf divisor).convert isPartial (.number number) = .ok (.number number) ↔
      number.isMultipleOf divisor = true := by
  have passes : (Check.multipleOf divisor).violation? isPartial (.number number) = none ↔
      number.isMultipleOf divisor = true := Check.onNumber_number_eq_none
  rw [Check.convert_eq_ok rfl, passes]
  constructor
  · rintro (⟨multiple, _⟩ | ⟨_, repaired⟩)
    · exact multiple
    · cases repaired
  · exact fun multiple => .inl ⟨multiple, rfl⟩

/-- Whether a whole number up to `exactLimit` passes for a multiple depends on whether both numbers are held
as integers. Multiples pass in either case; with a double, so do the numbers that are nearly multiples, and
there are none among the smaller numbers. A whole double that passes as an integer and as a multiple is
converted to an integer that is still a multiple if it is one, or if the divisor is held as a double. -/
theorem multiples_of_whole (reads : number.rational? = some (whole : ℚ))
    (reads' : divisor.rational? = some (part : ℚ)) (small : whole.natAbs ≤ exactLimit)
    (positive : 1 ≤ part) (small' : part ≤ exactLimit) :
    (number.isMultipleOf divisor =
      if number.isInteger && divisor.isInteger then decide (part ∣ whole)
      else Double.isNearlyMultiple whole.natAbs part.natAbs) ∧
    (part ∣ whole → number.isMultipleOf divisor = true) ∧
    (3 * whole.natAbs ≤ exactLimit → 5 * part < 2 * exactLimit →
      (number.isMultipleOf divisor = true ↔ part ∣ whole)) ∧
    ∀ (kinds : KindSet) (isPartial : Bool),
      .integer ∈ kinds → .float ∉ kinds → number.isInteger = false →
        (Check.ofKinds kinds).violation? isPartial (.number number) = none ∧
        ∃ value : Int64, value.toInt = whole ∧
          (Check.ofKinds kinds).convert isPartial (.number number) = .ok (.number (int value)) ∧
          ((Check.multipleOf divisor).convert isPartial (.number (int value)) =
            .ok (.number (int value)) ↔
              part ∣ whole ∨ divisor.isInteger = false ∧ number.isMultipleOf divisor = true) := by
  have limit : exactLimit = 2 ^ 53 := rfl
  have filled : 0 < part.natAbs := by omega
  have tested := isMultipleOf_eq reads reads' small positive small'
  refine ⟨tested, fun divides => ?multiple, fun less less' => ?exact, ?converted⟩
  case multiple =>
    rw [tested]
    split
    · exact decide_eq_true divides
    · exact Double.isNearlyMultiple_of_dvd filled (Int.natAbs_dvd_natAbs.mpr divides)
  case exact =>
    rw [tested]
    split
    · exact decide_eq_true_iff
    · rw [Double.isNearlyMultiple_iff_dvd filled (by omega) (by omega), Int.natAbs_dvd_natAbs]
  case converted =>
    intro kinds isPartial listed unwanted held
    cases number with
    | int => cases held
    | float double =>
        obtain ⟨passes, value, same, converted⟩ := convert_ofKinds listed unwanted reads small
        have reads'' : (int value).rational? = some (whole : ℚ) := by rw [← same]; rfl
        refine ⟨passes, value, same, converted, ?_⟩
        rw [convert_multipleOf, isMultipleOf_eq reads'' reads' small positive small', tested]
        have divides : part ∣ whole → Double.isNearlyMultiple whole.natAbs part.natAbs = true :=
          fun divides => Double.isNearlyMultiple_of_dvd filled (Int.natAbs_dvd_natAbs.mpr divides)
        cases divisor with
        | int => simp [isInteger]
        | float => simpa [isInteger] using divides

/-- Six as a double is a multiple of three, and still is one once it is converted. -/
theorem multiples_of_whole_six :
    (float (Double.ofInt 6)).rational? = some ((6 : ℤ) : ℚ) ∧
      (float (Double.ofInt 6)).isMultipleOf (int 3) = true ∧
      ∃ value : Int64, value.toInt = 6 ∧
        (Check.ofKinds (.singleton .integer)).convert false (.number (float (Double.ofInt 6))) =
          .ok (.number (int value)) ∧
        (Check.multipleOf (int 3)).convert false (.number (int value)) = .ok (.number (int value)) := by
  have finite : (Double.ofInt 6).isFinite = true := by decide +kernel
  have reads : (float (Double.ofInt 6)).rational? = some ((6 : ℤ) : ℚ) := by
    have units : (Double.ofInt 6).units = 6 * Double.unitsPerOne := by decide +kernel
    exact rational?_float_eq_some.mpr ⟨finite, Double.toRat_eq_iff.mpr units⟩
  have reads' : (int 3).rational? = some ((3 : ℤ) : ℚ) := rfl
  obtain ⟨_, multiple, _, converts⟩ :=
    multiples_of_whole reads reads' (by decide) (by decide) (by decide)
  obtain ⟨_, value, same, converted, kept⟩ :=
    converts (.singleton .integer) false (by decide) (by decide) rfl
  exact ⟨reads, multiple (by decide), value, same, converted, kept.mpr (.inl (by decide))⟩

/-- The greatest odd number up to `exactLimit` passes for even as a double, and is converted to an integer
that does not. -/
theorem multiple_lost :
    (float (Double.ofInt 9007199254740991)).isMultipleOf (int 2) = true ∧
      (Check.ofKinds (.singleton .integer)).convert false
          (.number (float (Double.ofInt 9007199254740991))) =
        .ok (.number (int 9007199254740991)) ∧
      (int 9007199254740991).equal (float (Double.ofInt 9007199254740991)) = true ∧
      (int 9007199254740991).isMultipleOf (int 2) = false := by
  have cut : (float (Double.ofInt 9007199254740991)).truncate? = some (int 9007199254740991) := by
    decide +kernel
  have coerced : (Value.number (float (Double.ofInt 9007199254740991))).coerce (.singleton .integer) =
      .ok (.number (int 9007199254740991)) :=
    Value.coerce_float_eq_int_iff.mpr ⟨by decide, by decide, cut⟩
  have converts (kinds : KindSet) (subject : Value) :
      (Check.ofKinds kinds).convert false subject = subject.coerce kinds := rfl
  rw [converts]
  exact ⟨by decide +kernel, coerced, by decide +kernel, by decide +kernel⟩

end Number

end Conformance
