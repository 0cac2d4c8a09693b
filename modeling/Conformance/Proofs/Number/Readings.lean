import Conformance.Proofs.Conversion.Fixpoint
import Conformance.Proofs.Number.Exact
/-!
Readings of doubles as integers. What `integer?`, `floor` and `ceiling` read is the rational that a double
is, its floor and its ceiling. The integer part is cut off exactly as well, but for one double: `2 ^ 63`,
whose integer part does not fit, is held at the greatest integer (`Number.integer_readings`).
-/

namespace Conformance

section Parts

variable {amount : ℚ} {part : ℤ} {bound : ℕ}

theorem towardZero_intCast : towardZero part = part := by
  unfold towardZero
  rw [Int.floor_intCast, Int.ceil_intCast, ite_self]

theorem natAbs_floor_le (small : |amount| ≤ bound) : ⌊amount⌋.natAbs ≤ bound := by
  obtain ⟨below, above⟩ := abs_le.mp small
  have lower : -(bound : ℤ) ≤ ⌊amount⌋ := Int.le_floor.mpr (by push_cast; exact below)
  have upper : ⌊amount⌋ ≤ (bound : ℤ) := by
    exact_mod_cast (Int.floor_le amount).trans above
  omega

theorem natAbs_ceil_le (small : |amount| ≤ bound) : ⌈amount⌉.natAbs ≤ bound := by
  have opposite : ⌊-amount⌋.natAbs ≤ bound := natAbs_floor_le (by rwa [abs_neg])
  rwa [Int.floor_neg, Int.natAbs_neg] at opposite

theorem natAbs_towardZero_le (small : |amount| ≤ bound) : (towardZero amount).natAbs ≤ bound := by
  unfold towardZero
  split
  · exact natAbs_floor_le small
  · exact natAbs_ceil_le small

end Parts

namespace Number

section Words

variable {whole : ℤ} {value : Int64}

theorem toInt_ofInt (small : whole.natAbs ≤ exactLimit) : (Int64.ofInt whole).toInt = whole := by
  have limit : exactLimit = 2 ^ 53 := rfl
  exact Int64.toInt_ofInt_of_le (by omega) (by omega)

theorem ofInt_eq_iff (small : whole.natAbs ≤ exactLimit) :
    Int64.ofInt whole = value ↔ value.toInt = whole := by
  rw [← Int64.toInt_inj, toInt_ofInt small, eq_comm]

theorem toInt_saturate : (saturate whole).toInt = min (max whole (-2 ^ 63)) (2 ^ 63 - 1) := by
  have least : Int64.minValue.toInt = -2 ^ 63 := rfl
  have greatest : Int64.maxValue.toInt = 2 ^ 63 - 1 := rfl
  unfold saturate
  rw [least, greatest]
  exact Int64.toInt_ofInt_of_le (by omega) (by omega)

/-- Holding an integer of at most `2 ^ 63` within range changes `2 ^ 63` only. -/
theorem saturate_eq_iff : whole.natAbs ≤ 2 ^ 63 ∧ saturate whole = value ↔
    value.toInt = whole ∨ whole = 2 ^ 63 ∧ value = Int64.maxValue := by
  have greatest : Int64.maxValue.toInt = 2 ^ 63 - 1 := rfl
  have lower := value.le_toInt
  have upper := value.toInt_lt
  rw [← Int64.toInt_inj, ← Int64.toInt_inj, toInt_saturate, greatest]
  omega

end Words

section Exact

variable {double : Double} {whole : Int64}

/-- Only doubles up to `exactLimit` have a fraction. -/
theorem exists_eq_intCast (finite : double.isFinite = true)
    (large : ¬ |double.toRat| ≤ exactLimit) : ∃ part : ℤ, double.toRat = part := by
  have limit : exactLimit = 2 ^ 53 := rfl
  rw [Double.abs_toRat_le_iff, limit, Nat.not_le] at large
  exact (Double.isIntegral_iff.mp (Double.isIntegral_of_large finite large.le)).2

theorem integer?_eq_some_iff : (float double).integer? = some whole ↔
    double.isFinite = true ∧ (whole.toInt : ℚ) = double.toRat ∧ |double.toRat| ≤ exactLimit := by
  have reading : (float double).integer? =
      if isExactRange double && double.isIntegral then some (Int64.ofInt double.truncated)
      else none := rfl
  rw [reading, Option.ite_none_right_eq_some, Option.some.injEq, Bool.and_eq_true, isExactRange_iff,
    Double.isIntegral_iff, Double.truncated_eq]
  constructor
  · rintro ⟨⟨⟨finite, small⟩, _, part, same⟩, read⟩
    rw [ofInt_eq_iff (natAbs_towardZero_le small), same, towardZero_intCast] at read
    exact ⟨finite, by rw [read, same], small⟩
  · rintro ⟨finite, same, small⟩
    refine ⟨⟨⟨finite, small⟩, finite, whole.toInt, same.symm⟩, ?_⟩
    rw [ofInt_eq_iff (natAbs_towardZero_le small), ← same, towardZero_intCast]

theorem floor_float : (float double).floor =
    if isExactRange double then int (Int64.ofInt ⌊double.toRat⌋) else float double := by
  rw [← Double.floor_eq]
  rfl

theorem ceiling_float : (float double).ceiling =
    if isExactRange double then int (Int64.ofInt ⌈double.toRat⌉) else float double := by
  rw [← Double.ceiling_eq]
  rfl

section Rounded

variable {part : ℚ → ℤ}

/-- The integers that a rounding gives, where it gives one. -/
theorem rounded_eq_int_iff
    (small : ∀ {amount : ℚ}, |amount| ≤ exactLimit → (part amount).natAbs ≤ exactLimit) :
    (if isExactRange double then int (Int64.ofInt (part double.toRat)) else float double) = int whole ↔
      double.isFinite = true ∧ whole.toInt = part double.toRat ∧ |double.toRat| ≤ exactLimit := by
  rw [and_left_comm, and_comm, ← isExactRange_iff]
  by_cases exact : isExactRange double = true
  · rw [if_pos exact, int.injEq, ofInt_eq_iff (small (isExactRange_iff.mp exact).2)]
    exact (and_iff_right exact).symm
  · rw [if_neg exact]
    exact iff_of_false (fun same => nomatch same) fun both => exact both.1

/-- A rounding that leaves integers as they are may leave the large doubles as they are. -/
theorem rational?_rounded
    (small : ∀ {amount : ℚ}, |amount| ≤ exactLimit → (part amount).natAbs ≤ exactLimit)
    (fixed : ∀ amount : ℤ, part amount = amount) :
    (if isExactRange double then int (Int64.ofInt (part double.toRat))
      else float double).rational? = (float double).rational?.map fun amount => (part amount : ℚ) := by
  by_cases exact : isExactRange double = true
  · obtain ⟨finite, near⟩ := isExactRange_iff.mp exact
    rw [if_pos exact, rational?_float, if_pos finite]
    exact congrArg (some ·) (congrArg Int.cast (toInt_ofInt (small near)))
  · rw [if_neg exact, rational?_float]
    by_cases finite : double.isFinite = true
    · have large : ¬ |double.toRat| ≤ exactLimit := fun near =>
        exact (isExactRange_iff.mpr ⟨finite, near⟩)
      obtain ⟨amount, same⟩ := exists_eq_intCast finite large
      rw [if_pos finite, Option.map_some, same, fixed]
    · rw [if_neg finite, Option.map_none]

end Rounded

theorem towardZero_eq_two_pow_iff (finite : double.isFinite = true) :
    towardZero double.toRat = 2 ^ 63 ↔ double.toRat = 2 ^ 63 := by
  constructor
  · intro part
    have large : ¬ |double.toRat| ≤ exactLimit := by
      intro small
      have near := natAbs_towardZero_le small
      have limit : exactLimit = 2 ^ 53 := rfl
      omega
    obtain ⟨amount, same⟩ := exists_eq_intCast finite large
    rw [same, towardZero_intCast] at part
    rw [same, part]
    norm_cast
  · intro same
    have cast : ((2 ^ 63 : ℤ) : ℚ) = 2 ^ 63 := by norm_cast
    rw [same, ← cast, towardZero_intCast]

theorem truncate?_eq_some_iff {result : Number} : (float double).truncate? = some result ↔
    double.isFinite = true ∧ ∃ whole : Int64, result = int whole ∧
      (whole.toInt = towardZero double.toRat ∨
        double.toRat = 2 ^ 63 ∧ whole = Int64.maxValue) := by
  have reading : (float double).truncate? =
      if double.isFinite && decide (double.truncated.natAbs ≤ Nat.pow 2 63) then
        some (int (saturate double.truncated))
      else none := rfl
  rw [reading, Option.ite_none_right_eq_some, Option.some.injEq, Bool.and_eq_true, decide_eq_true_eq,
    and_assoc, Double.truncated_eq, Nat.pow_eq]
  refine and_congr_right fun finite => ?_
  rw [← towardZero_eq_two_pow_iff finite]
  constructor
  · rintro ⟨small, rfl⟩
    exact ⟨_, rfl, saturate_eq_iff.mp ⟨small, rfl⟩⟩
  · rintro ⟨whole, rfl, read⟩
    obtain ⟨small, same⟩ := saturate_eq_iff.mpr read
    exact ⟨small, congrArg int same⟩

end Exact

end Number

/-- A double is brought into an integer only where integers are wanted and doubles are not, and is cut off
then. -/
theorem Value.coerce_float_eq_int_iff {double : Double} {kinds : KindSet} {whole : Int64} :
    (number (.float double)).coerce kinds = .ok (.number (.int whole)) ↔
      .integer ∈ kinds ∧ .float ∉ kinds ∧
        (Number.float double).truncate? = some (.int whole) := by
  constructor
  · intro made
    have listed : Kind.integer ∈ kinds := kind_of_coerce made
    unfold coerce at made
    split at made
    · cases made
    · rename_i unwanted
      refine ⟨listed, unwanted, ?_⟩
      split at made
      · rename_i coerced found
        cases made
        obtain ⟨kind, _, converted⟩ := List.exists_of_findSome?_eq_some found
        cases Coercion.kind_of_to? converted
        obtain ⟨number, cut, same⟩ := Option.map_eq_some_iff.mp converted
        cases same
        exact cut
      · cases made
  · rintro ⟨listed, unwanted, cut⟩
    have converted : Coercion.to? .integer (number (.float double)) =
        some (.number (.int whole)) := by
      change (Number.float double).truncate?.map number = _
      rw [cut, Option.map_some]
    have refused : ¬ kinds.contains (number (.float double)).kind = true := unwanted
    unfold coerce Coercion.order
    rw [if_neg refused, List.filter_cons_of_pos listed, List.findSome?_cons, converted]

namespace Number

/-- Every integer reading of a double in terms of the rational that it is. The double `2 ^ 63` is the only
one whose integer part is not cut off exactly, and is not refused: it is held at the greatest integer. -/
theorem integer_readings (double : Double) :
    (∀ whole : Int64, (float double).integer? = some whole ↔
      double.isFinite = true ∧ (whole.toInt : ℚ) = double.toRat ∧ |double.toRat| ≤ exactLimit) ∧
    (∀ whole : Int64, (float double).floor = int whole ↔
      double.isFinite = true ∧ whole.toInt = ⌊double.toRat⌋ ∧ |double.toRat| ≤ exactLimit) ∧
    (∀ whole : Int64, (float double).ceiling = int whole ↔
      double.isFinite = true ∧ whole.toInt = ⌈double.toRat⌉ ∧ |double.toRat| ≤ exactLimit) ∧
    (float double).floor.rational? = (float double).rational?.map (fun amount => (⌊amount⌋ : ℚ)) ∧
    (float double).ceiling.rational? = (float double).rational?.map (fun amount => (⌈amount⌉ : ℚ)) ∧
    (∀ result, (float double).truncate? = some result ↔
      double.isFinite = true ∧ ∃ whole : Int64, result = int whole ∧
        (whole.toInt = towardZero double.toRat ∨
          double.toRat = 2 ^ 63 ∧ whole = Int64.maxValue)) ∧
    (∀ (kinds : KindSet) (whole : Int64),
      (Value.number (float double)).coerce kinds = .ok (.number (int whole)) ↔
        .integer ∈ kinds ∧ .float ∉ kinds ∧ double.isFinite = true ∧
          (whole.toInt = towardZero double.toRat ∨
            double.toRat = 2 ^ 63 ∧ whole = Int64.maxValue)) := by
  refine ⟨fun _ => integer?_eq_some_iff, fun whole => ?floor, fun whole => ?ceiling, ?floorValue,
    ?ceilingValue, fun _ => truncate?_eq_some_iff, fun kinds whole => ?coerced⟩
  case floor =>
    rw [floor_float]
    exact rounded_eq_int_iff natAbs_floor_le
  case ceiling =>
    rw [ceiling_float]
    exact rounded_eq_int_iff natAbs_ceil_le
  case floorValue =>
    rw [floor_float]
    exact rational?_rounded natAbs_floor_le Int.floor_intCast
  case ceilingValue =>
    rw [ceiling_float]
    exact rational?_rounded natAbs_ceil_le Int.ceil_intCast
  case coerced =>
    rw [Value.coerce_float_eq_int_iff, truncate?_eq_some_iff]
    refine and_congr_right fun _ => and_congr_right fun _ => and_congr_right fun _ => ?_
    simp only [int.injEq, exists_eq_left']

/-- The double `2 ^ 63` is brought into an integer, but not into its integer part, which does not fit. -/
theorem coerce_saturated :
    (Double.ofInt (2 ^ 63)).toRat = 2 ^ 63 ∧
      (Value.number (float (Double.ofInt (2 ^ 63)))).coerce (.singleton .integer) =
        .ok (.number (int Int64.maxValue)) ∧
      Int64.maxValue.toInt = 2 ^ 63 - 1 ∧ towardZero (Double.ofInt (2 ^ 63)).toRat = 2 ^ 63 := by
  have amount : (Double.ofInt (2 ^ 63)).toRat = ((2 ^ 63 : ℤ) : ℚ) :=
    Double.toRat_eq_iff.mpr (by decide +kernel)
  have cut : (float (Double.ofInt (2 ^ 63))).truncate? = some (int Int64.maxValue) := by
    decide +kernel
  refine ⟨?_, Value.coerce_float_eq_int_iff.mpr ⟨by decide, by decide, cut⟩, rfl, ?_⟩
  · rw [amount]
    norm_cast
  · rw [amount, towardZero_intCast]

end Number

end Conformance
