import Conformance.Proofs.Number.Rounding
/-!
Quotients that pass for integers. The quotient of two doubles is rounded and then taken for an integer if it
misses one by no more than `2 ^ -52` of itself. For natural numbers up to `2 ^ 53` this comes down to their
remainder (`Double.isNearlyMultiple`, `Double.isNearlyIntegral_nearest_eq`): from one on, the tolerance is one
step, and rounding adds half a step to it; below one, only quotients next to zero or to one pass.
-/

namespace Conformance

namespace Double

/-- Whether a quotient passes for an integer once it is rounded: below one, if it is at most `2 ^ -52` or
misses one by at most five quarters of `2 ^ -52`, and from one on, if it misses an integer by less than three
halves of `2 ^ -52` of the power of two below it. -/
def isNearlyMultiple (number divisor : Nat) : Bool :=
  if number < divisor then
    decide (2 ^ 52 * number ≤ divisor ∨ 2 ^ 54 * (divisor - number) ≤ 5 * divisor)
  else
    decide (2 ^ 53 * min (number % divisor) (divisor - number % divisor) <
      3 * divisor * 2 ^ Nat.log2 (number / divisor))

/-- Whether two numbers differ by no more than a tolerance, counted in parts of which `2 ^ 52` make one. -/
def AreNear (left right tolerance : Nat) : Prop :=
  left * 2 ^ 52 ≤ right * 2 ^ 52 + tolerance ∧ right * 2 ^ 52 ≤ left * 2 ^ 52 + tolerance

section Tolerance

variable {magnitude unit whole tolerance scale left right far : Nat}

theorem areNear_iff_natAbs :
    ((left : Int) - right).natAbs * 2 ^ 52 ≤ tolerance ↔ AreNear left right tolerance := by
  unfold AreNear
  generalize 2 ^ 52 = parts
  rcases Nat.le_total left right with below | above
  · have distance : ((left : Int) - right).natAbs = right - left := by omega
    have product := Nat.mul_le_mul_right parts below
    rw [distance, Nat.sub_mul]
    omega
  · have distance : ((left : Int) - right).natAbs = left - right := by omega
    have product := Nat.mul_le_mul_right parts above
    rw [distance, Nat.sub_mul]
    omega

theorem areNear_of_le_add_one (near : left ≤ right + 1) (near' : right ≤ left + 1)
    (broad : 2 ^ 52 ≤ tolerance) : AreNear left right tolerance := by
  have product := Nat.mul_le_mul_right (2 ^ 52) near
  have product' := Nat.mul_le_mul_right (2 ^ 52) near'
  rw [Nat.succ_mul] at product product'
  exact ⟨product.trans (Nat.add_le_add_left broad _), product'.trans (Nat.add_le_add_left broad _)⟩

theorem le_add_one_of_mul_le {parts : Nat} (near : left * parts ≤ right * parts + tolerance)
    (strict : tolerance < 2 * parts) : left ≤ right + 1 := by
  by_contra beyond
  have product := Nat.mul_le_mul_right parts (show right + 2 ≤ left by omega)
  rw [Nat.add_mul] at product
  omega

theorem AreNear.le_add_one (near : AreNear left right tolerance) (strict : tolerance < 2 ^ 53) :
    left ≤ right + 1 ∧ right ≤ left + 1 := by
  have double : 2 ^ 53 = 2 * 2 ^ 52 := Nat.pow_succ'
  rw [double] at strict
  exact ⟨le_add_one_of_mul_le near.1 strict, le_add_one_of_mul_le near.2 strict⟩

theorem areNear_mul (scales : 0 < scale) :
    AreNear (left * scale) (right * scale) (tolerance * scale) ↔ AreNear left right tolerance := by
  unfold AreNear
  rw [Nat.mul_right_comm left, Nat.mul_right_comm right, ← Nat.add_mul, ← Nat.add_mul,
    Nat.mul_le_mul_right_iff scales, Nat.mul_le_mul_right_iff scales]

/-- What lies on the same side of a number as something near and is not farther from it is near as well. -/
theorem AreNear.of_closer (near : AreNear left far tolerance)
    (closer : far ≤ right ∧ right + far ≤ left + left ∨ right ≤ far ∧ left + left ≤ right + far) :
    AreNear left right tolerance := by
  unfold AreNear at near ⊢
  generalize 2 ^ 52 = parts at *
  rcases closer with ⟨between, nearer⟩ | ⟨between, nearer⟩
  · have ends := Nat.mul_le_mul_right parts between
    have sums := Nat.mul_le_mul_right parts nearer
    rw [Nat.add_mul, Nat.add_mul] at sums
    omega
  · have ends := Nat.mul_le_mul_right parts between
    have sums := Nat.mul_le_mul_right parts nearer
    rw [Nat.add_mul, Nat.add_mul] at sums
    omega

/-- No multiple of a unit is nearer than the one that rounding gives. -/
theorem areNear_rounded (positive : 0 < unit) (near : AreNear magnitude (whole * unit) tolerance) :
    AreNear magnitude ((magnitude + unit / 2) / unit * unit) tolerance := by
  have parts := Nat.div_add_mod (magnitude + unit / 2) unit
  have rest := Nat.mod_lt (magnitude + unit / 2) positive
  generalize (magnitude + unit / 2) % unit = remainder at *
  generalize (magnitude + unit / 2) / unit = rounded at *
  rw [Nat.mul_comm] at parts
  rcases Nat.lt_trichotomy whole rounded with below | rfl | above
  · have step : (whole + 1) * unit ≤ rounded * unit := Nat.mul_le_mul_right _ below
    rw [Nat.succ_mul] at step
    exact near.of_closer (by omega)
  · exact near
  · have step : (rounded + 1) * unit ≤ whole * unit := Nat.mul_le_mul_right _ above
    rw [Nat.succ_mul] at step
    exact near.of_closer (by omega)

theorem isNearlyIntegral_iff {double : Double} : double.isNearlyIntegral = true ↔
    ∃ whole, AreNear double.magnitude (whole * unitsPerOne) (max double.magnitude unitsPerOne) := by
  have rounded : double.isNearlyIntegral = true ↔
      AreNear double.magnitude double.roundedMagnitude (max double.magnitude unitsPerOne) := by
    rw [← areNear_iff_natAbs, ← Nat.pow_eq]
    unfold isNearlyIntegral
    exact decide_eq_true_iff
  rw [rounded]
  unfold roundedMagnitude
  exact ⟨fun near => ⟨_, near⟩, fun ⟨_, near⟩ => areNear_rounded unitsPerOne_pos near⟩

end Tolerance

section Quotients

variable {number divisor bits count whole : Nat} {negative : Bool}

/-- A quotient of numbers up to `2 ^ 53` lies between two powers of two. -/
theorem exists_pow_le_quotient (nonzero : 0 < number) (positive : 0 < divisor)
    (small : number < 2 ^ 53 * divisor) (small' : divisor ≤ 2 ^ 53) :
    ∃ size, 52 ≤ size ∧ size < 1127 ∧ 2 ^ size * divisor ≤ number * unitsPerOne ∧
      number * unitsPerOne < 2 ^ (size + 1) * divisor := by
  obtain ⟨bits, total, unit⟩ := exists_unitsPerOne_eq
  have low : 2 ^ 52 ≤ number * unitsPerOne / divisor := by
    rw [Nat.le_div_iff_mul_le positive, unit]
    calc
      2 ^ 52 * divisor ≤ 2 ^ 52 * 2 ^ 53 := Nat.mul_le_mul_left _ small'
      _ ≤ 2 ^ bits := by
        rw [← Nat.pow_add]
        exact Nat.pow_le_pow_right Nat.two_pos (by omega)
      _ ≤ number * 2 ^ bits := Nat.le_mul_of_pos_left _ nonzero
  have high : number * unitsPerOne / divisor < 2 ^ (53 + bits) := by
    rw [Nat.div_lt_iff_lt_mul positive, unit, Nat.pow_add, Nat.mul_right_comm]
    exact Nat.mul_lt_mul_of_pos_right small (Nat.two_pow_pos bits)
  have filled : number * unitsPerOne / divisor ≠ 0 :=
    (Nat.lt_of_lt_of_le (Nat.two_pow_pos 52) low).ne'
  refine ⟨Nat.log2 (number * unitsPerOne / divisor), (Nat.le_log2 filled).mpr low, ?_,
    (Nat.le_div_iff_mul_le positive).mp (Nat.log2_self_le filled),
    (Nat.div_lt_iff_lt_mul positive).mp Nat.lt_log2_self⟩
  exact ((Nat.log2_lt filled).mpr high).trans_eq (by rw [total])

/-- Such a quotient is measured in steps of which a power of two make one. -/
theorem exists_stepExponent_add_eq (nonzero : 0 < number) (positive : 0 < divisor)
    (small : number < 2 ^ 53 * divisor) (small' : divisor ≤ 2 ^ 53) :
    ∃ bits, stepExponent number divisor + bits = 1074 ∧ 2 ^ 52 * divisor ≤ number * 2 ^ bits ∧
      number * 2 ^ bits < 2 ^ 53 * divisor := by
  obtain ⟨size, least, greatest, above, below⟩ :=
    exists_pow_le_quotient nonzero positive small small'
  obtain ⟨steps, rfl⟩ := Nat.exists_eq_add_of_le least
  obtain ⟨bits, total⟩ : ∃ bits, steps + bits = 1074 := ⟨1074 - steps, by omega⟩
  have exponent : stepExponent number divisor = steps := by
    rw [stepExponent_eq positive above below, Nat.add_sub_cancel_left]
  obtain ⟨all, rfl, unit⟩ := exists_unitsPerOne_eq
  have units : number * unitsPerOne = number * 2 ^ bits * 2 ^ steps := by
    rw [unit, ← total, Nat.add_comm, Nat.pow_add, Nat.mul_assoc]
  have lower : 2 ^ (52 + steps) * divisor = 2 ^ 52 * divisor * 2 ^ steps := by
    rw [Nat.pow_add, Nat.mul_right_comm]
  have upper : 2 ^ (52 + steps + 1) * divisor = 2 ^ 53 * divisor * 2 ^ steps := by
    rw [Nat.add_right_comm, Nat.pow_add, Nat.mul_right_comm]
  rw [units, lower] at above
  rw [units, upper] at below
  exact ⟨bits, by rw [exponent, total],
    Nat.le_of_mul_le_mul_right above (Nat.two_pow_pos steps),
    Nat.lt_of_mul_lt_mul_right below⟩

theorem isNearlyIntegral_nearest_iff (positive : 0 < divisor)
    (size : stepExponent number divisor + bits = 1074) :
    (nearest negative number divisor).isNearlyIntegral = true ↔
      ∃ whole, AreNear (roundHalfEven (number * 2 ^ bits) divisor) (whole * 2 ^ bits)
        (max (roundHalfEven (number * 2 ^ bits) divisor) (2 ^ bits)) := by
  obtain ⟨all, total, unit⟩ := exists_unitsPerOne_eq
  have scales := Nat.two_pow_pos (stepExponent number divisor)
  have units : unitsPerOne = 2 ^ bits * 2 ^ stepExponent number divisor := by
    rw [unit, total, ← size, Nat.add_comm, Nat.pow_add]
  have count : stepCount number divisor = roundHalfEven (number * 2 ^ bits) divisor := by
    unfold stepCount
    rw [units, ← Nat.mul_assoc, roundHalfEven_mul_mul positive scales]
  have magnitude : (nearest negative number divisor).magnitude =
      stepCount number divisor * 2 ^ stepExponent number divisor :=
    magnitude_nearest positive (by omega)
  rw [isNearlyIntegral_iff, magnitude, count, units]
  refine exists_congr fun whole => ?_
  rw [← Nat.mul_assoc, Nat.mul_max_mul_right, areNear_mul scales]

/-- From one on, the tolerance is one step. -/
theorem exists_areNear_iff_of_le (few : bits ≤ 52) (low : 2 ^ 52 ≤ count) (high : count ≤ 2 ^ 53) :
    (∃ whole, AreNear count (whole * 2 ^ bits) (max count (2 ^ bits))) ↔
      ∃ whole, count ≤ whole * 2 ^ bits + 1 ∧ whole * 2 ^ bits ≤ count + 1 := by
  rw [Nat.max_eq_left ((Nat.pow_le_pow_right Nat.two_pos few).trans low)]
  constructor
  · rintro ⟨whole, near⟩
    rcases Nat.lt_or_ge count (2 ^ 53) with less | full
    · exact ⟨whole, near.le_add_one less⟩
    · -- The steps are counted up to the next power of two, which is whole.
      have same : 2 ^ (53 - bits) * 2 ^ bits = count := by
        rw [← Nat.pow_add, Nat.sub_add_cancel (by omega)]
        exact Nat.le_antisymm full high
      exact ⟨2 ^ (53 - bits), by omega, by omega⟩
  · rintro ⟨whole, near, near'⟩
    exact ⟨whole, areNear_of_le_add_one near near' low⟩

theorem roundHalfEven_near_iff (positive : 0 < divisor) (even : whole % 2 = 0) :
    roundHalfEven number divisor ≤ whole + 1 ∧ whole ≤ roundHalfEven number divisor + 1 ↔
      2 * number < (2 * whole + 3) * divisor ∧ 2 * whole * divisor < 2 * number + 3 * divisor := by
  refine and_congr ?_ ?_
  · rw [roundHalfEven_le_iff positive, or_iff_left (by omega)]
    exact Iff.rfl
  · rcases Nat.eq_zero_or_pos whole with rfl | filled
    · exact iff_of_true (Nat.zero_le _) (by omega)
    · obtain ⟨less, rfl⟩ := Nat.exists_eq_add_of_le' (show 2 ≤ whole by omega)
      have below : roundHalfEven number divisor ≤ less ↔ _ := roundHalfEven_le_iff positive
      have half : 2 * (less + 2) * divisor = (2 * less + 1) * divisor + 3 * divisor := by ring
      omega

/-- The multiples on both sides of a number are the nearest ones. -/
theorem exists_near_iff_min (positive : 0 < divisor) :
    (∃ whole, 2 * (number * count) < (2 * (whole * count) + 3) * divisor ∧
      2 * (whole * count) * divisor < 2 * (number * count) + 3 * divisor) ↔
      2 * count * min (number % divisor) (divisor - number % divisor) < 3 * divisor := by
  have parts := Nat.div_add_mod number divisor
  have rest := Nat.mod_lt number positive
  generalize number % divisor = remainder at *
  generalize number / divisor = quotient at *
  subst parts
  constructor
  · rintro ⟨whole, above, below⟩
    rcases Nat.lt_or_ge quotient whole with beyond | before
    · obtain ⟨gap, rfl⟩ := Nat.exists_eq_add_of_le rest.le
      rw [Nat.add_sub_cancel_left]
      have least := Nat.mul_le_mul_left (2 * count) (Nat.min_le_right remainder gap)
      have step := Nat.mul_le_mul_right ((remainder + gap) * count) beyond
      rw [Nat.succ_mul] at step
      linarith
    · have least := Nat.mul_le_mul_left (2 * count) (Nat.min_le_left remainder (divisor - remainder))
      have step := Nat.mul_le_mul_right (divisor * count) before
      linarith
  · intro near
    rcases Nat.le_total remainder (divisor - remainder) with before | beyond
    · rw [Nat.min_eq_left before] at near
      exact ⟨quotient, by nlinarith, by nlinarith⟩
    · rw [Nat.min_eq_right beyond] at near
      obtain ⟨gap, rfl⟩ := Nat.exists_eq_add_of_le rest.le
      rw [Nat.add_sub_cancel_left] at near
      exact ⟨quotient + 1, by nlinarith, by nlinarith⟩

/-- Half a step is half of `2 ^ -52` of the power of two that the quotient is at least. -/
theorem pow_mul_lt_iff (positive : 0 < divisor) (few : bits ≤ 52)
    (low : 2 ^ 52 * divisor ≤ number * 2 ^ bits) (high : number * 2 ^ bits < 2 ^ 53 * divisor) :
    2 ^ 53 * whole < 3 * divisor * 2 ^ Nat.log2 (number / divisor) ↔
      2 * 2 ^ bits * whole < 3 * divisor := by
  obtain ⟨size, total⟩ := Nat.exists_eq_add_of_le few
  have scales := Nat.two_pow_pos bits
  rw [total, Nat.pow_add, Nat.mul_comm (2 ^ bits), Nat.mul_right_comm,
    Nat.mul_le_mul_right_iff scales] at low
  have power : 2 ^ 53 = 2 ^ (size + 1) * 2 ^ bits := by
    rw [← Nat.pow_add]
    congr 1
    omega
  rw [power, Nat.mul_right_comm, Nat.mul_lt_mul_right scales] at high
  have least := (Nat.le_div_iff_mul_le positive).mpr low
  have log : Nat.log2 (number / divisor) = size :=
    (Nat.log2_eq_iff (Nat.lt_of_lt_of_le (Nat.two_pow_pos size) least).ne').mpr
      ⟨least, (Nat.div_lt_iff_lt_mul positive).mpr high⟩
  have product : 2 ^ 53 * whole = 2 * 2 ^ bits * whole * 2 ^ size := by
    rw [power]
    ring
  rw [log, product, Nat.mul_lt_mul_right (Nat.two_pow_pos size)]

theorem exists_areNear_iff_of_divisor_le (positive : 0 < divisor) (few : bits ≤ 52)
    (low : 2 ^ 52 * divisor ≤ number * 2 ^ bits) (high : number * 2 ^ bits < 2 ^ 53 * divisor) :
    (∃ whole, AreNear (roundHalfEven (number * 2 ^ bits) divisor) (whole * 2 ^ bits)
      (max (roundHalfEven (number * 2 ^ bits) divisor) (2 ^ bits))) ↔
      2 ^ 53 * min (number % divisor) (divisor - number % divisor) <
        3 * divisor * 2 ^ Nat.log2 (number / divisor) := by
  rw [exists_areNear_iff_of_le few (le_roundHalfEven positive low)
    (roundHalfEven_le positive high.le), pow_mul_lt_iff positive few low high]
  rcases Nat.eq_zero_or_pos bits with rfl | some
  · -- Every step is whole.
    have rest := Nat.mod_lt number positive
    refine iff_of_true ⟨roundHalfEven (number * 2 ^ 0) divisor, ?_, ?_⟩ ?_ <;> omega
  · rw [← exists_near_iff_min positive]
    refine exists_congr fun whole => roundHalfEven_near_iff positive ?_
    obtain ⟨fewer, rfl⟩ := Nat.exists_eq_add_of_le' some
    rw [Nat.pow_succ, ← Nat.mul_assoc, Nat.mul_mod_left]

/-- Below one, only zero and one are near. -/
theorem exists_areNear_iff_of_count_le (small : count ≤ whole) :
    (∃ near, AreNear count (near * whole) whole) ↔
      count * 2 ^ 52 ≤ whole ∨ whole * 2 ^ 52 ≤ count * 2 ^ 52 + whole := by
  have scaled := Nat.mul_le_mul_right (2 ^ 52) small
  unfold AreNear
  generalize 2 ^ 52 = parts at *
  constructor
  · rintro ⟨near, above, below⟩
    rcases Nat.eq_zero_or_pos near with rfl | filled
    · left
      rwa [Nat.zero_mul, Nat.zero_mul, Nat.zero_add] at above
    · right
      exact (Nat.mul_le_mul_right parts (Nat.le_mul_of_pos_left whole filled)).trans below
  · rintro (zero | one)
    · refine ⟨0, ?_, ?_⟩ <;> rw [Nat.zero_mul, Nat.zero_mul]
      · rwa [Nat.zero_add]
      · exact Nat.zero_le _
    · refine ⟨1, ?_, ?_⟩ <;> rw [Nat.one_mul]
      · exact Nat.le_add_right_of_le scaled
      · exact one

/-- A quotient near zero is rounded to steps that are near zero. -/
theorem roundHalfEven_le_pow_iff (positive : 0 < divisor) (small : divisor ≤ 2 ^ 53)
    (low : 2 ^ 52 * divisor ≤ number * (2 ^ 52 * whole))
    (high : number * (2 ^ 52 * whole) < 2 ^ 53 * divisor) :
    roundHalfEven (number * (2 ^ 52 * whole)) divisor ≤ whole ↔ 2 ^ 52 * number ≤ divisor := by
  constructor
  · intro few
    by_contra above
    have count := (le_roundHalfEven positive low).trans few
    have rounded : 2 * (number * (2 ^ 52 * whole)) ≤ (2 * whole + 1) * divisor := by
      rcases (roundHalfEven_le_iff positive).mp few with below | ⟨same, _⟩
      · exact below.le
      · exact same.le
    have scaled := Nat.mul_le_mul_right whole (Nat.not_le.mp above)
    have twice : 2 * whole ≤ divisor := by linarith
    -- There is one such divisor, and three would be the only number.
    obtain rfl : whole = 2 ^ 52 := by omega
    obtain rfl : divisor = 2 ^ 53 := by omega
    omega
  · intro below
    apply roundHalfEven_le positive
    have scaled := Nat.mul_le_mul_right whole below
    linarith

/-- A quotient below one, measured in an even number of steps, is rounded to all of them but two or more. -/
theorem add_three_le_roundHalfEven_iff (positive : 0 < divisor) (odd : count % 2 = 1)
    (less : number < divisor) :
    count + 3 ≤ roundHalfEven (number * (count + 3)) divisor + 2 ↔
      2 * (count + 3) * (divisor - number) ≤ 5 * divisor := by
  have few : roundHalfEven (number * (count + 3)) divisor ≤ count ↔ _ := roundHalfEven_le_iff positive
  rw [or_iff_left (by omega)] at few
  obtain ⟨gap, rfl⟩ := Nat.exists_eq_add_of_le less.le
  have many : count + 3 ≤ roundHalfEven (number * (count + 3)) (number + gap) + 2 ↔
      ¬ roundHalfEven (number * (count + 3)) (number + gap) ≤ count := by omega
  rw [many, few, Nat.not_lt, Nat.add_sub_cancel_left]
  constructor
  · intro near
    linarith
  · intro near
    linarith

/-- A quotient near one is rounded to steps that are near one, where there are `2 ^ 53` of them. -/
theorem pow_le_roundHalfEven_iff (positive : 0 < divisor) (many : 2 ≤ whole)
    (high : number * (2 ^ 52 * whole) < 2 ^ 53 * divisor) :
    2 ^ 52 * whole ≤ roundHalfEven (number * (2 ^ 52 * whole)) divisor + whole ↔
      2 ^ 54 * (divisor - number) ≤ 5 * divisor := by
  rcases Nat.eq_or_lt_of_le many with rfl | more
  · obtain ⟨count, odd, total⟩ : ∃ count, count % 2 = 1 ∧ 2 ^ 53 = count + 3 :=
      ⟨9007199254740989, rfl, rfl⟩
    have steps : 2 ^ 52 * 2 = 2 ^ 53 := rfl
    have twice : 2 ^ 54 = 2 * 2 ^ 53 := rfl
    rw [steps, Nat.mul_comm] at high
    rw [steps, twice, total]
    exact add_three_le_roundHalfEven_iff positive odd (Nat.lt_of_mul_lt_mul_left high)
  · have count := roundHalfEven_le positive high.le
    have coarse := Nat.mul_le_mul_left number (Nat.mul_le_mul_left (2 ^ 52) more)
    have less : 3 * number < 2 * divisor := by linarith
    refine iff_of_false ?_ ?_ <;> omega

/-- Below one, a quotient is near an integer if it is near zero or one. -/
theorem exists_areNear_iff_of_lt_divisor (positive : 0 < divisor) (small : divisor ≤ 2 ^ 53) (many : 53 ≤ bits)
    (low : 2 ^ 52 * divisor ≤ number * 2 ^ bits) (high : number * 2 ^ bits < 2 ^ 53 * divisor) :
    (∃ whole, AreNear (roundHalfEven (number * 2 ^ bits) divisor) (whole * 2 ^ bits)
      (max (roundHalfEven (number * 2 ^ bits) divisor) (2 ^ bits))) ↔
      2 ^ 52 * number ≤ divisor ∨ 2 ^ 54 * (divisor - number) ≤ 5 * divisor := by
  have count : roundHalfEven (number * 2 ^ bits) divisor ≤ 2 ^ bits :=
    (roundHalfEven_le positive high.le).trans (Nat.pow_le_pow_right Nat.two_pos many)
  rw [Nat.max_eq_right count, exists_areNear_iff_of_count_le count]
  obtain ⟨more, rfl⟩ := Nat.exists_eq_add_of_le many
  have power : 2 ^ (53 + more) = 2 ^ 52 * 2 ^ (more + 1) := by
    rw [← Nat.pow_add]
    congr 1
    omega
  have filled : 2 ≤ 2 ^ (more + 1) := Nat.le_self_pow (Nat.succ_ne_zero more) 2
  rw [power] at low high ⊢
  generalize 2 ^ (more + 1) = whole at *
  rw [← roundHalfEven_le_pow_iff positive small low high,
    ← pow_le_roundHalfEven_iff positive filled high]
  have parts := Nat.two_pow_pos 52
  refine or_congr ?_ ?_
  · rw [Nat.mul_comm, Nat.mul_le_mul_left_iff parts]
  · rw [Nat.mul_comm, Nat.mul_comm _ (2 ^ 52), ← Nat.mul_add, Nat.mul_le_mul_left_iff parts]

theorem isNearlyIntegral_of_magnitude_eq {double : Double}
    (same : double.magnitude = whole * unitsPerOne) : double.isNearlyIntegral = true := by
  rw [isNearlyIntegral_iff, same]
  exact ⟨whole, Nat.le_add_right _ _, Nat.le_add_right _ _⟩

/-- The nearest double of a quotient passes for an integer exactly if the quotient does. -/
theorem isNearlyIntegral_nearest_eq (small : number ≤ 2 ^ 53) (positive : 0 < divisor)
    (small' : divisor ≤ 2 ^ 53) :
    (nearest negative number divisor).isNearlyIntegral = isNearlyMultiple number divisor := by
  rcases Nat.eq_zero_or_pos number with rfl | nonzero
  · have zero : (nearest negative 0 divisor).magnitude * divisor = 0 * unitsPerOne :=
      magnitude_nearest_of_dvd positive (by rw [stepExponent_zero]; exact Nat.zero_le _)
        (by rw [Nat.zero_mul]; exact Nat.dvd_zero _)
    rw [Nat.zero_mul, Nat.mul_eq_zero, or_iff_left positive.ne'] at zero
    have multiple : isNearlyMultiple 0 divisor = true := by
      unfold isNearlyMultiple
      rw [if_pos positive, decide_eq_true_iff]
      exact .inl (Nat.zero_le _)
    rw [multiple]
    exact isNearlyIntegral_of_magnitude_eq (zero.trans (Nat.zero_mul _).symm)
  rcases Nat.lt_or_ge number (2 ^ 53 * divisor) with less | large
  · obtain ⟨bits, size, low, high⟩ := exists_stepExponent_add_eq nonzero positive less small'
    unfold isNearlyMultiple
    rw [Bool.eq_iff_iff, isNearlyIntegral_nearest_iff positive size]
    rcases Nat.lt_or_ge bits 53 with few | many
    · have coarse := Nat.mul_le_mul_left number (Nat.pow_le_pow_right Nat.two_pos (Nat.le_of_lt_succ few))
      rw [if_neg (by omega), decide_eq_true_iff]
      exact exists_areNear_iff_of_divisor_le positive (Nat.le_of_lt_succ few) low high
    · have fine := Nat.mul_le_mul_left number (Nat.pow_le_pow_right Nat.two_pos many)
      rw [if_pos (by omega), decide_eq_true_iff]
      exact exists_areNear_iff_of_lt_divisor positive small' many low high
  · obtain rfl : divisor = 1 := by omega
    have multiple : isNearlyMultiple number 1 = true := by
      unfold isNearlyMultiple
      rw [if_neg (by omega), decide_eq_true_iff, Nat.mod_one, Nat.zero_min, Nat.mul_zero]
      exact Nat.mul_pos (by decide) (Nat.two_pow_pos _)
    rw [multiple]
    exact isNearlyIntegral_of_magnitude_eq (magnitude_nearest_whole small)

theorem isNearlyMultiple_of_dvd (positive : 0 < divisor) (divides : divisor ∣ number) :
    isNearlyMultiple number divisor = true := by
  unfold isNearlyMultiple
  split
  · rename_i less
    rw [decide_eq_true_iff, Nat.eq_zero_of_dvd_of_lt divides less]
    exact .inl (Nat.zero_le _)
  · rw [decide_eq_true_iff, Nat.mod_eq_zero_of_dvd divides, Nat.zero_min, Nat.mul_zero]
    exact Nat.mul_pos (Nat.mul_pos (by decide) positive) (Nat.two_pow_pos _)

/-- Among smaller numbers only multiples pass. -/
theorem isNearlyMultiple_iff_dvd (positive : 0 < divisor) (small : 3 * number ≤ 2 ^ 53)
    (small' : 5 * divisor < 2 ^ 54) : isNearlyMultiple number divisor = true ↔ divisor ∣ number := by
  refine ⟨fun near => ?_, isNearlyMultiple_of_dvd positive⟩
  unfold isNearlyMultiple at near
  split at near
  · have zero : number = 0 := by
      rcases of_decide_eq_true near with near | near <;> omega
    rw [zero]
    exact Nat.dvd_zero divisor
  · rename_i atLeast
    have near := of_decide_eq_true near
    have filled : number / divisor ≠ 0 := (Nat.div_pos (Nat.not_lt.mp atLeast) positive).ne'
    have bound : 3 * divisor * 2 ^ Nat.log2 (number / divisor) ≤ 2 ^ 53 * 1 :=
      calc
        3 * divisor * 2 ^ Nat.log2 (number / divisor)
          ≤ 3 * divisor * (number / divisor) := Nat.mul_le_mul_left _ (Nat.log2_self_le filled)
        _ = 3 * (divisor * (number / divisor)) := Nat.mul_assoc ..
        _ ≤ 3 * number := Nat.mul_le_mul_left _ (Nat.mul_div_le number divisor)
        _ ≤ 2 ^ 53 * 1 := small
    have rest := Nat.mod_lt number positive
    have none := Nat.lt_of_mul_lt_mul_left (near.trans_le bound)
    exact Nat.dvd_of_mod_eq_zero (by omega)

end Quotients

end Double

end Conformance
