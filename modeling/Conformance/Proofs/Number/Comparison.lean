import Conformance.Proofs.Number.Readings
import Conformance.Proofs.Value.Encoding
/-!
Equality of numbers. Integers are equal if they are the same, any other pair if the nearest doubles are. So
two integers may be equal to one double and differ, but only where rounding identifies neighbours, beyond
`exactLimit`; and there an integer is not written or hashed as the double that it is equal to
(`Number.equality_and_hashing`).
-/

namespace Conformance

namespace Double

variable {left middle right double : Double}

/-- Doubles are equal if they are the same or the same whole number of units. -/
theorem equal_iff : left.equal right = true ↔
    left.isNaN = false ∧ right.isNaN = false ∧
      (left = right ∨ left.isFinite = true ∧ right.isFinite = true ∧ left.units = right.units) := by
  unfold equal
  rw [← and_assoc, ← Bool.or_eq_false_iff]
  cases nan : left.isNaN || right.isNaN with
  | true => simp
  | false =>
      rw [if_neg Bool.false_ne_true, eq_self_iff_true, true_and, ← and_assoc, ← Bool.and_eq_true]
      cases finite : left.isFinite && right.isFinite with
      | true =>
          rw [if_pos rfl, beq_iff_eq, eq_self_iff_true, true_and, or_iff_right_of_imp]
          exact congrArg units
      | false => simp

theorem equal_self_iff : double.equal double = true ↔ double.isNaN = false := by
  rw [equal_iff]
  simp

theorem equal_comm : left.equal right = right.equal left := by
  rw [Bool.eq_iff_iff, equal_iff, equal_iff]
  tauto

theorem equal_trans (first : left.equal middle = true) (second : middle.equal right = true) :
    left.equal right = true := by
  rw [equal_iff] at first second ⊢
  obtain ⟨number, _, rfl | ⟨finite, _, units⟩⟩ := first
  · exact second
  · obtain ⟨_, number', rfl | ⟨_, finite', units'⟩⟩ := second
    · exact ⟨number, number', .inr ⟨finite, ‹_›, units⟩⟩
    · exact ⟨number, number', .inr ⟨finite, finite', units.trans units'⟩⟩

/-- What a finite double is equal to is finite and the same rational. -/
theorem equal_iff_of_isFinite (finite : left.isFinite = true) :
    left.equal right = true ↔ right.isFinite = true ∧ left.toRat = right.toRat := by
  rw [equal_iff, toRat_eq_toRat_iff]
  constructor
  · rintro ⟨_, _, rfl | ⟨_, finite', units⟩⟩
    · exact ⟨finite, rfl⟩
    · exact ⟨finite', units⟩
  · rintro ⟨finite', units⟩
    exact ⟨isNaN_of_isFinite finite, isNaN_of_isFinite finite', .inr ⟨finite, finite', units⟩⟩

end Double

namespace Number

variable {left middle right : Number} {whole : Int64} {double double' : Double}

/-- Whether a number is a double, or an integer of at most `exactLimit`. -/
def isWithinLimit : Number → Bool
  | .int value => decide (value.toInt.natAbs ≤ exactLimit)
  | .float _ => true

theorem equal_of_mixed (mixed : left.isInteger = false ∨ right.isInteger = false) :
    left.equal right = left.toDouble.equal right.toDouble := by
  cases left with
  | float => rfl
  | int =>
      cases right with
      | float => rfl
      | int => rcases mixed with mixed | mixed <;> cases mixed

theorem equal_toDouble_of_equal (same : left.equal right = true) :
    left.toDouble.equal right.toDouble = true := by
  cases left with
  | float => exact same
  | int =>
      cases right with
      | float => exact same
      | int =>
          cases eq_of_beq same
          exact Double.equal_self_iff.mpr (Double.isNaN_of_isFinite isFinite_toDouble_int)

theorem equal_self_iff : left.equal left = true ↔ left.toDouble.isNaN = false := by
  cases left with
  | int =>
      exact iff_of_true (beq_self_eq_true _) (Double.isNaN_of_isFinite isFinite_toDouble_int)
  | float => exact Double.equal_self_iff

theorem equal_comm : left.equal right = right.equal left := by
  cases left with
  | float =>
      rw [equal_of_mixed (.inl rfl), equal_of_mixed (.inr rfl)]
      exact Double.equal_comm
  | int =>
      cases right with
      | float => exact Double.equal_comm
      | int => exact Bool.beq_comm

/-- Equality is transitive, but for two different integers that are equal to one double. -/
theorem equal_iff_of_equal_of_equal (first : left.equal middle = true)
    (second : middle.equal right = true) :
    left.equal right = true ↔ left = right ∨ middle.isInteger = true ∨ left.isInteger = false ∨
      right.isInteger = false := by
  have doubles := Double.equal_trans (equal_toDouble_of_equal first) (equal_toDouble_of_equal second)
  by_cases mixed : left.isInteger = false ∨ right.isInteger = false
  · rw [equal_of_mixed mixed]
    exact iff_of_true doubles (.inr (.inr mixed))
  · obtain ⟨integer, integer'⟩ := not_or.mp mixed
    cases left with
    | float => exact absurd rfl integer
    | int whole =>
        cases right with
        | float => exact absurd rfl integer'
        | int whole' =>
            have exact : (int whole).equal (int whole') = true ↔ int whole = int whole' := by
              rw [int.injEq]
              exact beq_iff_eq
            rw [exact]
            cases middle with
            | float => simp [isInteger]
            | int middle =>
                cases eq_of_beq first
                cases eq_of_beq second
                simp

section Hashing

theorem alike_comm : left.Alike right ↔ right.Alike left := by
  unfold Alike
  constructor
  · rintro ⟨integers, doubles⟩
    exact ⟨integers.symm, fun none => (doubles (integers.trans none)).symm⟩
  · rintro ⟨integers, doubles⟩
    exact ⟨integers.symm, fun none => (doubles (integers.trans none)).symm⟩

theorem word_eq_of_alike (alike : left.Alike right) : left.word = right.word := by
  obtain ⟨integers, doubles⟩ := alike
  unfold word
  rw [← integers]
  cases read : left.integer? with
  | some => rfl
  | none => exact congrArg Double.word (doubles read)

/-- Equal doubles that are not the same are zeros. -/
theorem alike_of_equal_float (same : (float double).equal (float double') = true) :
    (float double).Alike (float double') := by
  have doubles : double.equal double' = true := same
  obtain ⟨_, _, rfl | ⟨finite, finite', units⟩⟩ := Double.equal_iff.mp doubles
  · exact ⟨rfl, fun _ => rfl⟩
  · have integers : (float double).integer? = (float double').integer? := by
      ext whole
      rw [integer?_eq_some_iff, integer?_eq_some_iff, finite, finite',
        Double.toRat_eq_toRat_iff.mpr units]
    refine ⟨integers, fun none => ?_⟩
    rcases Double.eq_of_units_eq units with alike | ⟨zero, _⟩
    · exact alike
    · have units : double.units = 0 := Int.natAbs_eq_zero.mp (Double.natAbs_units.trans zero)
      have amount : double.toRat = (0 : ℤ) := Double.toRat_eq_iff.mpr (by rw [units, Int.zero_mul])
      have read : (float double).integer? = some 0 := by
        rw [integer?_eq_some_iff, amount, abs_intCast_le_iff]
        exact ⟨finite, rfl, Nat.zero_le _⟩
      rw [none] at read
      cases read

/-- An integer is written and hashed as a double that it is equal to only up to `exactLimit`. -/
theorem alike_int_float_iff (same : (int whole).equal (float double) = true) :
    (int whole).Alike (float double) ↔ (int whole).isWithinLimit = true := by
  obtain ⟨finite, amount⟩ := (Double.equal_iff_of_isFinite isFinite_toDouble_int).mp same
  have alike : (int whole).Alike (float double) ↔ (float double).integer? = some whole := by
    constructor
    · rintro ⟨integers, _⟩
      exact integers.symm
    · exact fun read => ⟨read.symm, nofun⟩
  have within : (int whole).isWithinLimit = true ↔ whole.toInt.natAbs ≤ exactLimit :=
    decide_eq_true_iff
  rw [alike, within, integer?_eq_some_iff]
  constructor
  · rintro ⟨_, read, small⟩
    rwa [← read, abs_intCast_le_iff] at small
  · intro small
    have read : (whole.toInt : ℚ) = double.toRat :=
      (Double.toRat_eq_iff.mpr (Double.units_ofInt small)).symm.trans amount
    exact ⟨finite, read, by rwa [← read, abs_intCast_le_iff]⟩

theorem alike_iff_of_equal (same : left.equal right = true) :
    left.Alike right ↔ left.isInteger = right.isInteger ∨
      left.isWithinLimit = true ∧ right.isWithinLimit = true := by
  cases left with
  | float double =>
      cases right with
      | float double' => exact iff_of_true (alike_of_equal_float same) (.inl rfl)
      | int whole =>
          rw [alike_comm, alike_int_float_iff (equal_comm.trans same)]
          simp [isInteger, isWithinLimit]
  | int whole =>
      cases right with
      | float double =>
          rw [alike_int_float_iff same]
          simp [isInteger, isWithinLimit]
      | int whole' =>
          cases eq_of_beq same
          exact iff_of_true ⟨rfl, fun _ => rfl⟩ (.inl rfl)

/-- Equal numbers are written as the same octets if they are held in the same way, or neither is an integer
beyond `exactLimit`. -/
theorem encoding_eq_iff (same : left.equal right = true) :
    (Value.number left).encoding = (Value.number right).encoding ↔
      left.isInteger = right.isInteger ∨
        left.isWithinLimit = true ∧ right.isWithinLimit = true := by
  rw [← alike_iff_of_equal same]
  exact (Value.tells_number left right).iff

theorem word_eq_of_encoding (same : (Value.number left).encoding = (Value.number right).encoding) :
    left.word = right.word :=
  word_eq_of_alike ((Value.tells_number left right).iff.mp same)

/-- Where no integer lies beyond `exactLimit`, equality is transitive. -/
theorem equal_of_isWithinLimit (first : left.equal middle = true) (second : middle.equal right = true)
    (within : left.isWithinLimit = true) (within' : right.isWithinLimit = true) :
    left.equal right = true := by
  rw [equal_iff_of_equal_of_equal first second]
  by_cases mixed : middle.isInteger = true ∨ left.isInteger = false ∨ right.isInteger = false
  · exact .inr mixed
  · left
    cases left with
    | float => exact absurd (.inr (.inl rfl)) mixed
    | int whole =>
        cases right with
        | float => exact absurd (.inr (.inr rfl)) mixed
        | int whole' =>
            cases middle with
            | int => exact absurd (.inl rfl) mixed
            | float double =>
                have read := ((alike_int_float_iff first).mpr within).1
                have read' := ((alike_int_float_iff (equal_comm.trans second)).mpr within').1
                exact congrArg int (Option.some.inj (read.trans read'.symm))

end Hashing

/-- Equality of numbers is reflexive where it can be, symmetric, and transitive but for two integers that
are equal to one double. Equal numbers are hashed alike but for an integer beyond `exactLimit` and a double.
So without such integers it is an equivalence that agrees with hashing. -/
theorem equality_and_hashing (left middle right : Number) :
    (left.equal left = true ↔ left.toDouble.isNaN = false) ∧
      left.equal right = right.equal left ∧
      (left.equal middle = true → middle.equal right = true →
        (left.equal right = true ↔ left = right ∨ middle.isInteger = true ∨
          left.isInteger = false ∨ right.isInteger = false) ∧
        (left.isWithinLimit = true → right.isWithinLimit = true → left.equal right = true)) ∧
      (left.equal right = true →
        ((Value.number left).encoding = (Value.number right).encoding ↔
          left.isInteger = right.isInteger ∨
            left.isWithinLimit = true ∧ right.isWithinLimit = true) ∧
        ((Value.number left).encoding = (Value.number right).encoding → left.word = right.word)) := by
  refine ⟨equal_self_iff, equal_comm, fun first second => ?_, fun same => ?_⟩
  · exact ⟨equal_iff_of_equal_of_equal first second, equal_of_isWithinLimit first second⟩
  · exact ⟨encoding_eq_iff same, word_eq_of_encoding⟩

/-- The integer zero and both zero doubles are equal and hashed alike. -/
theorem equality_and_hashing_zero :
    (int 0).equal (float (Double.zero false)) = true ∧
      (float (Double.zero false)).equal (float (Double.zero true)) = true ∧
      (int 0).equal (float (Double.zero true)) = true ∧
      (Value.number (int 0)).encoding = (Value.number (float (Double.zero true))).encoding ∧
      (int 0).word = (float (Double.zero true)).word := by
  obtain ⟨_, _, transitive, hashed⟩ :=
    equality_and_hashing (int 0) (float (Double.zero false)) (float (Double.zero true))
  have first : (int 0).equal (float (Double.zero false)) = true := by decide +kernel
  have second : (float (Double.zero false)).equal (float (Double.zero true)) = true := by
    decide +kernel
  have same := (transitive first second).2 (by decide +kernel) rfl
  obtain ⟨octets, word⟩ := hashed same
  have written := octets.mpr (.inr ⟨by decide +kernel, rfl⟩)
  exact ⟨first, second, same, written, word written⟩

/-- Two integers next to each other are equal to one double, and an integer that is a double is not hashed
like it. -/
theorem equal_apart :
    (int 9007199254740993).equal (float (Double.ofInt 9007199254740992)) = true ∧
      (float (Double.ofInt 9007199254740992)).equal (int 9007199254740992) = true ∧
      (int 9007199254740993).equal (int 9007199254740992) = false ∧
      (int 1152921504606846976).equal (float (Double.ofInt 1152921504606846976)) = true ∧
      (int 1152921504606846976).word ≠ (float (Double.ofInt 1152921504606846976)).word ∧
      (Value.number (int 1152921504606846976)).encoding ≠
        (Value.number (float (Double.ofInt 1152921504606846976))).encoding := by
  decide +kernel

end Number

end Conformance
