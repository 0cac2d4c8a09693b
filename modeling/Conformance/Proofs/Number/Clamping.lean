import Conformance.Environment
import Conformance.Proofs.Number.Order
/-!
Clamping. A number beyond an inclusive bound is moved to the bound, an integer to the nearest integer inside
it. What conversion gives is accepted unless the bound is no number, and is held as the instance is unless an
integer is moved to a bound that has no integer beside it: a double that is infinite or beyond `exactLimit`
(`Side.clamped_within`).
-/

namespace Conformance

/-- The side on which a number is bounded. -/
inductive Side where
  | upper
  | lower
  deriving DecidableEq, Repr

namespace Side

def meaning : Side → Meaning
  | upper => .maximum
  | lower => .minimum

/-- The sibling constraint that makes the bound exclusive. -/
def flag : Side → String
  | upper => "exclusive_maximum"
  | lower => "exclusive_minimum"

def check : Side → Number → Check
  | upper => .maximum
  | lower => .minimum

/-- Whether a number compares as being within a bound. -/
def admits (side : Side) (bound number : Number) : Bool :=
  match side with
  | upper => number.isAtMost bound
  | lower => bound.isAtMost number

/-- The bound, rounded to the inside. -/
def inner (side : Side) (bound : Number) : Number :=
  match side with
  | upper => bound.floor
  | lower => bound.ceiling

/-- Whether a rational is within a bound. -/
def Holds (side : Side) (bound amount : ℚ) : Prop :=
  match side with
  | upper => amount ≤ bound
  | lower => bound ≤ amount

/-- The nearest integer within a bound. -/
def nearestInteger (side : Side) (bound : ℚ) : ℤ :=
  match side with
  | upper => ⌊bound⌋
  | lower => ⌈bound⌉

variable {side : Side} {amount bound : ℚ} {whole other : ℤ}

theorem holds_nearestInteger : side.Holds bound (side.nearestInteger bound) := by
  cases side with
  | upper => exact Int.floor_le bound
  | lower => exact Int.le_ceil bound

/-- No integer within a bound is nearer to what lies outside. -/
theorem abs_sub_nearestInteger_le (outside : ¬ side.Holds bound whole) (inside : side.Holds bound other) :
    |whole - side.nearestInteger bound| ≤ |whole - other| := by
  cases side with
  | upper =>
      have limit : other ≤ ⌊bound⌋ := Int.le_floor.mpr inside
      have beyond : ⌊bound⌋ < whole := Int.floor_lt.mpr (not_le.mp outside)
      change |whole - ⌊bound⌋| ≤ |whole - other|
      rw [abs_of_nonneg (by omega), abs_of_nonneg (by omega)]
      omega
  | lower =>
      have limit : ⌈bound⌉ ≤ other := Int.ceil_le.mpr inside
      have beyond : whole < ⌈bound⌉ := Int.lt_ceil.mpr (not_le.mp outside)
      change |whole - ⌈bound⌉| ≤ |whole - other|
      rw [abs_of_nonpos (by omega), abs_of_nonpos (by omega)]
      omega

end Side

/-- Whether the floor and the ceiling of a number are held as integers. -/
def Number.hasIntegerParts : Number → Bool
  | .int _ => true
  | .float double => isExactRange double

namespace Side

variable {side : Side} {bound number : Number} {isPartial : Bool}

theorem nearestInteger_intCast (whole : ℤ) : side.nearestInteger whole = whole := by
  cases side with
  | upper => exact Int.floor_intCast whole
  | lower => exact Int.ceil_intCast whole

theorem natAbs_nearestInteger_le {amount : ℚ} {limit : ℕ} (small : |amount| ≤ limit) :
    (side.nearestInteger amount).natAbs ≤ limit := by
  cases side with
  | upper => exact natAbs_floor_le small
  | lower => exact natAbs_ceil_le small

theorem inner_float {double : Double} : side.inner (.float double) =
    if Number.isExactRange double then .int (Int64.ofInt (side.nearestInteger double.toRat))
    else .float double := by
  cases side with
  | upper => exact Number.floor_float
  | lower => exact Number.ceiling_float

theorem inner_eq_int (side : Side) (parts : bound.hasIntegerParts = true) :
    ∃ (amount : ℚ) (whole : Int64), bound.rational? = some amount ∧ side.inner bound = .int whole ∧
      whole.toInt = side.nearestInteger amount := by
  cases bound with
  | int whole =>
      refine ⟨whole.toInt, whole, rfl, ?_, (nearestInteger_intCast _).symm⟩
      cases side <;> rfl
  | float double =>
      obtain ⟨finite, small⟩ := Number.isExactRange_iff.mp parts
      exact ⟨double.toRat, _, Number.rational?_float_eq_some.mpr ⟨finite, rfl⟩,
        inner_float.trans (if_pos parts), Number.toInt_ofInt (natAbs_nearestInteger_le small)⟩

theorem admits_of_holds {amount amount' : ℚ} (reads : bound.rational? = some amount)
    (reads' : number.rational? = some amount') (holds : side.Holds amount amount') :
    side.admits bound number = true := by
  cases side with
  | upper => exact Number.isAtMost_of_le reads' reads holds
  | lower => exact Number.isAtMost_of_le reads reads' holds

theorem admits_toDouble_iff :
    side.admits bound (.float bound.toDouble) = true ↔ bound.toDouble.isNaN = false := by
  constructor
  · intro admitted
    cases side with
    | upper => exact (Number.isNaN_of_isAtMost admitted).2
    | lower => exact (Number.isNaN_of_isAtMost admitted).1
  · intro proper
    cases side with
    | upper => exact (Number.isAtMost_toDouble proper).2
    | lower => exact (Number.isAtMost_toDouble proper).1

/-- What a number beyond a bound is moved to. -/
theorem clamp_eq : Check.clamp number (side.inner bound) bound =
    if number.isInteger = true ∧ bound.hasIntegerParts = true then side.inner bound
    else .float bound.toDouble := by
  cases number with
  | float => exact (if_neg fun both => nomatch both.1).symm
  | int whole =>
      by_cases parts : bound.hasIntegerParts = true
      · obtain ⟨_, inside, _, moved, _⟩ := inner_eq_int side parts
        rw [if_pos ⟨rfl, parts⟩, moved]
        rfl
      · rw [if_neg fun both => parts both.2]
        cases bound with
        | int => exact absurd rfl parts
        | float double =>
            have large : ¬ Number.isExactRange double = true := parts
            rw [inner_float, if_neg large]
            rfl

theorem violation?_check : (side.check bound).violation? isPartial (.number number) = none ↔
    side.admits bound number = true := by
  cases side with
  | upper => exact Check.onNumber_number_eq_none
  | lower => exact Check.onNumber_number_eq_none

theorem convert_check : (side.check bound).convert isPartial (.number number) =
    .ok (.number (if side.admits bound number = true then number
      else Check.clamp number (side.inner bound) bound)) := by
  have keeps : (side.check bound).replaces = false := by cases side <;> rfl
  rw [Check.convert_eq_ok keeps, violation?_check]
  by_cases admitted : side.admits bound number = true
  · rw [if_pos admitted]
    exact .inl ⟨admitted, rfl⟩
  · have refused : (side.check bound).violation? isPartial (.number number) ≠ none :=
      fun passes => admitted (violation?_check.mp passes)
    rw [if_neg admitted]
    refine .inr ⟨Option.isSome_iff_ne_none.mpr refused, ?_⟩
    cases side <;> rfl

/-- What an integer beyond a bound is moved to is the nearest integer within it. -/
theorem inner_nearest {amount : ℚ} {whole : Int64} (reads : bound.rational? = some amount)
    (refused : ¬ side.admits bound (.int whole) = true) (parts : bound.hasIntegerParts = true) :
    ∃ inside : Int64, side.inner bound = .int inside ∧ side.Holds amount inside.toInt ∧
      ∀ other : ℤ, side.Holds amount other → |whole.toInt - inside.toInt| ≤ |whole.toInt - other| := by
  obtain ⟨_, inside, reads', moved, nearest⟩ := inner_eq_int side parts
  cases Option.some.inj (reads.symm.trans reads')
  have outside : ¬ side.Holds amount whole.toInt := fun holds =>
    refused (admits_of_holds reads rfl holds)
  refine ⟨inside, moved, ?_, fun other held => ?_⟩
  · rw [nearest]
    exact holds_nearestInteger
  · rw [nearest]
    exact abs_sub_nearestInteger_le outside held

theorem admits_clamp_iff : side.admits bound (Check.clamp number (side.inner bound) bound) = true ↔
    bound.toDouble.isNaN = false := by
  rw [clamp_eq]
  split
  · rename_i both
    obtain ⟨amount, inside, reads, moved, nearest⟩ := inner_eq_int side both.2
    have held : side.Holds amount inside.toInt := by
      rw [nearest]
      exact holds_nearestInteger
    rw [moved]
    exact iff_of_true (admits_of_holds reads rfl held)
      (Double.isNaN_of_isFinite (Number.isFinite_of_rational? reads))
  · exact admits_toDouble_iff

theorem isInteger_clamp : (Check.clamp number (side.inner bound) bound).isInteger = number.isInteger ↔
    number.isInteger = false ∨ bound.hasIntegerParts = true := by
  rw [clamp_eq]
  split
  · rename_i both
    obtain ⟨_, _, _, moved, _⟩ := inner_eq_int side both.2
    rw [moved, both.1]
    exact iff_of_true rfl (.inr both.2)
  · rename_i apart
    have float : (Number.float bound.toDouble).isInteger = false := rfl
    rw [float]
    cases held : number.isInteger with
    | false => exact iff_of_true rfl (.inl rfl)
    | true =>
        refine iff_of_false nofun ?_
        rintro (float | parts)
        · cases float
        · exact apart ⟨held, parts⟩

section Compiled

variable {context : Context} {value : Value} {check : Check}

theorem check_eq_map (inclusive : context.isExclusive side.flag = false) :
    context.check side.meaning value =
      (context.number value).map fun bound => some (side.check bound) := by
  cases side with
  | upper =>
      change (context.number value).map (fun bound => some (if context.isExclusive upper.flag then
        Check.below bound else Check.maximum bound)) = _
      rw [inclusive]
      rfl
  | lower =>
      change (context.number value).map (fun bound => some (if context.isExclusive lower.flag then
        Check.above bound else Check.minimum bound)) = _
      rw [inclusive]
      rfl

/-- Conversion of a number by an inclusive bound never fails. What is accepted, or within the bound as a
rational, is left as it is. The result is accepted unless the bound is no number, and is held as the number
is unless an integer is moved to a double that has no integer beside it. An integer is moved to the nearest
one within any other bound. -/
theorem clamped_within (compiled : context.check side.meaning value = .ok (some check))
    (inclusive : context.isExclusive side.flag = false) :
    ∃ bound, context.number value = .ok bound ∧ ∀ isPartial number, ∃ result : Number,
      check.convert isPartial (.number number) = .ok (.number result) ∧
      (check.violation? isPartial (.number number) = none → result = number) ∧
      (check.violation? isPartial (.number result) = none ↔
        check.violation? isPartial (.number number) = none ∨ bound.toDouble.isNaN = false) ∧
      (result.isInteger = number.isInteger ↔
        check.violation? isPartial (.number number) = none ∨ number.isInteger = false ∨
          bound.hasIntegerParts = true) ∧
      ∀ amount, bound.rational? = some amount →
        (∀ amount', number.rational? = some amount' → side.Holds amount amount' →
          result = number) ∧
        (∀ whole, number = .int whole → check.violation? isPartial (.number number) ≠ none →
          bound.hasIntegerParts = true → ∃ inside : Int64, result = .int inside ∧
            side.Holds amount inside.toInt ∧ ∀ other : ℤ, side.Holds amount other →
              |whole.toInt - inside.toInt| ≤ |whole.toInt - other|) := by
  obtain ⟨bound, read, same⟩ := Context.exists_of_map_ok ((check_eq_map inclusive).symm.trans compiled)
  cases Option.some.inj same
  refine ⟨bound, read, fun isPartial number => ⟨_, convert_check, ?_⟩⟩
  rw [Ne, violation?_check, violation?_check]
  by_cases admitted : side.admits bound number = true
  · rw [if_pos admitted]
    exact ⟨fun _ => rfl, iff_of_true admitted (.inl admitted), iff_of_true rfl (.inl admitted),
      fun _ _ => ⟨fun _ _ _ => rfl, fun _ _ refused => absurd admitted refused⟩⟩
  · rw [if_neg admitted, admits_clamp_iff, isInteger_clamp]
    refine ⟨fun passes => absurd passes admitted, (or_iff_right admitted).symm,
      (or_iff_right admitted).symm, fun amount reads => ⟨fun _ reads' holds => ?_, ?_⟩⟩
    · exact absurd (admits_of_holds reads reads' holds) admitted
    · rintro whole rfl refused parts
      rw [clamp_eq, if_pos ⟨rfl, parts⟩]
      exact inner_nearest reads refused parts

end Compiled

/-- A document whose bound is spelled. -/
def spelling : Context :=
  ⟨(Environment.native 0).settings, [("maximum", .string " 7.5 ")], "maximum", true, none⟩

/-- The integer nine is moved to an integer that the bound accepts. -/
theorem clamped_within_spelled :
    spelling.check upper.meaning (.string " 7.5 ") =
        .ok (some (upper.check (.float (Double.nearest false 15 2)))) ∧
      spelling.isExclusive upper.flag = false ∧
      ∃ result : Number,
        (upper.check (.float (Double.nearest false 15 2))).convert false (.number (.int 9)) =
          .ok (.number result) ∧
        (upper.check (.float (Double.nearest false 15 2))).violation? false (.number result) = none ∧
        result.isInteger = true := by
  have spelled : (spelling.number (.string " 7.5 ")).toOption =
      some (.float (Double.nearest false 15 2)) := by decide +kernel
  have read := toOption_eq_some.mp spelled
  have inclusive : spelling.isExclusive upper.flag = false := by decide +kernel
  have compiled : spelling.check upper.meaning (.string " 7.5 ") =
      .ok (some (upper.check (.float (Double.nearest false 15 2)))) := by
    rw [check_eq_map inclusive, read]
    rfl
  obtain ⟨bound, read', moves⟩ := clamped_within compiled inclusive
  cases Except.ok.inj (read.symm.trans read')
  obtain ⟨result, made, _, accepted, held, _⟩ := moves false (.int 9)
  exact ⟨compiled, inclusive, result, made, accepted.mpr (.inr (by decide +kernel)),
    held.mpr (.inr (.inr (by decide +kernel)))⟩

/-- An integer beyond `exactLimit` is moved to a double although the bound is an integer, and any number is
moved to a bound that is no number, which accepts nothing. -/
theorem clamped_apart :
    (upper.check (.float (Double.ofInt 10000000000000000))).convert false
        (.number (.int 20000000000000000)) =
      .ok (.number (.float (Double.ofInt 10000000000000000))) ∧
    (Double.ofInt 10000000000000000).toRat = (10000000000000000 : ℤ) ∧
    (upper.check (.float (Double.nan false))).convert false (.number (.int 1)) =
      .ok (.number (.float (Double.nan false))) ∧
    (upper.check (.float (Double.nan false))).violation? false
      (.number (.float (Double.nan false))) ≠ none := by
  rw [convert_check, convert_check, Ne, violation?_check]
  refine ⟨congrArg (Except.ok ∘ Value.number) ?_, Double.toRat_eq_iff.mpr (by decide +kernel),
    congrArg (Except.ok ∘ Value.number) ?_, by decide +kernel⟩
  · decide +kernel
  · decide +kernel

end Side

end Conformance
