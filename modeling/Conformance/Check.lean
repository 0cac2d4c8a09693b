import Conformance.Coercion
import Conformance.Format
/-!
Checks: the rules that look at an instance alone and delegate nothing. In validation a check finds
the cause for which an instance is refused, or none. In conversion some checks repair an instance
that they would refuse, two of them replace it, and the others refuse it for the same cause.
-/

namespace Conformance

/-- A rule without sub-schemas. -/
inductive Check where
  | ofKinds (kinds : KindSet)
  | among (choices : List Value)
  | constant (expected : Value)
  | multipleOf (divisor : Number)
  | maximum (bound : Number)
  | minimum (bound : Number)
  | below (bound : Number)
  | above (bound : Number)
  | maxLength (limit : Nat)
  | minLength (limit : Nat)
  | pattern (shape : Pattern)
  | format (name : String) (grammar : Format)
  | maxSize (limit : Nat)
  | minSize (limit : Nat)
  | uniqueItems
  /-- The names are sorted. -/
  | required (names : List String)
  | even
  /-- Refuses every instance with a report of what was in sight. -/
  | probe (constraint : String) (strict : Bool) (declared : Option KindSet) (sibling : String)
      (found : Option Value)

namespace Check

/-- A whole double counts as an integer. -/
def isWholeFloat (kinds : KindSet) : Value → Bool
  | .number (.float value) =>
    kinds.contains .integer && (Number.float value).integer?.isSome
  | _ => false

/-- The cause for which a number is refused by a test of numbers. -/
def onNumber (subject : Value) (holds : Number → Bool) (cause : Cause) : Option Cause :=
  match subject with
  | .number number => if holds number then none else some cause
  | other => some (.unexpectedKind .number other.kind)

/-- The cause for which a string is refused by a test of strings. -/
def onString (subject : Value) (holds : String → Bool) (cause : String → Cause) : Option Cause :=
  match subject with
  | .string text => if holds text then none else some (cause text)
  | other => some (.unexpectedKind .string other.kind)

/-- The size of an array or an object, and what it counts. -/
def size? : Value → Option (Nat × String)
  | .array items => some (items.length, "items")
  | .object entries => some (entries.length, "entries")
  | _ => none

/-- The cause for which a collection is refused by a test of sizes. -/
def onSize (subject : Value) (holds : Nat → Bool) (cause : String → Cause) : Option Cause :=
  match size? subject with
  | some (size, noun) => if holds size then none else some (cause noun)
  | none => some (.unexpectedKind .collection subject.kind)

/-- The items without those that equal an earlier one. -/
def distinct (items : List Value) : List Value :=
  items.foldl (fun kept item => if kept.any (· == item) then kept else kept ++ [item]) []

/-- The required names that an object lacks. -/
def missing (entries : List (String × Value)) (names : List String) : List String :=
  names.filter (fun name => !Table.has entries name)

def two : Number := .int 2

/-- The cause for which a check refuses an instance. A partial instance need not have the required
entries. -/
def violation? (isPartial : Bool) (subject : Value) : Check → Option Cause
  | .ofKinds kinds =>
    if kinds.contains subject.kind || isWholeFloat kinds subject then none
    else some (.wrongType kinds subject.kind)
  | .among choices =>
    if choices.any (· == subject) then none else some (.notAmong subject choices)
  | .constant expected => if subject == expected then none else some (.notConstant expected)
  | .multipleOf divisor => onNumber subject (·.isMultipleOf divisor) (.notMultiple divisor)
  | .maximum bound => onNumber subject (·.isAtMost bound) (.aboveMaximum bound)
  | .minimum bound => onNumber subject (bound.isAtMost ·) (.belowMinimum bound)
  | .below bound => onNumber subject (·.isBelow bound) (.notBelow bound)
  | .above bound => onNumber subject (bound.isBelow ·) (.notAbove bound)
  | .maxLength limit => onString subject (·.length ≤ limit) (fun _ => .tooLong limit)
  | .minLength limit => onString subject (limit ≤ ·.length) (fun _ => .tooShort limit)
  | .pattern shape => onString subject shape.isMatch (fun _ => .patternUnmatched shape.source)
  | .format name grammar => onString subject grammar.accepts (.formatUnmatched · name)
  | .maxSize limit => onSize subject (· ≤ limit) (.tooMany limit)
  | .minSize limit => onSize subject (limit ≤ ·) (.tooFew limit)
  | .uniqueItems =>
    match subject with
    | .array items =>
      if (distinct items).length = items.length then none else some .repeatedItems
    | other => some (.unexpectedKind .array other.kind)
  | .required names =>
    if isPartial then none
    else match subject with
      | .object entries =>
        let absent := missing entries names
        if absent.isEmpty then none else some (.missingEntries absent)
      | other => some (.unexpectedKind .object other.kind)
  | .even =>
    match subject with
    | .number number => if number.isMultipleOf two then none else some .notEven
    | _ => some .notEven
  | .probe constraint strict declared sibling found =>
    some (.probed constraint strict declared sibling found)

/-- The bound that a number beyond it is moved to. Integers move to the nearest integer inside
the bound, if there is one. -/
def clamp (number inner bound : Number) : Number :=
  match number, inner with
  | .int _, .int value => .int value
  | .int _, _ => bound
  | .float _, _ => .float bound.toDouble

/-- What a refused instance is repaired to. -/
def repair? (subject : Value) : Check → Option Value
  | .maximum bound =>
    match subject with
    | .number number => some (.number (clamp number bound.floor bound))
    | _ => none
  | .minimum bound =>
    match subject with
    | .number number => some (.number (clamp number bound.ceiling bound))
    | _ => none
  | .maxLength limit =>
    match subject with
    | .string text => some (.string (String.ofList (text.toList.take limit)))
    | _ => none
  | .maxSize limit =>
    match subject with
    | .array items => some (.array (items.take limit))
    | _ => none
  | .uniqueItems =>
    match subject with
    | .array items => some (.array (distinct items))
    | _ => none
  | _ => none

/-- What conversion makes of an instance. -/
def convert (isPartial : Bool) (subject : Value) : Check → Except Cause Value
  | .ofKinds kinds => subject.coerce kinds
  | .constant expected => .ok expected
  | check =>
    match check.violation? isPartial subject with
    | none => .ok subject
    | some cause =>
      match check.repair? subject with
      | some repaired => .ok repaired
      | none => .error cause

end Check

end Conformance
