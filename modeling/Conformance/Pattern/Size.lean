import Conformance.Pattern.Regex
/-!
The size of patterns: an estimate of the octets that an automaton for an expression takes up when
counted repetitions are written out. A pattern beyond `sizeLimit` is refused.
-/

namespace Conformance.Pattern

/-- The octets that a state takes up. -/
def stateSize : Nat := 32

/-- The octets that a range of characters beyond ASCII takes up, all its states together. -/
def rangeSize : Nat := 64

/-- How many ranges a set is taken to have at most. -/
def rangeCap : Nat := 800

/-- How many octets an automaton may take up. -/
def sizeLimit : Nat := 10 * Nat.pow 2 20

namespace CharSet

/-- How many ranges a set may have. -/
def rangeCount : CharSet → Nat
  | .none => 0
  | .range _ _ => 1
  | .bounds table => table.length / 2
  | .categories places => categoryRuns.countP fun run => places.contains (run % 32)
  | .script place => scriptRuns.countP fun run => run % 256 == place
  | .since place => versionRuns.countP fun run => decide (run % 32 ≤ place)
  | .union left right => left.rangeCount + right.rangeCount
  | .inter left right => left.rangeCount + right.rangeCount
  | .diff left right => left.rangeCount + right.rangeCount
  | .symmDiff left right => left.rangeCount + right.rangeCount
  | .complement set => set.rangeCount + 1
  | .caseless set => 2 * set.rangeCount
  | .asciiCaseless set => 2 * set.rangeCount

/-- The octets that a set takes up: one state for a character of ASCII, and for other sets a state
and its ranges. -/
def size (chars : CharSet) : Nat :=
  match chars with
  | .range first last =>
    if last < 128 then stateSize
    else if first = last then stateSize * (Char.ofNat first).utf8Size
    else stateSize + rangeSize
  | chars => stateSize + rangeSize * min chars.rangeCount rangeCap

end CharSet

namespace Regex

/-- The octets that an expression takes up. -/
def size : Regex → Nat
  | .empty => 0
  | .one chars => chars.size
  | .look _ => stateSize
  | .seq first second => first.size + second.size
  | .either left right => stateSize + left.size + right.size
  | .repetition least most inner =>
    match most with
    | none => stateSize + inner.size * max least 1
    | some most => inner.size * least + (stateSize + inner.size) * (most - least)

end Regex

end Conformance.Pattern
