import Conformance.Text.CycleTable
/-!
The characters that differ from a given one in letter case only.
-/

namespace Conformance.Text

def CycleRun.holds (run : CycleRun) (point : Nat) : Bool :=
  decide (run.first ≤ point ∧ point ≤ run.last ∧ (point - run.first) % run.step = 0)

/-- The next character in the cycle of a character; one without a cycle follows itself. -/
def nextInCycle (point : Nat) : Nat :=
  match cycleRuns.find? (fun run => run.holds point) with
  | some run => ((point : Int) + run.offset).toNat
  | none => point

/-- A character with those that differ from it in letter case only; no cycle is longer than four. -/
def caseVariants (point : Nat) : List Nat :=
  let second := nextInCycle point
  let third := nextInCycle second
  [point, second, third, nextInCycle third]

/-- The same among the letters of ASCII alone. -/
def asciiVariants (point : Nat) : List Nat :=
  if 65 ≤ point ∧ point ≤ 90 then [point, point + 32]
  else if 97 ≤ point ∧ point ≤ 122 then [point, point - 32]
  else [point]

end Conformance.Text
