import Conformance.Text.CaseTable
/-!
Letter case of all characters: which are lowercase and uppercase, and their lower and upper case
forms, which may be several characters.
-/

namespace Conformance.Text

/-- Whether a point lies in a set that begins and ends, in turn, at the given boundaries. -/
def isWithin (bounds : List Nat) (point : Nat) : Bool :=
  (bounds.takeWhile (fun bound => bound ≤ point)).length % 2 == 1

def isLowercase (char : Char) : Bool :=
  if char.toNat < 128 then char.isLower else isWithin lowercaseBounds char.toNat

def isUppercase (char : Char) : Bool :=
  if char.toNat < 128 then char.isUpper else isWithin uppercaseBounds char.toNat

def CaseRun.holds (run : CaseRun) (point : Nat) : Bool :=
  decide (run.first ≤ point ∧ point ≤ run.last ∧ (point - run.first) % run.step = 0)

/-- The other form of a character beyond ASCII. -/
def caseForm (runs : List CaseRun) (sequences : List (Nat × List Nat)) (char : Char) : List Char :=
  match sequences.find? (fun entry => entry.1 == char.toNat) with
  | some (_, points) => points.map Char.ofNat
  | none =>
    match runs.find? (fun run => run.holds char.toNat) with
    | some run => [Char.ofNat ((char.toNat : Int) + run.offset).toNat]
    | none => [char]

/-- The lower case form of a character. -/
def lower (char : Char) : List Char :=
  if char.toNat < 128 then [char.toLower] else caseForm lowerRuns lowerSequences char

/-- The upper case form of a character. -/
def upper (char : Char) : List Char :=
  if char.toNat < 128 then [char.toUpper] else caseForm upperRuns upperSequences char

/-- A text with every character in lower case. -/
def lowerText (text : List Char) : List Char := text.flatMap lower

end Conformance.Text
