import Conformance.Pattern.CategoryTable
import Conformance.Pattern.ScriptTable
import Conformance.Pattern.VersionTable
import Conformance.Text.CaseCycle
import Conformance.Text.LetterCase
/-!
Sets of characters, as expressions over ranges, tables of properties and the operations on sets,
with their membership test and the sets of ASCII.
-/

namespace Conformance.Pattern

/-- A set of characters. -/
inductive CharSet where
  | none
  | range (first last : Nat)
  /-- The points between the boundaries, which begin and end the set in turn. -/
  | bounds (table : List Nat)
  /-- The characters of the general categories at some places of the category table. -/
  | categories (places : List Nat)
  /-- The characters of the script at a place of the script table. -/
  | script (place : Nat)
  /-- The characters that have been there since the version at a place of the version table. -/
  | since (place : Nat)
  | union (left right : CharSet)
  | inter (left right : CharSet)
  | diff (left right : CharSet)
  | symmDiff (left right : CharSet)
  | complement (set : CharSet)
  /-- With all characters that differ in letter case only. -/
  | caseless (set : CharSet)
  /-- With all characters of ASCII that differ in letter case only. -/
  | asciiCaseless (set : CharSet)
  deriving DecidableEq, Repr

/-- The place that a table of runs gives to a point. -/
def placeInRuns (runs : List Nat) (size point : Nat) : Nat :=
  ((runs.takeWhile (fun run => run / size ≤ point)).getLast?.getD 0) % size

namespace CharSet

/-- Whether a point is in a set. -/
def holds : CharSet → Nat → Bool
  | .none, _ => false
  | .range first last, point => decide (first ≤ point ∧ point ≤ last)
  | .bounds table, point => Text.isWithin table point
  | .categories places, point => places.contains (placeInRuns categoryRuns 32 point)
  | .script place, point => placeInRuns scriptRuns 256 point == place
  | .since place, point => decide (placeInRuns versionRuns 32 point ≤ place)
  | .union left right, point => left.holds point || right.holds point
  | .inter left right, point => left.holds point && right.holds point
  | .diff left right, point => left.holds point && !right.holds point
  | .symmDiff left right, point => left.holds point != right.holds point
  | .complement set, point => !set.holds point
  | .caseless set, point => (Text.caseVariants point).any set.holds
  | .asciiCaseless set, point => (Text.asciiVariants point).any set.holds

/-- The set of one character. -/
def single (point : Nat) : CharSet := .range point point

def all : CharSet := .range 0 0x10FFFF

def ascii : CharSet := .range 0 0x7F

def unions (sets : List CharSet) : CharSet := sets.foldr .union .none

/-- The set of a few characters. -/
def ofPoints (points : List Nat) : CharSet := unions (points.map single)

def asciiDigit : CharSet := .range 48 57

def asciiUpper : CharSet := .range 65 90

def asciiLower : CharSet := .range 97 122

def asciiAlpha : CharSet := .union asciiUpper asciiLower

def asciiAlnum : CharSet := .union asciiAlpha asciiDigit

def asciiWord : CharSet := .union asciiAlnum (single 95)

/-- The blanks of ASCII in patterns: tab, line feed, vertical tab, form feed, return and space. -/
def asciiSpace : CharSet := .union (.range 9 13) (single 32)

/-- The set that a bracket such as `[:alpha:]` names. -/
def ofAsciiName? (name : String) : Option CharSet :=
  match name with
  | "alnum" => some asciiAlnum
  | "alpha" => some asciiAlpha
  | "ascii" => some ascii
  | "blank" => some (ofPoints [9, 32])
  | "cntrl" => some (.union (.range 0 31) (single 127))
  | "digit" => some asciiDigit
  | "graph" => some (.range 33 126)
  | "lower" => some asciiLower
  | "print" => some (.range 32 126)
  | "punct" => some (unions [.range 33 47, .range 58 64, .range 91 96, .range 123 126])
  | "space" => some asciiSpace
  | "upper" => some asciiUpper
  | "word" => some asciiWord
  | "xdigit" => some (unions [asciiDigit, .range 65 70, .range 97 102])
  | _ => Option.none

end CharSet

end Conformance.Pattern
