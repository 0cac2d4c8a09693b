import Conformance.Pattern.Regex
/-!
Matching. An expression moves a set of positions in a text to the set of positions behind its
matches; a text matches when the positions reached from all of its positions are not empty. Sets
of positions are sorted lists.
-/

namespace Conformance.Pattern

/-- Puts a position in its place in a sorted list, unless it is there. -/
def insertPosition (position : Nat) : List Nat → List Nat
  | [] => [position]
  | other :: others =>
    if position < other then position :: other :: others
    else if position = other then other :: others
    else other :: insertPosition position others

/-- The union of two sorted lists. -/
def mergePositions (left right : List Nat) : List Nat := left.foldr insertPosition right

namespace Look

/-- Whether the character in front of a position is one of the given characters. -/
def precededBy (text : Array Char) (position : Nat) (chars : CharSet) : Bool :=
  0 < position && (text[position - 1]?).any (fun char => chars.holds char.toNat)

/-- Whether the character behind a position is one of the given characters. -/
def followedBy (text : Array Char) (position : Nat) (chars : CharSet) : Bool :=
  (text[position]?).any (fun char => chars.holds char.toNat)

/-- Whether a position is as required. -/
def holds (text : Array Char) (position : Nat) : Look → Bool
  | .textStart => position == 0
  | .textEnd => position == text.size
  | .lineStart crlf =>
    position == 0 || precededBy text position (.single 10) ||
      (crlf && precededBy text position (.single 13) && !followedBy text position (.single 10))
  | .lineEnd crlf =>
    position == text.size ||
      (if crlf then
        followedBy text position (.single 13) ||
          (followedBy text position (.single 10) && !precededBy text position (.single 13))
      else followedBy text position (.single 10))
  | .word edge chars =>
    let before := precededBy text position chars
    let behind := followedBy text position chars
    match edge with
    | .wordBoundary => before != behind
    | .notWordBoundary => before == behind
    | .wordStart => !before && behind
    | .wordEnd => before && !behind
    | .wordStartHalf => !before
    | .wordEndHalf => !behind
    | _ => true

end Look

namespace Regex

/-- Takes a step a number of times. -/
def stepExactly (step : List Nat → List Nat) : Nat → List Nat → List Nat
  | 0, positions => positions
  | count + 1, positions => stepExactly step count (step positions)

/-- Adds the positions that further steps reach, at most `rounds` of them, to those found. -/
def stepUpTo (step : List Nat → List Nat) : Nat → List Nat → List Nat → List Nat
  | 0, found, _ => found
  | rounds + 1, found, latest =>
    let fresh := (step latest).filter (fun position => !found.contains position)
    if fresh.isEmpty then found else stepUpTo step rounds (mergePositions found fresh) fresh

/-- The positions behind the matches that begin at the given positions. Steps beyond the length of
the text reach nothing new. -/
def advance (text : Array Char) : Regex → List Nat → List Nat
  | .empty, positions => positions
  | .one chars, positions =>
    (positions.filter (fun position => Look.followedBy text position chars)).map (· + 1)
  | .look place, positions => positions.filter (fun position => place.holds text position)
  | .seq first second, positions => second.advance text (first.advance text positions)
  | .either left right, positions =>
    mergePositions (left.advance text positions) (right.advance text positions)
  | .repetition least most inner, positions =>
    let step := inner.advance text
    let required := stepExactly step (min least (text.size + 2)) positions
    let rounds := match most with
      | none => text.size + 1
      | some most => min (most - least) (text.size + 1)
    stepUpTo step rounds required required

/-- Whether some part of a text matches. -/
def matchesWithin (regex : Regex) (text : String) : Bool :=
  let chars := text.toList.toArray
  !(regex.advance chars (List.range (chars.size + 1))).isEmpty

end Regex

end Conformance.Pattern
