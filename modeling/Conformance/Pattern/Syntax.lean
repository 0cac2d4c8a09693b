import Conformance.Pattern.CharSet
/-!
The syntax trees of patterns, before flags are resolved and named sets are looked up.
-/

namespace Conformance.Pattern

/-- The flags that a pattern may set and clear. -/
inductive Flag where
  | caseless
  | multiLine
  | dotAll
  | swapGreed
  | unicode
  | crlf
  | spaced
  deriving DecidableEq, Repr

/-- The flags that one group sets (`true`) and clears. -/
abbrev FlagChanges := List (Flag × Bool)

/-- A literal character. Two hexadecimal digits may stand for a byte. -/
structure Literal where
  char : Char
  isByte : Bool
  deriving DecidableEq, Repr

/-- The positions that a pattern may require. -/
inductive Anchor where
  | lineStart
  | lineEnd
  | textStart
  | textEnd
  | wordBoundary
  | notWordBoundary
  | wordStart
  | wordEnd
  | wordStartHalf
  | wordEndHalf
  deriving DecidableEq, Repr

/-- The sets with a letter of their own: digits, blanks and the characters of words. -/
inductive LetterSet where
  | digit
  | space
  | word
  deriving DecidableEq, Repr

/-- A set given by a property's name, or by its name and its value. -/
inductive PropertyQuery where
  | name (name : String)
  | nameAndValue (name value : String)
  deriving DecidableEq, Repr

/-- The operations between sets in brackets. -/
inductive SetOperation where
  | inter
  | diff
  | symmDiff
  deriving DecidableEq, Repr

/-- The syntax of a set of characters. -/
inductive SetTree where
  | empty
  | literal (literal : Literal)
  | range (first last : Literal)
  | named (set : CharSet) (negated : Bool)
  | letter (letter : LetterSet) (negated : Bool)
  | property (query : PropertyQuery) (negated : Bool)
  | bracketed (negated : Bool) (inner : SetTree)
  | union (items : List SetTree)
  | operation (operation : SetOperation) (left right : SetTree)

/-- The syntax of a pattern. -/
inductive Tree where
  | empty
  | flags (changes : FlagChanges)
  | literal (literal : Literal)
  | dot
  | anchor (anchor : Anchor)
  | set (set : SetTree)
  | repetition (least : Nat) (most : Option Nat) (inner : Tree)
  | group (changes : FlagChanges) (inner : Tree)
  | alternation (branches : List Tree)
  | concat (parts : List Tree)

namespace SetTree

/-- The items of one bracket as a tree. -/
def ofItems : List SetTree → SetTree
  | [] => .empty
  | [item] => item
  | items => .union items

mutual

/-- How deep brackets, unions and operations nest. -/
def depth : SetTree → Nat
  | .empty | .literal _ | .range _ _ | .named _ _ | .letter _ _ | .property _ _ => 0
  | .bracketed _ inner => 1 + depth inner
  | .union items => 1 + depthOfItems items
  | .operation _ left right => 1 + max (depth left) (depth right)
termination_by structural tree => tree

def depthOfItems : List SetTree → Nat
  | [] => 0
  | item :: items => max (depth item) (depthOfItems items)
termination_by structural items => items

end

end SetTree

namespace Tree

/-- The parts of a sequence as a tree. -/
def ofParts : List Tree → Tree
  | [] => .empty
  | [part] => part
  | parts => .concat parts

/-- The branches of a group as a tree. -/
def ofBranches : List Tree → Tree
  | [] => .empty
  | [branch] => branch
  | branches => .alternation branches

mutual

/-- How deep the composite parts of a pattern nest. -/
def depth : Tree → Nat
  | .empty | .flags _ | .literal _ | .dot | .anchor _ => 0
  | .set chars => chars.depth
  | .repetition _ _ inner => 1 + depth inner
  | .group _ inner => 1 + depth inner
  | .alternation branches => 1 + depthOfParts branches
  | .concat parts => 1 + depthOfParts parts
termination_by structural tree => tree

def depthOfParts : List Tree → Nat
  | [] => 0
  | part :: parts => max (depth part) (depthOfParts parts)
termination_by structural parts => parts

end

end Tree

end Conformance.Pattern
