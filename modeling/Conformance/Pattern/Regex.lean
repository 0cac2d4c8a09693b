import Conformance.Pattern.NamedSet
import Conformance.Pattern.Syntax
/-!
Patterns with their flags resolved: expressions over sets of characters and positions. Resolving a
syntax tree looks named sets up and refuses patterns that could match inside a character.
-/

namespace Conformance.Pattern

/-- A position that an expression requires. -/
inductive Look where
  | textStart
  | textEnd
  /-- The start of a line; with `crlf`, a return and a line feed end a line together. -/
  | lineStart (crlf : Bool)
  | lineEnd (crlf : Bool)
  /-- An edge of a word over the given characters. -/
  | word (anchor : Anchor) (chars : CharSet)
  deriving DecidableEq, Repr

/-- An expression that matches texts. -/
inductive Regex where
  | empty
  | one (chars : CharSet)
  | look (look : Look)
  | seq (first second : Regex)
  | either (left right : Regex)
  | repetition (least : Nat) (most : Option Nat) (inner : Regex)
  deriving DecidableEq, Repr

/-- The flags that hold at a place of a pattern. -/
structure Flags where
  caseless : Bool
  multiLine : Bool
  dotAll : Bool
  unicode : Bool
  crlf : Bool
  deriving DecidableEq, Repr

namespace Flags

def initial : Flags := ⟨false, false, false, true, false⟩

def set (flags : Flags) (change : Flag × Bool) : Flags :=
  match change with
  | (.caseless, value) => { flags with caseless := value }
  | (.multiLine, value) => { flags with multiLine := value }
  | (.dotAll, value) => { flags with dotAll := value }
  | (.unicode, value) => { flags with unicode := value }
  | (.crlf, value) => { flags with crlf := value }
  | (.swapGreed, _) => flags
  | (.spaced, _) => flags

def setAll (flags : Flags) (changes : FlagChanges) : Flags := changes.foldl set flags

/-- All that a set may hold: characters, or bytes where the pattern is not about characters. -/
def everything (flags : Flags) : CharSet := if flags.unicode then .all else .range 0 255

/-- A set of bytes may hold those bytes alone that are characters. -/
def check (flags : Flags) (chars : CharSet) : Option CharSet :=
  if flags.unicode then some chars
  else if (List.range' 128 128).any chars.holds then none
  else some chars

/-- With the variants in letter case, where case does not matter. -/
def fold (flags : Flags) (chars : CharSet) : CharSet :=
  if flags.caseless then
    if flags.unicode then .caseless chars else .asciiCaseless chars
  else chars

def negate (flags : Flags) (negated : Bool) (chars : CharSet) : CharSet :=
  if negated then .diff flags.everything chars else chars

/-- Adds the variants in letter case, and only then negates. -/
def foldAndNegate (flags : Flags) (negated : Bool) (chars : CharSet) : Option CharSet :=
  flags.check (flags.negate negated (flags.fold chars))

end Flags

namespace LetterSet

def chars (letter : LetterSet) (unicode : Bool) : CharSet :=
  match letter, unicode with
  | .digit, true => .digit
  | .digit, false => .asciiDigit
  | .space, true => .space
  | .space, false => .asciiSpace
  | .word, true => .word
  | .word, false => .asciiWord

end LetterSet

namespace SetTree

/-- The point of a literal in a set; sets of bytes hold no other characters. -/
def pointOf? (flags : Flags) (literal : Literal) : Option Nat :=
  if flags.unicode || literal.isByte || literal.char.toNat < 128 then some literal.char.toNat
  else none

def findProperty? : PropertyQuery → Option CharSet
  | .name name => CharSet.ofName? name
  | .nameAndValue name value => CharSet.ofNameAndValue? name value

mutual

/-- The set that a syntax tree stands for. -/
def resolve? (flags : Flags) : SetTree → Option CharSet
  | .empty => some .none
  | .literal char => (pointOf? flags char).map CharSet.single
  | .range first last =>
    match pointOf? flags first, pointOf? flags last with
    | some first, some last => some (.range first last)
    | _, _ => none
  | .named chars negated => flags.foldAndNegate negated chars
  | .letter kind negated => flags.check (flags.negate negated (kind.chars flags.unicode))
  | .property query negated =>
    if flags.unicode then (findProperty? query).bind (flags.foldAndNegate negated) else none
  | .bracketed negated inner => (resolve? flags inner).bind (flags.foldAndNegate negated)
  | .union items => (resolveItems? flags items).map CharSet.unions
  | .operation kind left right =>
    match resolve? flags left, resolve? flags right with
    | some left, some right =>
      match kind with
      | .inter => some (.inter (flags.fold left) (flags.fold right))
      | .diff => some (.diff (flags.fold left) (flags.fold right))
      | .symmDiff => some (.symmDiff (flags.fold left) (flags.fold right))
    | _, _ => none
termination_by structural tree => tree

def resolveItems? (flags : Flags) : List SetTree → Option (List CharSet)
  | [] => some []
  | item :: items =>
    match resolve? flags item, resolveItems? flags items with
    | some item, some items => some (item :: items)
    | _, _ => none
termination_by structural items => items

end

end SetTree

namespace Flags

/-- The set of a literal outside brackets. -/
def literal? (flags : Flags) (literal : Literal) : Option CharSet :=
  let single := CharSet.single literal.char.toNat
  if !flags.unicode && literal.isByte && 128 ≤ literal.char.toNat then none
  else some (flags.fold single)

/-- The set of the dot. -/
def dot? (flags : Flags) : Option CharSet :=
  if !flags.unicode then none
  else if flags.dotAll then some .all
  else if flags.crlf then some (.diff .all (.ofPoints [10, 13]))
  else some (.diff .all (.single 10))

def wordChars (flags : Flags) : CharSet := LetterSet.word.chars flags.unicode

def look (flags : Flags) : Anchor → Look
  | .lineStart => if flags.multiLine then .lineStart flags.crlf else .textStart
  | .lineEnd => if flags.multiLine then .lineEnd flags.crlf else .textEnd
  | .textStart => .textStart
  | .textEnd => .textEnd
  | edge => .word edge flags.wordChars

end Flags

namespace Regex

/-- A text that matches nothing. -/
def never : Regex := .one .none

end Regex

namespace Tree

mutual

/-- The expression that a syntax tree stands for, and the flags that hold behind it. Changes of
flags hold up to the end of the enclosing group. -/
def resolve? (flags : Flags) : Tree → Option (Regex × Flags)
  | .empty => some (.empty, flags)
  | .flags changes => some (.empty, flags.setAll changes)
  | .literal char => (flags.literal? char).map fun chars => (.one chars, flags)
  | .dot => flags.dot?.map fun chars => (.one chars, flags)
  | .anchor place => some (.look (flags.look place), flags)
  | .set tree => (tree.resolve? flags).map fun chars => (.one chars, flags)
  | .repetition least most inner =>
    (resolve? flags inner).map fun (inner, after) => (.repetition least most inner, after)
  | .group changes inner =>
    (resolve? (flags.setAll changes) inner).map fun (inner, _) => (inner, flags)
  | .alternation branches => resolveBranches? flags branches
  | .concat parts => resolveParts? flags parts
termination_by structural tree => tree

def resolveParts? (flags : Flags) : List Tree → Option (Regex × Flags)
  | [] => some (.empty, flags)
  | part :: parts =>
    match resolve? flags part with
    | none => none
    | some (first, flags) =>
      (resolveParts? flags parts).map fun (second, flags) => (.seq first second, flags)
termination_by structural parts => parts

def resolveBranches? (flags : Flags) : List Tree → Option (Regex × Flags)
  | [] => some (.never, flags)
  | branch :: branches =>
    match resolve? flags branch with
    | none => none
    | some (left, flags) =>
      (resolveBranches? flags branches).map fun (right, flags) => (.either left right, flags)
termination_by structural branches => branches

end

end Tree

end Conformance.Pattern
