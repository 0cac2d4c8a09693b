import Conformance.Json.Token
import Conformance.Pattern.Syntax
import Conformance.Text.Alphabet
import Conformance.Text.Blank
/-!
Reading patterns. Every function takes the rest of the text and gives what it read and what is
left, or nothing where the text is not a pattern. Loops are bounded by the length of the text, of
which each round takes a character.
-/

namespace Conformance.Pattern

/-- Skips blanks and comments. A comment reaches from a number sign to the end of its line. -/
def skipComments (inComment : Bool) : List Char → List Char
  | [] => []
  | char :: rest =>
    if inComment then skipComments (char != '\n') rest
    else if Text.isBlank char then skipComments false rest
    else if char = '#' then skipComments true rest
    else char :: rest

/-- Skips blanks and comments where the pattern may hold them. -/
def skip (spaced : Bool) (text : List Char) : List Char :=
  if spaced then skipComments false text else text

/-- The characters that have a meaning of their own somewhere in a pattern. -/
def isMeta (char : Char) : Bool := "\\.+*?()|[]\x7b\x7d^$#&-~".toList.contains char

/-- The characters that may stand behind a backslash for themselves. -/
def isEscapable (char : Char) : Bool :=
  isMeta char || (char.toNat < 128 && !char.isAlphanum && char != '<' && char != '>')

/-- The character with a given number, if there is one. -/
def charOf? (point : Nat) : Option Char :=
  if point < 0xD800 ∨ (0xDFFF < point ∧ point < 0x110000) then some (Char.ofNat point) else none

/-! ### Escapes -/

/-- Reads a fixed count of hexadecimal digits. -/
def readHexDigits (spaced : Bool) : Nat → Nat → List Char → Option (Nat × List Char)
  | 0, value, text => some (value, text)
  | count + 1, value, text =>
    match text with
    | [] => none
    | char :: rest =>
      match Json.hexValue? char with
      | none => none
      | some digit => readHexDigits spaced count (value * 16 + digit) (skip spaced rest)

/-- Reads hexadecimal digits up to a closing brace. -/
def readHexBraces (spaced : Bool) : Nat → Option Nat → List Char → Option (Nat × List Char)
  | 0, _, _ => none
  | _, _, [] => none
  | bound + 1, read, char :: rest =>
    if char = '}' then read.map (fun value => (value, skip spaced rest))
    else match Json.hexValue? char with
      | none => none
      | some digit =>
        readHexBraces spaced bound (some (read.getD 0 * 16 + digit)) (skip spaced rest)

/-- Reads the digits of a hexadecimal escape; `count` of them if they stand without braces. -/
def readHexEscape (spaced : Bool) (count : Nat) (text : List Char) : Option (Literal × List Char) :=
  match skip spaced text with
  | [] => none
  | '{' :: rest => do
    let (value, rest) ← readHexBraces spaced (rest.length + 1) none (skip spaced rest)
    let char ← charOf? value
    pure (⟨char, false⟩, rest)
  | text => do
    let (value, rest) ← readHexDigits spaced count 0 text
    let char ← charOf? value
    pure (⟨char, count == 2⟩, rest)

/-- Reads a property's name up to a closing brace. -/
def readBracedName (spaced : Bool) : Nat → List Char → List Char → Option ((List Char) × List Char)
  | 0, _, _ => none
  | _, _, [] => none
  | bound + 1, read, char :: rest =>
    if char = '}' then some (read.reverse, rest)
    else readBracedName spaced bound (char :: read) (skip spaced rest)

/-- Cuts a text at the first occurrence of a mark. -/
def cutAt? (mark : List Char) : List Char → Option (List Char × List Char)
  | [] => none
  | char :: rest =>
    if mark.isPrefixOf (char :: rest) then some ([], (char :: rest).drop mark.length)
    else (cutAt? mark rest).map fun (before, behind) => (char :: before, behind)

/-- The query that the inside of braces states, and whether it is negated. -/
def queryOf (inside : List Char) : PropertyQuery × Bool :=
  match cutAt? ['!', '='] inside with
  | some (name, value) => (.nameAndValue (String.ofList name) (String.ofList value), true)
  | none =>
    match (cutAt? [':'] inside).orElse fun _ => cutAt? ['='] inside with
    | some (name, value) => (.nameAndValue (String.ofList name) (String.ofList value), false)
    | none => (.name (String.ofList inside), false)

/-- Reads what follows the letter of a property escape. -/
def readProperty (spaced negated : Bool) (text : List Char) : Option (SetTree × List Char) :=
  match skip spaced text with
  | [] => none
  | '{' :: rest => do
    let (inside, rest) ← readBracedName spaced (rest.length + 1) [] (skip spaced rest)
    let (query, flipped) := queryOf inside
    pure (.property query (negated != flipped), rest)
  | char :: rest =>
    if char = '\\' then none
    else some (.property (.name (String.singleton char)) negated, skip spaced rest)

/-- A primitive: a literal, a dot, an anchor or a set with a letter of its own. -/
inductive Primitive where
  | literal (literal : Literal)
  | dot
  | anchor (anchor : Anchor)
  | set (set : SetTree)

/-- Reads the name of a kind of word boundary: letters and hyphens. -/
def readBoundaryName (spaced : Bool) : Nat → List Char → List Char → List Char × List Char
  | 0, read, text => (read.reverse, text)
  | _, read, [] => (read.reverse, [])
  | bound + 1, read, char :: rest =>
    if char.isAlpha || char == '-' then
      readBoundaryName spaced bound (char :: read) (skip spaced rest)
    else (read.reverse, char :: rest)

/-- Reads what may follow the escape of a word boundary. Braces that do not begin with a letter or
a hyphen are left for a repetition. -/
def readBoundary (spaced : Bool) (text : List Char) : Option (Primitive × List Char) :=
  match text with
  | '{' :: rest =>
    match skip spaced rest with
    | [] => none
    | first :: more =>
      if first.isAlpha || first == '-' then
        match readBoundaryName spaced (more.length + 1) [] (first :: more) with
        | (name, '}' :: rest) =>
          if name = "start".toList then some (.anchor .wordStart, rest)
          else if name = "end".toList then some (.anchor .wordEnd, rest)
          else if name = "start-half".toList then some (.anchor .wordStartHalf, rest)
          else if name = "end-half".toList then some (.anchor .wordEndHalf, rest)
          else none
        | _ => none
      else some (.anchor .wordBoundary, text)
  | text => some (.anchor .wordBoundary, text)

/-- Reads what follows a backslash. -/
def readEscape (spaced : Bool) : List Char → Option (Primitive × List Char)
  | [] => none
  | 'x' :: rest => (readHexEscape spaced 2 rest).map fun (read, rest) => (.literal read, rest)
  | 'u' :: rest => (readHexEscape spaced 4 rest).map fun (read, rest) => (.literal read, rest)
  | 'U' :: rest => (readHexEscape spaced 8 rest).map fun (read, rest) => (.literal read, rest)
  | 'p' :: rest => (readProperty spaced false rest).map fun (read, rest) => (.set read, rest)
  | 'P' :: rest => (readProperty spaced true rest).map fun (read, rest) => (.set read, rest)
  | 'd' :: rest => some (.set (.letter .digit false), rest)
  | 's' :: rest => some (.set (.letter .space false), rest)
  | 'w' :: rest => some (.set (.letter .word false), rest)
  | 'D' :: rest => some (.set (.letter .digit true), rest)
  | 'S' :: rest => some (.set (.letter .space true), rest)
  | 'W' :: rest => some (.set (.letter .word true), rest)
  | 'a' :: rest => some (.literal ⟨'\x07', false⟩, rest)
  | 'f' :: rest => some (.literal ⟨'\x0c', false⟩, rest)
  | 't' :: rest => some (.literal ⟨'\t', false⟩, rest)
  | 'n' :: rest => some (.literal ⟨'\n', false⟩, rest)
  | 'r' :: rest => some (.literal ⟨'\r', false⟩, rest)
  | 'v' :: rest => some (.literal ⟨'\x0b', false⟩, rest)
  | 'A' :: rest => some (.anchor .textStart, rest)
  | 'z' :: rest => some (.anchor .textEnd, rest)
  | 'b' :: rest => readBoundary spaced rest
  | 'B' :: rest => some (.anchor .notWordBoundary, rest)
  | '<' :: rest => some (.anchor .wordStart, rest)
  | '>' :: rest => some (.anchor .wordEnd, rest)
  | char :: rest => if isEscapable char then some (.literal ⟨char, false⟩, rest) else none

/-! ### Sets in brackets -/

/-- Reads an item of a bracket. -/
def readSetItem (spaced : Bool) : List Char → Option (Primitive × List Char)
  | [] => none
  | '\\' :: rest => readEscape spaced rest
  | char :: rest => some (.literal ⟨char, false⟩, rest)

/-- What may stand alone in a bracket: literals and sets. -/
def Primitive.toSet? : Primitive → Option SetTree
  | .literal char => some (.literal char)
  | .set chars => some chars
  | .dot => none
  | .anchor _ => none

def Primitive.toLiteral? : Primitive → Option Literal
  | .literal char => some char
  | _ => none

/-- Reads an item of a bracket or a range between two literals. A hyphen in front of the closing
bracket or of another hyphen makes no range. -/
def readSetRange (spaced : Bool) (text : List Char) : Option (SetTree × List Char) := do
  let (first, rest) ← readSetItem spaced text
  match skip spaced rest with
  | [] => none
  | '-' :: rest =>
    match skip spaced rest with
    | [] => none
    | next :: more =>
      if next = ']' ∨ next = '-' then
        let set ← first.toSet?
        pure (set, '-' :: rest)
      else
        let (second, rest) ← readSetItem spaced (next :: more)
        let first ← first.toLiteral?
        let second ← second.toLiteral?
        if second.char < first.char then none else pure (.range first second, rest)
  | rest =>
    let set ← first.toSet?
    pure (set, rest)

/-- Reads a named set such as `[:alpha:]`, of which the opening bracket is read already. -/
def readNamedSet? (text : List Char) : Option (SetTree × List Char) :=
  match text with
  | ':' :: rest =>
    let (negated, rest) := match rest with
      | '^' :: rest => (true, rest)
      | rest => (false, rest)
    let name := rest.takeWhile (· != ':')
    match rest.dropWhile (· != ':') with
    | ':' :: ']' :: rest =>
      (CharSet.ofAsciiName? (String.ofList name)).map fun set => (.named set negated, rest)
    | _ => none
  | _ => none

/-- Reads what may open a bracket: a circumflex, hyphens, and a closing bracket that stands for
itself. Gives whether the set is negated and the first items, the last one first. -/
def readSetOpening (spaced : Bool) (text : List Char) :
    Option ((Bool × List SetTree) × List Char) :=
  let text := skip spaced text
  let (negated, text) := match text with
    | '^' :: rest => (true, skip spaced rest)
    | text => (false, text)
  let rec hyphens : Nat → List SetTree → List Char → List SetTree × List Char
    | 0, items, text => (items, text)
    | bound + 1, items, '-' :: rest =>
      hyphens bound (.literal ⟨'-', false⟩ :: items) (skip spaced rest)
    | _, items, text => (items, text)
  let (items, text) := hyphens text.length [] text
  match items, text with
  | _, [] => none
  | [], ']' :: rest => some ((negated, [.literal ⟨']', false⟩]), skip spaced rest)
  | items, text => some ((negated, items), text)

/-- What stands to the left of the operation that is being read. -/
abbrev PendingOperation := Option (SetOperation × SetTree)

/-- Completes a pending operation with its right side. -/
def completeOperation (pending : PendingOperation) (items : List SetTree) : SetTree :=
  let right := SetTree.ofItems items.reverse
  match pending with
  | none => right
  | some (operation, left) => .operation operation left right

/-- Reads the inside of a bracket up to its end. The items read so far are given in reverse. -/
def readSetBody (spaced : Bool) :
    Nat → PendingOperation → List SetTree → List Char → Option (SetTree × List Char)
  | 0, _, _, _ => none
  | bound + 1, pending, items, text =>
    match skip spaced text with
    | [] => none
    | ']' :: rest => some (completeOperation pending items, rest)
    | '[' :: rest =>
      match readNamedSet? rest with
      | some (set, rest) => readSetBody spaced bound pending (set :: items) rest
      | none => do
        let ((negated, first), rest) ← readSetOpening spaced rest
        let (inner, rest) ← readSetBody spaced bound none first rest
        readSetBody spaced bound pending (.bracketed negated inner :: items) rest
    | '&' :: '&' :: rest =>
      readSetBody spaced bound (some (.inter, completeOperation pending items)) [] rest
    | '-' :: '-' :: rest =>
      readSetBody spaced bound (some (.diff, completeOperation pending items)) [] rest
    | '~' :: '~' :: rest =>
      readSetBody spaced bound (some (.symmDiff, completeOperation pending items)) [] rest
    | text => do
      let (item, rest) ← readSetRange spaced text
      readSetBody spaced bound pending (item :: items) rest

/-- Reads a set in brackets, of which the opening bracket is read already. -/
def readSet (spaced : Bool) (text : List Char) : Option (SetTree × List Char) := do
  let ((negated, first), rest) ← readSetOpening spaced text
  let (inner, rest) ← readSetBody spaced (rest.length + 1) none first rest
  pure (.bracketed negated inner, rest)

/-! ### Repetitions -/

def dropBlanks (text : List Char) : List Char := text.dropWhile Text.isBlank

/-- Reads decimal digits, blanks around them aside. -/
def readCount (spaced : Bool) (text : List Char) : Option ((Option Nat) × List Char) :=
  let rec digits : Nat → List Char → List Char → List Char × List Char
    | 0, read, text => (read.reverse, text)
    | bound + 1, read, char :: rest =>
      if char.isDigit then digits bound (char :: read) (skip spaced rest)
      else (read.reverse, char :: rest)
    | _, read, [] => (read.reverse, [])
  let (read, rest) := digits text.length [] (dropBlanks text)
  let rest := skip spaced (dropBlanks rest)
  let value := digitsValue read
  if read.isEmpty then some (none, rest)
  else if value < UInt32.size then some (some value, rest)
  else none

/-- A question mark behind a repetition changes which match is preferred, and nothing else. -/
def dropLaziness : List Char → List Char
  | '?' :: rest => rest
  | text => text

/-- Reads the inside of a counted repetition. -/
def readCounts (spaced : Bool) (text : List Char) : Option ((Nat × Option Nat) × List Char) := do
  let text := skip spaced text
  if text.isEmpty then none
  else
    let (least, rest) ← readCount spaced text
    let (counts, rest) ← (match rest with
      | ',' :: rest =>
        match skip spaced rest with
        | [] => none
        | '}' :: rest => least.map fun least => ((least, none), '}' :: rest)
        | rest => do
          let least ← least
          let (most, rest) ← readCount spaced rest
          let most ← most
          pure ((least, some most), rest)
      | rest => least.map fun least => ((least, some least), rest) :
        Option ((Nat × Option Nat) × List Char))
    match rest with
    | '}' :: rest =>
      if counts.2.any (· < counts.1) then none
      else pure (counts, dropLaziness (skip spaced rest))
    | _ => none

/-- Repeats the last part read; what matches without a character of its own cannot be repeated. -/
def repeatLast? (least : Nat) (most : Option Nat) : List Tree → Option (List Tree)
  | [] => none
  | .empty :: _ => none
  | .flags _ :: _ => none
  | last :: parts => some (.repetition least most last :: parts)

/-! ### Groups -/

def flagOf? (char : Char) : Option Flag :=
  match char with
  | 'i' => some .caseless
  | 'm' => some .multiLine
  | 's' => some .dotAll
  | 'U' => some .swapGreed
  | 'u' => some .unicode
  | 'R' => some .crlf
  | 'x' => some .spaced
  | _ => none

/-- Reads flags up to a colon or a closing parenthesis, which is left. No flag occurs twice, and a
hyphen, of which there is one at most, stands in front of flags. -/
def readFlags :
    FlagChanges → (value afterHyphen : Bool) → List Char → Option (FlagChanges × List Char)
  | _, _, _, [] => none
  | changes, value, afterHyphen, char :: rest =>
    if char = ':' ∨ char = ')' then
      if afterHyphen then none else some (changes.reverse, char :: rest)
    else if char = '-' then
      if value then readFlags changes false true rest else none
    else match flagOf? char with
      | none => none
      | some flag =>
        if changes.any (fun change => change.1 == flag) then none
        else readFlags ((flag, value) :: changes) value false rest

/-- Whether a character may stand in a group's name. -/
def isNameChar (first : Bool) (char : Char) : Bool :=
  char == '_' || Text.isAlphabetic char ||
    (!first && (char == '.' || char == '[' || char == ']' || Text.isNumeric char))

/-- Reads a group's name up to the closing angle bracket. -/
def readGroupName : List Char → List Char → Option ((List Char) × List Char)
  | _, [] => none
  | read, char :: rest =>
    if char = '>' then if read.isEmpty then none else some (read.reverse, rest)
    else if isNameChar read.isEmpty char then readGroupName (char :: read) rest
    else none

/-- What opens a group: flags for the rest of the enclosing group, or a group with flags of its
own and perhaps a name. -/
inductive Opening where
  | flags (changes : FlagChanges)
  | group (changes : FlagChanges)
  | named (name : List Char)

/-- Reads what follows an opening parenthesis. -/
def readOpening (spaced : Bool) (text : List Char) : Option (Opening × List Char) :=
  match skip spaced text with
  | '?' :: '=' :: _ => none
  | '?' :: '!' :: _ => none
  | '?' :: '<' :: '=' :: _ => none
  | '?' :: '<' :: '!' :: _ => none
  | '?' :: 'P' :: '<' :: rest =>
    (readGroupName [] rest).map fun (name, rest) => (.named name, rest)
  | '?' :: '<' :: rest => (readGroupName [] rest).map fun (name, rest) => (.named name, rest)
  | '?' :: rest =>
    match readFlags [] true false rest with
    | some (changes, ':' :: rest) => some (.group changes, rest)
    | some (changes, ')' :: rest) => if changes.isEmpty then none else some (.flags changes, rest)
    | _ => none
  | rest => some (.group [], rest)

/-- Whether blanks and comments are skipped after a change of flags. -/
def spacedAfter (spaced : Bool) (changes : FlagChanges) : Bool :=
  match changes.find? (fun change => change.1 == .spaced) with
  | some change => change.2
  | none => spaced

/-! ### Patterns -/

/-- What the reading of a sequence carries along: whether blanks are skipped, and the names of the
groups so far. -/
structure Mode where
  spaced : Bool
  names : List (List Char)

/-- Reads a primitive outside brackets. -/
def readPrimitive (spaced : Bool) : List Char → Option (Tree × List Char)
  | [] => none
  | '\\' :: rest =>
    (readEscape spaced rest).map fun (read, rest) =>
      (match read with
        | .literal char => .literal char
        | .dot => .dot
        | .anchor place => .anchor place
        | .set chars => .set chars, rest)
  | '.' :: rest => some (.dot, rest)
  | '^' :: rest => some (.anchor .lineStart, rest)
  | '$' :: rest => some (.anchor .lineEnd, rest)
  | char :: rest => some (.literal ⟨char, false⟩, rest)

/-- Reads alternatives up to a closing parenthesis, which is left, or the end of the text. The
parts of the last alternative and the alternatives before it are given in reverse. -/
def readBody : Nat → Mode → List Tree → List Tree → List Char → Option ((Tree × Mode) × List Char)
  | 0, _, _, _, _ => none
  | bound + 1, mode, parts, branches, text =>
    let finished := Tree.ofBranches ((Tree.ofParts parts.reverse :: branches).reverse)
    match skip mode.spaced text with
    | [] => some ((finished, mode), [])
    | ')' :: rest => some ((finished, mode), ')' :: rest)
    | '|' :: rest => readBody bound mode [] (Tree.ofParts parts.reverse :: branches) rest
    | '(' :: rest =>
      match readOpening mode.spaced rest with
      | none => none
      | some (.flags changes, rest) =>
        readBody bound { mode with spaced := spacedAfter mode.spaced changes }
          (.flags changes :: parts) branches rest
      | some (.group changes, rest) => do
        let ((inner, after), rest) ← readBody bound
          { mode with spaced := spacedAfter mode.spaced changes } [] [] rest
        match rest with
        | ')' :: rest =>
          readBody bound { after with spaced := mode.spaced } (.group changes inner :: parts)
            branches rest
        | _ => none
      | some (.named name, rest) =>
        if mode.names.contains name then none
        else do
          let ((inner, after), rest) ← readBody bound
            { mode with names := name :: mode.names } [] [] rest
          match rest with
          | ')' :: rest =>
            readBody bound { after with spaced := mode.spaced } (.group [] inner :: parts)
              branches rest
          | _ => none
    | '[' :: rest => do
      let (set, rest) ← readSet mode.spaced rest
      readBody bound mode (.set set :: parts) branches rest
    | '?' :: rest => do
      let parts ← repeatLast? 0 (some 1) parts
      readBody bound mode parts branches (dropLaziness rest)
    | '*' :: rest => do
      let parts ← repeatLast? 0 none parts
      readBody bound mode parts branches (dropLaziness rest)
    | '+' :: rest => do
      let parts ← repeatLast? 1 none parts
      readBody bound mode parts branches (dropLaziness rest)
    | '{' :: rest => do
      let ((least, most), rest) ← readCounts mode.spaced rest
      let parts ← repeatLast? least most parts
      readBody bound mode parts branches rest
    | text => do
      let (part, rest) ← readPrimitive mode.spaced text
      readBody bound mode (part :: parts) branches rest

/-- How deep the parts of a pattern nest at most. -/
def nestingLimit : Nat := 250

/-- Reads a whole pattern. -/
def Tree.ofText? (text : List Char) : Option Tree :=
  match readBody (text.length + 1) ⟨false, []⟩ [] [] text with
  | some ((tree, _), []) => if tree.depth ≤ nestingLimit then some tree else none
  | _ => none

end Conformance.Pattern
