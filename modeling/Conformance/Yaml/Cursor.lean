/-!
The characters of YAML documents, and cursors into a document, which know the line and the column of
what they stand in front of.
-/

namespace Conformance.Yaml

/-- The line breaks that stay in a text; every other break becomes a line feed first. -/
def isBreak (char : Char) : Bool :=
  char == '\n' || char == '\u2028' || char == '\u2029'

def isBlank (char : Char) : Bool := char == ' ' || char == '\t'

/-- The characters that a document may hold. -/
def isAllowed (char : Char) : Bool :=
  let point := char.toNat
  decide (point = 9 ∨ point = 10 ∨ point = 13 ∨ (0x20 ≤ point ∧ point ≤ 0x7E) ∨ point = 0x85 ∨
    (0xA0 ≤ point ∧ point ≤ 0xFFFD ∧ point ≠ 0xFEFF) ∨ 0x10000 ≤ point)

/-- Makes a line feed of every carriage return, with or without a line feed behind it, and of the
next-line character. -/
def normalBreaks : List Char → List Char
  | '\r' :: '\n' :: rest => '\n' :: normalBreaks rest
  | '\r' :: rest => '\n' :: normalBreaks rest
  | '\x85' :: rest => '\n' :: normalBreaks rest
  | char :: rest => char :: normalBreaks rest
  | [] => []

/-- Whether a text goes on with a blank or a break, or ends. -/
def atGap : List Char → Bool
  | [] => true
  | char :: _ => isBlank char || isBreak char

/-- A place in a document. -/
structure Cursor where
  rest : List Char
  line : Nat
  column : Nat
  offset : Nat
  deriving DecidableEq, Repr

namespace Cursor

def start (text : List Char) : Cursor := ⟨text, 0, 0, 0⟩

/-- Moves behind one character. -/
def next (cursor : Cursor) : Cursor :=
  match cursor.rest with
  | [] => cursor
  | char :: rest =>
    if isBreak char then ⟨rest, cursor.line + 1, 0, cursor.offset + 1⟩
    else ⟨rest, cursor.line, cursor.column + 1, cursor.offset + 1⟩

/-- Moves behind some characters. -/
def advance : Nat → Cursor → Cursor
  | 0, cursor => cursor
  | count + 1, cursor => advance count cursor.next

/-- Whether a line begins with a mark of three characters that stand alone. -/
def isMark (cursor : Cursor) (mark : Char) : Bool :=
  cursor.column == 0 &&
    match cursor.rest with
    | first :: second :: third :: rest =>
      first == mark && second == mark && third == mark && atGap rest
    | _ => false

/-- Whether a document begins or ends here. -/
def atDocumentMark (cursor : Cursor) : Bool := cursor.isMark '-' || cursor.isMark '.'

end Cursor

end Conformance.Yaml
