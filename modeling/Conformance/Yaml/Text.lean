import Conformance.Json.Token
import Conformance.Yaml.Cursor
/-!
Texts of YAML scalars: plain, between single quotes and between double quotes. Where a text goes on
in another line, the break becomes a space, or the further breaks if there are any.
-/

namespace Conformance.Yaml

/-- What stands between two parts of a text: blanks within a line, or breaks. -/
structure Gap where
  blanks : List Char
  /-- The first break; none where an escaped break came before. -/
  first : Option (List Char)
  breaks : List Char
  deriving DecidableEq, Repr

namespace Gap

def empty : Gap := ⟨[], none, []⟩

/-- The gap behind an escaped break. -/
def escaped : Gap := ⟨[], some [], []⟩

/-- Whether a gap has a break. -/
def broken (gap : Gap) : Bool := gap.first.isSome

/-- What a gap stands for. -/
def text (gap : Gap) : List Char :=
  match gap.first with
  | none => gap.blanks
  | some ['\n'] => if gap.breaks.isEmpty then [' '] else gap.breaks
  | some first => first ++ gap.breaks

/-- Takes a blank or a break into a gap. -/
def add (gap : Gap) (char : Char) : Gap :=
  if isBreak char then
    match gap.first with
    | none => ⟨[], some [char], gap.breaks⟩
    | some _ => { gap with breaks := gap.breaks ++ [char] }
  else if gap.broken then gap
  else { gap with blanks := gap.blanks ++ [char] }

end Gap

/-- Reads blanks and breaks. A tab may not indent a line: in front of the column `indent` it is
refused. -/
def readGap? (indent : Int) : Nat → Gap → Cursor → Option (Gap × Cursor)
  | 0, _, _ => none
  | bound + 1, gap, cursor =>
    match cursor.rest with
    | char :: _ =>
      if isBlank char || isBreak char then
        if gap.broken && char == '\t' && decide ((cursor.column : Int) < indent) then none
        else readGap? indent bound (gap.add char) cursor.next
      else some (gap, cursor)
    | [] => some (gap, cursor)

/-- The marks that end a plain text inside brackets. -/
def isFlowMark (char : Char) : Bool :=
  char == ',' || char == '[' || char == ']' || char == '\x7b' || char == '\x7d'

/-- Reads a part of a plain text up to a gap, a colon in front of one, or a mark. -/
def readPlainPart? (flow : Bool) : List Char → Option (List Char)
  | [] => some []
  | char :: rest =>
    if isBlank char || isBreak char then some []
    else if char == ':' && atGap rest then some []
    else if flow && isFlowMark char then some []
    else if flow && char == ':' && (match rest with
      | mark :: _ => isFlowMark mark || mark == '?'
      | [] => false) then none
    else (readPlainPart? flow rest).map (char :: ·)

/-- A plain text, whether a break stands behind it, and the place where it ends. -/
def readPlain? (flow : Bool) (indent : Int) :
    Nat → List Char → Gap → Cursor → Option (List Char × Bool × Cursor)
  | 0, _, _, _ => none
  | bound + 1, text, gap, cursor =>
    if cursor.atDocumentMark || cursor.rest.head? == some '#' then some (text, gap.broken, cursor)
    else
      match readPlainPart? flow cursor.rest with
      | none => none
      | some [] => some (text, gap.broken, cursor)
      | some (char :: part) =>
        let text := text ++ gap.text ++ char :: part
        let cursor := cursor.advance (part.length + 1)
        if cursor.rest.isEmpty || !atGap cursor.rest then some (text, false, cursor)
        else
          match readGap? (indent + 1) (cursor.rest.length + 1) .empty cursor with
          | none => none
          | some (gap, cursor) =>
            if !flow && decide ((cursor.column : Int) < indent + 1) then
              some (text, gap.broken, cursor)
            else readPlain? flow indent bound text gap cursor

/-- The character that an escape of one letter stands for. -/
def unescape? (mark : Char) : Option Char :=
  match mark with
  | '0' => some '\x00'
  | 'a' => some '\x07'
  | 'b' => some '\x08'
  | 't' => some '\t'
  | '\t' => some '\t'
  | 'n' => some '\n'
  | 'v' => some '\x0b'
  | 'f' => some '\x0c'
  | 'r' => some '\r'
  | 'e' => some '\x1b'
  | ' ' => some ' '
  | '"' => some '"'
  | '/' => some '/'
  | '\\' => some '\\'
  | 'N' => some '\x85'
  | '_' => some '\u00a0'
  | 'L' => some '\u2028'
  | 'P' => some '\u2029'
  | _ => none

/-- How many hexadecimal digits stand behind a letter in an escape. -/
def escapeWidth? (mark : Char) : Option Nat :=
  match mark with
  | 'x' => some 2
  | 'u' => some 4
  | 'U' => some 8
  | _ => none

/-- The character that hexadecimal digits spell. -/
def charOfDigits? (digits : List Char) : Option Char :=
  match digits.mapM Json.hexValue? with
  | none => none
  | some values =>
    let point := values.foldl (fun point value => 16 * point + value) 0
    if point.isValidChar then some (Char.ofNat point) else none

/-- What the inside of a quoted text goes on with. -/
inductive QuotedPart where
  | char (char : Char) (width : Nat)
  | escapedBreak
  | closing
  | gap
  deriving DecidableEq, Repr

/-- What stands next between quotes. -/
def quotedPart? (double : Bool) (text : List Char) : Option QuotedPart :=
  match text with
  | [] => none
  | char :: rest =>
    if isBlank char || isBreak char then some .gap
    else if double then
      match char, rest with
      | '"', _ => some .closing
      | '\\', mark :: rest =>
        if isBreak mark then some .escapedBreak
        else
          match unescape? mark, escapeWidth? mark with
          | some char, _ => some (.char char 2)
          | none, some width =>
            if (rest.take width).length = width then
              (charOfDigits? (rest.take width)).map fun char => .char char (2 + width)
            else none
          | none, none => none
      | '\\', [] => none
      | char, _ => some (.char char 1)
    else
      match char, rest with
      | '\'', '\'' :: _ => some (.char '\'' 2)
      | '\'', _ => some .closing
      | char, _ => some (.char char 1)

/-- Reads the inside of a quoted text and its closing quote. -/
def readQuoted? (double : Bool) : Nat → List Char → Cursor → Option (List Char × Cursor)
  | 0, _, _ => none
  | bound + 1, text, cursor =>
    if cursor.atDocumentMark then none
    else
      match quotedPart? double cursor.rest with
      | none => none
      | some .closing => some (text, cursor.next)
      | some (.char char width) => readQuoted? double bound (text ++ [char]) (cursor.advance width)
      | some .gap =>
        match readGap? 0 (cursor.rest.length + 1) .empty cursor with
        | none => none
        | some (gap, cursor) => readQuoted? double bound (text ++ gap.text) cursor
      | some .escapedBreak =>
        let cursor := cursor.advance 2
        match readGap? 0 (cursor.rest.length + 1) .escaped cursor with
        | none => none
        | some (gap, cursor) => readQuoted? double bound (text ++ gap.text) cursor

end Conformance.Yaml
