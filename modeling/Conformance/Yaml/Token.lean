import Conformance.Yaml.Text
/-!
The tokens of YAML documents. Indentation opens and closes collections, so the scanner keeps the
columns of the open ones. A scalar or a bracket may turn out to be a key only when the colon behind
it is found; until then its place among the tokens is kept as a candidate, one for every level of
brackets.
-/

namespace Conformance.Yaml

/-- A token of a YAML document. -/
inductive Token where
  | documentStart
  | documentEnd
  | blockSequence
  | blockMapping
  | blockEnd
  | blockEntry
  | flowSequence
  | flowSequenceEnd
  | flowMapping
  | flowMappingEnd
  | flowEntry
  | key
  | value
  | scalar (plain : Bool) (text : String)
  deriving DecidableEq, Repr

/-- A token that may turn out to be a key: how many tokens stand in front of it, and its place. One
that begins a line of an open mapping has to be a key. -/
structure Candidate where
  position : Nat
  line : Nat
  column : Nat
  offset : Nat
  required : Bool
  deriving DecidableEq, Repr

/-- What the scanner knows. -/
structure Scanner where
  tokens : List Token
  /-- The column of the innermost open block collection. -/
  indent : Int
  /-- The columns of the ones around it. -/
  indents : List Int
  /-- The candidate outside of all brackets and those inside them, the innermost first. -/
  candidate : Option Candidate
  outer : List (Option Candidate)
  /-- Whether a key may stand here. -/
  keyAllowed : Bool
  deriving DecidableEq, Repr

namespace Scanner

def initial : Scanner := ⟨[], -1, [], none, [], true⟩

/-- Whether the place is inside brackets. -/
def inFlow (scanner : Scanner) : Bool := !scanner.outer.isEmpty

def emit (scanner : Scanner) (token : Token) : Scanner :=
  { scanner with tokens := scanner.tokens ++ [token] }

/-- Puts a token at a position among the others. -/
def insert (scanner : Scanner) (position : Nat) (token : Token) : Scanner :=
  { scanner with tokens := scanner.tokens.take position ++ token :: scanner.tokens.drop position }

/-- Opens a block collection at a column, unless one is open there. -/
def openBlock (scanner : Scanner) (column position : Nat) (token : Token) : Scanner :=
  if !scanner.inFlow && decide (scanner.indent < column) then
    { scanner with indent := column, indents := scanner.indent :: scanner.indents }.insert
      position token
  else scanner

/-- Closes the block collections behind a column, the innermost first. -/
def closeBehind (scanner : Scanner) (column : Int) : List Int → Scanner
  | [] => scanner
  | outer :: rest =>
    if column < scanner.indent then
      ({ scanner with indent := outer, indents := rest }.emit .blockEnd).closeBehind column rest
    else scanner

/-- Closes the block collections behind a column. -/
def close (scanner : Scanner) (column : Int) : Scanner :=
  if scanner.inFlow then scanner else scanner.closeBehind column scanner.indents

/-- How far behind the beginning of a key its colon may stand. -/
def keyLength : Nat := 1024

def Candidate.isStale (candidate : Candidate) (cursor : Cursor) : Bool :=
  decide (candidate.line < cursor.line ∨ candidate.offset + keyLength < cursor.offset)

/-- Drops a candidate that can be no key any more; one that has to be is an error. -/
def refresh? (cursor : Cursor) : Option Candidate → Option (Option Candidate)
  | none => some none
  | some candidate =>
    if Candidate.isStale candidate cursor then
      if candidate.required then none else some none
    else some (some candidate)

/-- Drops the candidates that can be no keys any more. -/
def refreshAll? (scanner : Scanner) (cursor : Cursor) : Option Scanner := do
  let candidate ← refresh? cursor scanner.candidate
  let outer ← scanner.outer.mapM (refresh? cursor)
  pure { scanner with candidate := candidate, outer := outer }

/-- Drops the candidate; one that has to be a key is an error. -/
def drop? (scanner : Scanner) : Option Scanner :=
  match scanner.candidate with
  | some candidate =>
    if candidate.required then none else some { scanner with candidate := none }
  | none => some scanner

/-- Makes the next token a candidate, where keys are allowed. -/
def mark? (scanner : Scanner) (cursor : Cursor) : Option Scanner :=
  if scanner.keyAllowed then
    scanner.drop?.map fun scanner =>
      { scanner with
        candidate := some
          { position := scanner.tokens.length
            line := cursor.line
            column := cursor.column
            offset := cursor.offset
            required := !scanner.inFlow && decide (scanner.indent = cursor.column) } }
  else some scanner

/-- Takes an opening bracket. -/
def openFlow? (scanner : Scanner) (cursor : Cursor) (token : Token) : Option Scanner :=
  (scanner.mark? cursor).map fun scanner =>
    { scanner.emit token with
      candidate := none, outer := scanner.candidate :: scanner.outer, keyAllowed := true }

/-- Takes a closing bracket. -/
def closeFlow? (scanner : Scanner) (token : Token) : Option Scanner :=
  scanner.drop?.map fun scanner =>
    let closed := match scanner.outer with
      | candidate :: outer => { scanner with candidate := candidate, outer := outer }
      | [] => scanner
    { closed.emit token with keyAllowed := false }

/-- Takes the dash in front of an item. -/
def entry? (scanner : Scanner) (cursor : Cursor) : Option Scanner :=
  if !scanner.inFlow && !scanner.keyAllowed then none
  else
    (scanner.openBlock cursor.column scanner.tokens.length .blockSequence).drop?.map fun scanner =>
      { scanner.emit .blockEntry with keyAllowed := true }

/-- Takes the question mark in front of a key. -/
def key? (scanner : Scanner) (cursor : Cursor) : Option Scanner :=
  if !scanner.inFlow && !scanner.keyAllowed then none
  else
    (scanner.openBlock cursor.column scanner.tokens.length .blockMapping).drop?.map fun scanner =>
      { scanner.emit .key with keyAllowed := !scanner.inFlow }

/-- Takes the colon in front of a value: the candidate is a key. -/
def value? (scanner : Scanner) (cursor : Cursor) : Option Scanner :=
  match scanner.candidate with
  | some candidate =>
    some
      { (({ scanner with candidate := none }.insert candidate.position .key).openBlock
          candidate.column candidate.position .blockMapping).emit .value with
        keyAllowed := false }
  | none =>
    if !scanner.inFlow && !scanner.keyAllowed then none
    else
      some
        { (scanner.openBlock cursor.column scanner.tokens.length .blockMapping).emit .value with
          keyAllowed := !scanner.inFlow }

/-- Takes the mark between two documents. -/
def documentMark? (scanner : Scanner) (token : Token) : Option Scanner :=
  (scanner.close (-1)).drop?.map fun scanner =>
    { scanner.emit token with keyAllowed := false }

/-- Takes a scalar. -/
def scalar? (scanner : Scanner) (cursor : Cursor) (plain : Bool) (text : List Char)
    (keyAllowed : Bool) : Option Scanner :=
  (scanner.mark? cursor).map fun scanner =>
    { scanner.emit (.scalar plain (String.ofList text)) with keyAllowed := keyAllowed }

/-- Skips blanks, comments and breaks. A break outside of brackets allows a key. -/
def skip : Nat → Scanner → Cursor → Scanner × Cursor
  | 0, scanner, cursor => (scanner, cursor)
  | bound + 1, scanner, cursor =>
    match cursor.rest with
    | [] => (scanner, cursor)
    | char :: rest =>
      if char == ' ' || (char == '\t' && (scanner.inFlow || !scanner.keyAllowed)) then
        skip bound scanner cursor.next
      else if char == '#' then
        skip bound scanner
          (cursor.advance ((char :: rest).takeWhile fun char => !isBreak char).length)
      else if isBreak char then
        skip bound { scanner with keyAllowed := scanner.keyAllowed || !scanner.inFlow } cursor.next
      else (scanner, cursor)

/-- The characters that begin no plain text. -/
def isIndicator (char : Char) : Bool :=
  ['-', '?', ':', ',', '[', ']', '\x7b', '\x7d', '#', '&', '*', '!', '|', '>', '\'', '"', '%', '@',
    '\x60'].contains char

/-- Whether a plain text begins here. -/
def beginsPlain (flow : Bool) (text : List Char) : Bool :=
  match text with
  | [] => false
  | char :: rest =>
    !isIndicator char ||
      (char == '-' && !(match rest with
        | blank :: _ => isBlank blank
        | [] => false)) ||
      (!flow && (char == '?' || char == ':') && !atGap rest)

/-- Takes one token. -/
def step? (scanner : Scanner) (cursor : Cursor) : Option (Scanner × Cursor) :=
  let flow := scanner.inFlow
  match cursor.rest with
  | [] => none
  | char :: rest =>
    if cursor.isMark '-' then
      (scanner.documentMark? .documentStart).map fun scanner => (scanner, cursor.advance 3)
    else if cursor.isMark '.' then
      (scanner.documentMark? .documentEnd).map fun scanner => (scanner, cursor.advance 3)
    else if char == '[' then
      (scanner.openFlow? cursor .flowSequence).map fun scanner => (scanner, cursor.next)
    else if char == '\x7b' then
      (scanner.openFlow? cursor .flowMapping).map fun scanner => (scanner, cursor.next)
    else if char == ']' then
      (scanner.closeFlow? .flowSequenceEnd).map fun scanner => (scanner, cursor.next)
    else if char == '\x7d' then
      (scanner.closeFlow? .flowMappingEnd).map fun scanner => (scanner, cursor.next)
    else if char == ',' then
      scanner.drop?.map fun scanner =>
        ({ scanner.emit .flowEntry with keyAllowed := true }, cursor.next)
    else if char == '-' && atGap rest then
      (scanner.entry? cursor).map fun scanner => (scanner, cursor.next)
    else if char == '?' && (flow || atGap rest) then
      (scanner.key? cursor).map fun scanner => (scanner, cursor.next)
    else if char == ':' && (flow || atGap rest) then
      (scanner.value? cursor).map fun scanner => (scanner, cursor.next)
    else if char == '"' || char == '\'' then
      match readQuoted? (char == '"') (cursor.rest.length + 1) [] cursor.next with
      | none => none
      | some (text, behind) =>
        (scanner.scalar? cursor false text false).map fun scanner => (scanner, behind)
    else if beginsPlain flow cursor.rest then
      match readPlain? flow scanner.indent (cursor.rest.length + 1) [] .empty cursor with
      | none => none
      | some (text, broken, behind) =>
        (scanner.scalar? cursor true text broken).map fun scanner => (scanner, behind)
    else none

/-- Takes tokens to the end of the document; every token has a character at least. -/
def run? : Nat → Scanner → Cursor → Option (List Token)
  | 0, _, _ => none
  | bound + 1, scanner, cursor => do
    let (scanner, cursor) := scanner.skip (cursor.rest.length + 1) cursor
    let scanner ← scanner.refreshAll? cursor
    let scanner := scanner.close cursor.column
    if cursor.rest.isEmpty then
      let scanner ← (scanner.close (-1)).drop?
      pure scanner.tokens
    else
      let (scanner, cursor) ← scanner.step? cursor
      run? bound scanner cursor

end Scanner

/-- Reads a text as tokens. -/
def Token.scan? (text : List Char) : Option (List Token) :=
  if text.all isAllowed then
    let text := normalBreaks text
    Scanner.initial.run? (text.length + 1) (Cursor.start text)
  else none

end Conformance.Yaml
