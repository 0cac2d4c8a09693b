import Conformance.Yaml.Token
/-!
The nodes of YAML documents, read from tokens. A scalar that is left out is a plain scalar without
text. Anchors, tags and block scalars are not read.
-/

namespace Conformance.Yaml

/-- A node of a YAML document. -/
inductive Node where
  | scalar (plain : Bool) (text : String)
  | sequence (items : List Node)
  | mapping (entries : List (Node × Node))

namespace Node

/-- What a left-out node is. -/
def empty : Node := .scalar true ""

/-- What was read, and the tokens behind it. -/
abbrev Reading (α : Type) := Option (α × List Token)

/-- Whether the tokens go on with one of these. -/
def goesOn (tokens : List Token) (marks : List Token) : Bool :=
  match tokens with
  | [] => true
  | token :: _ => marks.contains token

/-- The tokens behind the comma that stands in front of every part but the first. No comma stands
in front of the closing bracket unless one ended the part before. -/
def afterComma? (first : Bool) (closing : Token) (tokens : List Token) : Option (List Token) :=
  if first || goesOn tokens [closing] then some tokens
  else match tokens with
    | .flowEntry :: rest => some rest
    | _ => none

/-- How often a token has to be looked at on the way to the end: an entry calls for its key, its
value and the further entries before the next token is taken. -/
def lookups : Nat := 4

mutual

/-- Reads a node. Outside of brackets (`block`) it may be a block collection, and where `bare` also
a sequence without an indentation of its own. -/
def read? : Nat → (block bare : Bool) → List Token → Reading Node
  | 0, _, _, _ => none
  | bound + 1, block, bare, tokens =>
    match tokens with
    | .scalar plain text :: rest => some (.scalar plain text, rest)
    | .flowSequence :: rest =>
      (readFlowItems? bound true rest).map fun (items, rest) => (.sequence items, rest)
    | .flowMapping :: rest =>
      (readFlowEntries? bound true rest).map fun (entries, rest) => (.mapping entries, rest)
    | .blockSequence :: rest =>
      if block then
        (readItems? bound rest).map fun (items, rest) => (.sequence items, rest)
      else none
    | .blockMapping :: rest =>
      if block then
        (readEntries? bound rest).map fun (entries, rest) => (.mapping entries, rest)
      else none
    | .blockEntry :: rest =>
      if bare then
        (readBareItems? bound (.blockEntry :: rest)).map fun (items, rest) =>
          (.sequence items, rest)
      else none
    | _ => none

/-- Reads a node unless the tokens go on with a mark, which leaves it out. -/
def readUnless? : Nat → (block bare : Bool) → (marks : List Token) → List Token → Reading Node
  | 0, _, _, _, _ => none
  | bound + 1, block, bare, marks, tokens =>
    if goesOn tokens marks then some (empty, tokens) else read? bound block bare tokens

/-- Reads the items of a block sequence and its end. -/
def readItems? : Nat → List Token → Reading (List Node)
  | 0, _ => none
  | bound + 1, .blockEntry :: tokens =>
    match readUnless? bound true false [.blockEntry, .blockEnd] tokens with
    | none => none
    | some (item, rest) =>
      (readItems? bound rest).map fun (items, rest) => (item :: items, rest)
  | _, .blockEnd :: rest => some ([], rest)
  | _, _ => none

/-- Reads the items of a sequence without an indentation of its own. -/
def readBareItems? : Nat → List Token → Reading (List Node)
  | 0, _ => none
  | bound + 1, .blockEntry :: tokens =>
    match readUnless? bound true false [.blockEntry, .key, .value, .blockEnd] tokens with
    | none => none
    | some (item, rest) =>
      (readBareItems? bound rest).map fun (items, rest) => (item :: items, rest)
  | _, tokens => some ([], tokens)

/-- Reads the entries of a block mapping and its end. -/
def readEntries? : Nat → List Token → Reading (List (Node × Node))
  | 0, _ => none
  | bound + 1, .key :: tokens =>
    match readUnless? bound true true [.key, .value, .blockEnd] tokens with
    | none => none
    | some (key, rest) =>
      match readValue? bound true [.key, .value, .blockEnd] rest with
      | none => none
      | some (value, rest) =>
        (readEntries? bound rest).map fun (entries, rest) => ((key, value) :: entries, rest)
  | _, .blockEnd :: rest => some ([], rest)
  | _, _ => none

/-- Reads the value of an entry, which may be left out. -/
def readValue? : Nat → (block : Bool) → (marks : List Token) → List Token → Reading Node
  | 0, _, _, _ => none
  | bound + 1, block, marks, tokens =>
    match tokens with
    | .value :: rest => readUnless? bound block block marks rest
    | tokens => some (empty, tokens)

/-- Reads the items of a sequence in brackets and its end. A comma stands in front of every item but
the `first`; an item with a key is a mapping of one entry. -/
def readFlowItems? : Nat → (first : Bool) → List Token → Reading (List Node)
  | 0, _, _ => none
  | bound + 1, first, tokens =>
    match afterComma? first .flowSequenceEnd tokens with
    | none => none
    | some (.flowSequenceEnd :: rest) => some ([], rest)
    | some (.key :: rest) =>
      match readUnless? bound false false [.value, .flowEntry, .flowSequenceEnd] rest with
      | none => none
      | some (key, rest) =>
        match readValue? bound false [.flowEntry, .flowSequenceEnd] rest with
        | none => none
        | some (value, rest) =>
          (readFlowItems? bound false rest).map fun (items, rest) =>
            (.mapping [(key, value)] :: items, rest)
    | some tokens =>
      match read? bound false false tokens with
      | none => none
      | some (item, rest) =>
        (readFlowItems? bound false rest).map fun (items, rest) => (item :: items, rest)

/-- Reads the entries of a mapping in brackets and its end. -/
def readFlowEntries? : Nat → (first : Bool) → List Token → Reading (List (Node × Node))
  | 0, _, _ => none
  | bound + 1, first, tokens =>
    match afterComma? first .flowMappingEnd tokens with
    | none => none
    | some (.flowMappingEnd :: rest) => some ([], rest)
    | some (.key :: rest) =>
      match readUnless? bound false false [.value, .flowEntry, .flowMappingEnd] rest with
      | none => none
      | some (key, rest) =>
        match readValue? bound false [.flowEntry, .flowMappingEnd] rest with
        | none => none
        | some (value, rest) =>
          (readFlowEntries? bound false rest).map fun (entries, rest) =>
            ((key, value) :: entries, rest)
    | some tokens =>
      match read? bound false false tokens with
      | none => none
      | some (key, rest) =>
        (readFlowEntries? bound false rest).map fun (entries, rest) =>
          ((key, empty) :: entries, rest)

end

/-- Reads the node of a document, and the tokens behind it. -/
def readDocument? (tokens : List Token) : Reading Node :=
  let bound := lookups * (tokens.length + 1)
  match tokens with
  | .documentStart :: rest =>
    readUnless? bound true true [.documentStart, .documentEnd] rest
  | tokens => read? bound true true tokens

/-- Reads the only document of a text; a text may have none. -/
def ofTokens? (tokens : List Token) : Option (Option Node) :=
  match tokens.dropWhile (· == .documentEnd) with
  | [] => some none
  | tokens =>
    match readDocument? tokens with
    | some (node, rest) => if rest.all (· == .documentEnd) then some (some node) else none
    | none => none

/-- Reads the node of a text; a text may have none. -/
def ofText? (text : String) : Option (Option Node) := (Token.scan? text.toList).bind ofTokens?

end Node

end Conformance.Yaml
