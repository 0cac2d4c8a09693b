import Conformance.Json.Token
/-!
Formats of network addresses: four decimal octets, and eight groups of hexadecimal digits of which
one run of zeros may be left out.
-/

namespace Conformance.Format

/-- Reads an octet: a number below 256 in its shortest decimal form. -/
def readOctet? (text : List Char) : Option (Nat × List Char) :=
  let (digits, rest) := takeDigits text
  match digits with
  | [] => none
  | '0' :: _ :: _ => none
  | digits =>
    if digits.length ≤ 3 ∧ digitsValue digits < 256 then some (digitsValue digits, rest) else none

/-- Reads one character. -/
def readMark? (mark : Char) : List Char → Option (List Char)
  | [] => none
  | first :: rest => if first = mark then some rest else none

/-- Reads four octets with points between them. -/
def readOctets? (text : List Char) : Option (List Nat × List Char) := do
  let (first, rest) ← readOctet? text
  let (second, rest) ← readOctet? (← readMark? '.' rest)
  let (third, rest) ← readOctet? (← readMark? '.' rest)
  let (fourth, rest) ← readOctet? (← readMark? '.' rest)
  pure ([first, second, third, fourth], rest)

/-- An address of four octets. -/
def isOctetAddress (text : String) : Bool :=
  match readOctets? text.toList with
  | some (_, []) => true
  | _ => false

/-- Reads a group of one to four hexadecimal digits. -/
def readGroup? (text : List Char) : Option (List Char) :=
  let digits := text.takeWhile (fun char => (Json.hexValue? char).isSome)
  if digits.isEmpty ∨ 4 < digits.length then none else some (text.drop digits.length)

/-- Reads what stands in front of a group: a colon, but nothing in front of the first one. -/
def readSeparator? (isFirst : Bool) (text : List Char) : Option (List Char) :=
  if isFirst then some text else readMark? ':' text

/-- Reads groups with colons between them, `limit` at most; four octets at the end count as two
groups. Gives the count of groups, whether octets are among them, and the rest. -/
def readGroups : (limit : Nat) → (isFirst : Bool) → List Char → Nat × Bool × List Char
  | 0, _, text => (0, false, text)
  | limit + 1, isFirst, text =>
    match (if 1 ≤ limit then (readSeparator? isFirst text).bind readOctets? else none) with
    | some (_, rest) => (2, true, rest)
    | none =>
      match (readSeparator? isFirst text).bind readGroup? with
      | none => (0, false, text)
      | some rest =>
        let (count, octets, rest) := readGroups limit false rest
        (count + 1, octets, rest)

/-- An address of eight groups. A double colon stands for one or more groups of zeros; octets may
only end the address. -/
def isGroupAddress (text : String) : Bool :=
  let (head, octets, rest) := readGroups 8 true text.toList
  if head = 8 then rest.isEmpty
  else if octets then false
  else match rest with
    | ':' :: ':' :: rest => (readGroups (7 - head) true rest).2.2.isEmpty
    | _ => false

end Conformance.Format
