import Conformance.Format.DomainTable
import Conformance.Format.Punycode
import Conformance.Json.Token
import Conformance.Pattern.Property
/-!
Domain names in locators. Percent escapes are decoded first, and characters beyond ASCII are
replaced by those that they stand for. A label may spell such characters in Punycode. A domain
whose last label is a number is an address of up to four numbers, decimal, octal or hexadecimal.
Nothing is asked of the direction in which a label is written, nor of the joiners in it.
-/

namespace Conformance.Format

/-- Decodes percent escapes in a sequence of octets. A sign without two hexadecimal digits stands
for itself. -/
def percentDecode : List UInt8 → List UInt8
  | [] => []
  | 0x25 :: high :: low :: rest =>
    match Json.hexValue? (Char.ofNat high.toNat), Json.hexValue? (Char.ofNat low.toNat) with
    | some upper, some lower => UInt8.ofNat (upper * 16 + lower) :: percentDecode rest
    | _, _ => 0x25 :: percentDecode (high :: low :: rest)
  | octet :: rest => octet :: percentDecode rest

/-- The characters of ASCII that no domain may hold. -/
def isForbiddenInDomain (char : Char) : Bool :=
  char.toNat ≤ 32 || char.toNat == 127 || "%#/:<>?@[\\]^|".toList.contains char

/-- The pieces of a text between the occurrences of a character. -/
def piecesAt (mark : Char) : List Char → List (List Char)
  | [] => [[]]
  | char :: rest =>
    if char = mark then [] :: piecesAt mark rest
    else match piecesAt mark rest with
      | [] => [[char]]
      | piece :: pieces => (char :: piece) :: pieces

/-- The number that digits of a base spell, if all are digits of that base. -/
def readBase? (base : Nat) (text : List Char) : Option Nat :=
  text.foldl (fun total char =>
    match total, Json.hexValue? char with
    | some total, some digit => if digit < base then some (total * base + digit) else none
    | _, _ => none) (some 0)

/-- Reads a part of an address: hexadecimal behind `0x`, octal behind a zero, else decimal. -/
def readAddressPart? (text : List Char) : Option Nat :=
  match text with
  | [] => none
  | '0' :: 'x' :: digits => readBase? 16 digits
  | '0' :: 'X' :: digits => readBase? 16 digits
  | '0' :: digit :: digits => readBase? 8 (digit :: digits)
  | digits => readBase? 10 digits

/-- Without the empty piece that a point at the end makes. -/
def dropEmptyLast (pieces : List (List Char)) : List (List Char) :=
  if pieces.getLast? = some [] then pieces.dropLast else pieces

/-- Whether the last label of a domain is a number. -/
def endsInNumber (domain : List Char) : Bool :=
  match (dropEmptyLast (piecesAt '.' domain)).getLast? with
  | none => false
  | some last =>
    (!last.isEmpty && last.all Char.isDigit) || (readAddressPart? last).isSome

/-- Whether a domain is an address: up to four numbers, of which the last fills the octets that
the others leave. -/
def isNumericAddress (domain : List Char) : Bool :=
  let pieces := dropEmptyLast (piecesAt '.' domain)
  if 4 < pieces.length then false
  else match pieces.mapM readAddressPart? with
    | none => false
    | some numbers =>
      match numbers.getLast? with
      | none => false
      | some last =>
        decide (last < Nat.pow 256 (5 - numbers.length)) && numbers.dropLast.all (· < 256)

/-- The characters of ASCII that a character beyond ASCII stands for. -/
def plainForm? (point : Nat) : Option (List Char) :=
  match plainRuns.find? (fun run => decide (run.1 ≤ point ∧ point ≤ run.2.1)) with
  | some (first, _, image) => some [Char.ofNat (image.toNat + (point - first))]
  | none =>
    (numeralRuns.find? (fun run => decide (run.1 ≤ point ∧ point ≤ run.2.1))).map
      fun (first, _, number) => Nat.toDigits 10 (number + (point - first))

/-- The controls, private characters and points without a character. -/
def unassigned : Pattern.CharSet := .ofCategories ["cc", "cn", "co"]

/-- The marks that combine with the character in front of them. -/
def combining : Pattern.CharSet := .ofCategories ["mn", "mc", "me"]

/-- What a character of a domain stands for, if it may stand there. -/
def domainForm? (char : Char) : Option (List Char) :=
  let point := char.toNat
  if point < 128 then
    if isForbiddenInDomain char then none else some [char.toLower]
  else if Text.isWithin vanishingBounds point then some []
  else
    (plainForm? point).orElse fun _ =>
      if unassigned.holds point || Text.isWithin barredBounds point then none
      else some (Text.lower char)

/-- Whether a text stands for itself in a domain and goes beyond ASCII. -/
def isForeignLabel (label : List Char) : Bool :=
  label.any (fun char => 128 ≤ char.toNat) &&
    label.all (fun char => domainForm? char == some [char])

/-- Whether a text may be a label: it does not begin with a mark, nor does what it spells in
Punycode, which has to be a text that needs it. -/
def isDomainLabel (label : List Char) : Bool :=
  let begins (text : List Char) : Bool :=
    match text with
    | first :: _ => !combining.holds first.toNat
    | [] => true
  match label with
  | 'x' :: 'n' :: '-' :: '-' :: code =>
    match Punycode.decode? code with
    | some text => isForeignLabel text && begins text
    | none => false
  | label => begins label

/-- The domain in its plain form, if its characters and labels may stand in a domain. -/
def domainOf? (octets : List UInt8) : Option (List Char) :=
  (String.fromUTF8? ⟨octets.toArray⟩).bind fun text =>
    (text.toList.mapM domainForm?).bind fun forms =>
      let domain := forms.flatten
      if (piecesAt '.' domain).all isDomainLabel then some domain else none

/-- Whether a text is the host of a locator outside brackets. -/
def isDomainHost (text : List Char) : Bool :=
  match domainOf? (percentDecode (String.ofList text).toUTF8.data.toList) with
  | none => false
  | some domain =>
    !domain.isEmpty && (!endsInNumber domain || isNumericAddress domain)

end Conformance.Format
