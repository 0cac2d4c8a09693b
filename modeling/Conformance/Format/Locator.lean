import Conformance.Format.Address
import Conformance.Format.Domain
/-!
Resource locators. Only the authority of a locator can be wrong: its host or its port. A reference
without a scheme is read relative to a base with the scheme `http`.
-/

namespace Conformance.Format

/-- How a scheme treats what follows it. -/
inductive SchemeKind where
  | file
  | special
  | plain
  deriving DecidableEq, Repr

def SchemeKind.ofName (scheme : List Char) : SchemeKind :=
  if scheme = "file".toList then .file
  else if ["http", "https", "ws", "wss", "ftp"].any (fun name => name.toList == scheme) then
    .special
  else .plain

/-- The characters that matter: control characters and blanks at the ends, and tabs and line
breaks anywhere, do not. -/
def significant (text : List Char) : List Char :=
  let isEdge (char : Char) : Bool := char.toNat ≤ 32
  (((text.dropWhile isEdge).reverse.dropWhile isEdge).reverse).filter
    (fun char => char != '\t' && char != '\n' && char != '\r')

def isSchemeChar (char : Char) : Bool :=
  char.isAlphanum || char == '+' || char == '-' || char == '.'

/-- The scheme in front of a colon, in lower case, and what follows the colon. -/
def splitScheme? (text : List Char) : Option (List Char × List Char) :=
  match text with
  | [] => none
  | first :: _ =>
    if !first.isAlpha then none
    else match text.dropWhile isSchemeChar with
      | ':' :: rest => some ((text.takeWhile isSchemeChar).map Char.toLower, rest)
      | _ => none

def isSlash (char : Char) : Bool := char == '/' || char == '\\'

/-- Whether a character ends an authority. -/
def endsAuthority (kind : SchemeKind) (char : Char) : Bool :=
  char == '/' || char == '?' || char == '#' || (kind != .plain && char == '\\')

/-- The part of an authority behind the last sign `@`, and what stands in front of that sign. -/
def splitUser (authority : List Char) : Option (List Char) × List Char :=
  let host := (authority.reverse.takeWhile (· != '@')).reverse
  if host.length = authority.length then (none, authority)
  else (some (authority.take (authority.length - host.length - 1)), host)

/-- The host in front of the colon of a port; colons inside brackets belong to the host. -/
def splitHost (inBrackets : Bool) : List Char → List Char × List Char
  | [] => ([], [])
  | char :: rest =>
    if char = ':' ∧ inBrackets = false then ([], char :: rest)
    else
      let inside := if char = '[' then true else if char = ']' then false else inBrackets
      let (host, rest) := splitHost inside rest
      (char :: host, rest)

/-- A port is empty or a number below 65536, with a colon in front of it; a backslash ends it. -/
def isPort : List Char → Bool
  | [] => true
  | _ :: text =>
    let digits := text.takeWhile (· != '\\')
    digits.all Char.isDigit && decide (digitsValue digits < 65536)

/-- Whether a text is an address in brackets. -/
def isBracketed (host : List Char) : Bool :=
  match host with
  | '[' :: inside =>
    inside.getLast? == some ']' && isGroupAddress (String.ofList inside.dropLast)
  | _ => false

/-- Whether a host is that of a scheme with domains. -/
def isHost (host : List Char) : Bool :=
  if host.head? = some '[' then isBracketed host else isDomainHost host

/-- Whether a host is that of a scheme that gives hosts no meaning. -/
def isOpaqueHost (host : List Char) : Bool :=
  if host.head? = some '[' then isBracketed host
  else !host.any (fun char =>
    char == Char.ofNat 0 || char == ' ' || "#/:<>?@[\\]^|".toList.contains char)

/-- Whether the userinfo of an authority says anything. -/
def hasUser (user : List Char) : Bool := !(user.isEmpty || user = [':'])

/-- Whether the text behind two slashes begins with an authority. -/
def isAfterSlashes (kind : SchemeKind) (text : List Char) : Bool :=
  let (user, rest) := splitUser (text.takeWhile (fun char => !endsAuthority kind char))
  let (host, port) := splitHost false rest
  if host.isEmpty then
    -- Schemes without domains may leave the host out, if nothing else is there.
    kind == .plain && port.isEmpty && !user.any hasUser &&
      !(user == some [] && !(text.dropWhile (fun char => !endsAuthority kind char)).isEmpty)
  else
    (if kind = .plain then isOpaqueHost host else isHost host) && isPort port

/-- Whether the text behind a file scheme is well formed: a host may follow two slashes, unless a
drive letter stands there. -/
def isFile (text : List Char) : Bool :=
  match text with
  | first :: second :: rest =>
    if isSlash first && isSlash second then
      let host := rest.takeWhile (fun char => !endsAuthority .file char)
      let isDrive := match host with
        | [letter, mark] => letter.isAlpha && (mark == ':' || mark == '|')
        | _ => false
      host.isEmpty || isDrive || isHost host
    else true
  | _ => true

/-- Whether the text behind a scheme is well formed. -/
def isBehindScheme (kind : SchemeKind) (text : List Char) : Bool :=
  match kind with
  | .file => isFile text
  | .special => isAfterSlashes .special (text.dropWhile isSlash)
  | .plain =>
    match text with
    | '/' :: '/' :: rest => isAfterSlashes .plain rest
    | _ => true

/-- Whether a reference without a scheme is well formed. -/
def isRelative (text : List Char) : Bool :=
  if (text.takeWhile isSlash).length < 2 then true
  else match text with
    | '/' :: '/' :: rest => isAfterSlashes .special rest
    | _ => isAfterSlashes .special (text.dropWhile isSlash)

/-- A locator with a scheme. -/
def isLocator (text : String) : Bool :=
  match splitScheme? (significant text.toList) with
  | some (scheme, rest) => isBehindScheme (.ofName scheme) rest
  | none => false

/-- A locator, or a reference relative to a base. -/
def isReference (text : String) : Bool :=
  let chars := significant text.toList
  match splitScheme? chars with
  | some (scheme, rest) =>
    if scheme = "http".toList ∧ (rest.takeWhile isSlash).length < 2 then isRelative rest
    else isBehindScheme (.ofName scheme) rest
  | none => isRelative chars

end Conformance.Format
