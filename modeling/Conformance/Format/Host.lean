import Conformance.Format.Calendar
/-!
Formats of host names and mail addresses.
-/

namespace Conformance.Format

/-- The shape of one label of a host name. -/
def labelShape : String := "^(?i)[a-z\\d]([a-z\\d-]\x7b0,61\x7d[a-z\\d])?$"

/-- A host name: labels with points between them, and perhaps a point at the end. -/
def isHostName (text : String) : Bool :=
  if text.isEmpty || 255 < text.utf8ByteSize then false
  else
    let chars := text.toList
    let name := if chars.getLast? = some '.' then chars.dropLast else chars
    match Pattern.ofSource labelShape with
    | .ok label => ((String.ofList name).splitOn ".").all label.isMatch
    | .error _ => false

/-- The characters of a mail address in front of its sign, points aside. -/
def mailboxChars : String := "[a-z0-9!#$%&'*+/=?^_`\x7b|\x7d~-]+"

/-- The shape of a mail address. -/
def mailShape : String :=
  "^(?i)" ++ mailboxChars ++ "(\\." ++ mailboxChars ++ ")*@([a-z0-9]([a-z0-9-]*[a-z0-9])?\\.)+" ++
    "[a-z0-9]([a-z0-9-]*[a-z0-9])?$"

/-- A mail address: parts with points between them, and a domain of at least two labels. -/
def isMailAddress (text : String) : Bool := hasShape mailShape text

end Conformance.Format
