import Conformance.Format.Host
import Conformance.Format.Locator
import Conformance.Table
import Conformance.Text.Inflection
/-!
String formats and the tables that name them. A format's name is looked up in its normal form, so
that all spellings of a name find the same format.
-/

namespace Conformance

/-- A string format. -/
inductive Format where
  | dateTime
  | date
  | time
  | email
  | hostname
  | ipv4
  | ipv6
  | uri
  | uriReference
  | regex
  /-- One or more digits of ASCII. -/
  | digits
  /-- Three characters at most. -/
  | short
  /-- The empty text. -/
  | empty
  /-- No text. -/
  | never
  deriving DecidableEq, Repr

namespace Format

/-- Whether a text is a pattern. -/
def isPattern (text : String) : Bool :=
  match Pattern.ofSource text with
  | .ok _ => true
  | .error _ => false

/-- Whether a text has a format. -/
def accepts : Format → String → Bool
  | .dateTime, text => isDateTime text
  | .date, text => isDate text
  | .time, text => isTime text
  | .email, text => isMailAddress text
  | .hostname, text => isHostName text
  | .ipv4, text => isOctetAddress text
  | .ipv6, text => isGroupAddress text
  | .uri, text => isLocator text
  | .uriReference, text => isReference text
  | .regex, text => isPattern text
  | .digits, text => !text.isEmpty && text.toList.all Char.isDigit
  | .short, text => text.length ≤ 3
  | .empty, text => text.isEmpty
  | .never, _ => false

/-- The normal form of a format's name. -/
def normalName (name : String) : String :=
  match Text.underscore name with
  | "datetime" => "date_time"
  | image => image

end Format

/-- Formats under their names, in the order of the names. -/
abbrev FormatTable := Table Format

namespace FormatTable

/-- The table without formats. -/
def empty : FormatTable := []

def lookup (formats : FormatTable) (name : String) : Option Format :=
  Table.lookup formats (Format.normalName name)

/-- Puts an entry in its place among the others, or in place of the one with its name. -/
def insertEntry (name : String) (format : Format) : FormatTable → FormatTable
  | [] => [(name, format)]
  | (other, known) :: rest =>
    if name < other then (name, format) :: (other, known) :: rest
    else if name = other then (name, format) :: rest
    else (other, known) :: insertEntry name format rest

def register (formats : FormatTable) (name : String) (format : Format) : FormatTable :=
  insertEntry (Format.normalName name) format formats

def remove (formats : FormatTable) (name : String) : FormatTable :=
  Table.remove formats (Format.normalName name)

def contains (formats : FormatTable) (name : String) : Bool := (formats.lookup name).isSome

/-- Whether a text has the named format, if there is one. -/
def check (formats : FormatTable) (name text : String) : Option Bool :=
  (formats.lookup name).map (fun format => format.accepts text)

/-- The formats that every environment begins with. -/
def builtin : FormatTable :=
  [("date", .date), ("date_time", .dateTime), ("email", .email), ("hostname", .hostname),
    ("ipv4", .ipv4), ("ipv6", .ipv6), ("regex", .regex), ("time", .time), ("uri", .uri),
    ("uri_reference", .uriReference)]

end FormatTable

end Conformance
