import Conformance.Text.LetterCase
/-!
Two conventions for writing names of several words: words joined by underscores, and words joined
without a mark, each but the first with a capital. Both accept names written with hyphens,
underscores or capitals, so the spellings of one name have one image.
-/

namespace Conformance.Text

/-- Whether an underscore goes in front of an uppercase letter that stands between two others. -/
def beginsWord (previous : Char) (next : Option Char) : Bool :=
  isLowercase previous || previous.isDigit || (isUppercase previous && next.any isLowercase)

/-- The image of the characters behind `previous`, before leading underscores are dropped. -/
def underscoreFrom (previous : Option Char) : List Char → List Char
  | [] => []
  | char :: rest =>
    if char = '-' then '_' :: underscoreFrom (some char) rest
    else
      let mark := if isUppercase char && previous.any (beginsWord · rest.head?) then ['_'] else []
      mark ++ lower char ++ underscoreFrom (some char) rest

/-- A name with its words in lower case, joined by underscores. -/
def underscore (name : String) : String :=
  String.ofList ((underscoreFrom none name.toList).dropWhile (· == '_'))

/-- Whether a character divides words. -/
def dividesWords (char : Char) : Bool := char == '-' || char == '_'

/-- The words of a name, of which the last characters of the first are read already, in reverse;
empty words are left out. -/
def wordsFrom (read : List Char) : List Char → List (List Char)
  | [] => if read.isEmpty then [] else [read.reverse]
  | char :: rest =>
    if dividesWords char then
      (if read.isEmpty then [] else [read.reverse]) ++ wordsFrom [] rest
    else wordsFrom (char :: read) rest

/-- The words of a name, as hyphens and underscores divide it. -/
def words (name : List Char) : List (List Char) := wordsFrom [] name

/-- A word with its first character in another case. -/
def withFirst (form : Char → List Char) : List Char → List Char
  | [] => []
  | char :: rest => form char ++ rest

/-- A name with its words joined, each but the first with a capital. -/
def lowerCamel (name : String) : String :=
  match words name.toList with
  | [] => ""
  | first :: rest => String.ofList (withFirst lower first ++ rest.flatMap (withFirst upper))

end Conformance.Text

namespace Conformance

/-- A naming convention. -/
inductive Inflection where
  | underscore
  | lowerCamel
  deriving DecidableEq, Repr

/-- The image of a name under a convention. -/
def Inflection.apply : Inflection → String → String
  | .underscore, name => Text.underscore name
  | .lowerCamel, name => Text.lowerCamel name

end Conformance
