import Conformance.Pattern.Match
import Conformance.Pattern.Reader
import Conformance.Pattern.Size
/-!
Patterns: their source texts with the expressions that these stand for.
-/

namespace Conformance

/-- A pattern that was read from its source. -/
structure Pattern where
  source : String
  regex : Pattern.Regex
  deriving DecidableEq, Repr

namespace Pattern

/-- Why a text is not a pattern. -/
inductive SourceError where
  | malformed
  | tooLarge (limit : Nat)
  deriving DecidableEq, Repr

def SourceError.message : SourceError → String
  | .malformed => "regex parse error:"
  | .tooLarge limit =>
    "Compiled regex exceeds size limit of " ++ toString limit ++ " bytes."

/-- Reads a pattern. -/
def ofSource (source : String) : Except SourceError Pattern :=
  match (Tree.ofText? source.toList).bind (Tree.resolve? Flags.initial) with
  | none => .error .malformed
  | some (regex, _) =>
    if regex.size ≤ sizeLimit then .ok ⟨source, regex⟩ else .error (.tooLarge sizeLimit)

/-- Whether some part of a text matches. -/
def isMatch (pattern : Pattern) (text : String) : Bool := pattern.regex.matchesWithin text

end Pattern

end Conformance
