import Conformance.Text.Alphabet
/-!
Texts as they are shown in diagnoses: between quotes, with escapes for the characters that would
not show by themselves.
-/

namespace Conformance.Text

/-- Whether a character shows by itself: a visible one that does not join the one in front of it,
and the space. -/
def isShown (char : Char) : Bool := char == ' ' || (isVisible char && !isJoined char)

/-- A character between quotes. -/
def showChar (char : Char) : List Char :=
  match char with
  | '"' => ['\\', '"']
  | '\\' => ['\\', '\\']
  | '\t' => ['\\', 't']
  | '\n' => ['\\', 'n']
  | '\r' => ['\\', 'r']
  | '\x00' => ['\\', '0']
  | char =>
    if isShown char then [char]
    else ['\\', 'u', '\x7b'] ++ Nat.toDigits 16 char.toNat ++ ['\x7d']

/-- A text between quotes. -/
def shown (text : String) : String :=
  String.ofList ('"' :: (text.toList.flatMap showChar ++ ['"']))

end Conformance.Text
