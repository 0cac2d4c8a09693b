/-!
Blank characters, those with the property of white space, and texts without the blanks at their
ends.
-/

namespace Conformance.Text

/-- The characters with the property of white space. -/
def isBlank (char : Char) : Bool :=
  let point := char.toNat
  decide ((9 ≤ point ∧ point ≤ 13) ∨ point = 32 ∨ point = 0x85 ∨ point = 0xA0 ∨ point = 0x1680 ∨
    (0x2000 ≤ point ∧ point ≤ 0x200A) ∨ point = 0x2028 ∨ point = 0x2029 ∨ point = 0x202F ∨
    point = 0x205F ∨ point = 0x3000)

/-- A text without the blanks at its ends. -/
def trimChars (text : List Char) : List Char :=
  ((text.dropWhile isBlank).reverse.dropWhile isBlank).reverse

def trim (text : String) : String := String.ofList (trimChars text.toList)

/-- Whether a text has nothing but blanks. -/
def isBlankText (text : String) : Bool := text.toList.all isBlank

theorem isBlank_of_isWhitespace (char : Char) (white : char.isWhitespace = true) :
    isBlank char = true := by
  simp only [Char.isWhitespace, Bool.or_eq_true, decide_eq_true_eq] at white
  rcases white with ((rfl | rfl) | rfl) | rfl <;> decide

end Conformance.Text
