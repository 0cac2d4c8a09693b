import Conformance.Pattern.Trait
/-!
Letters, numbers and joining marks outside patterns. The sets of patterns follow version 16 of the
Unicode standard; what version 17 brought is added here from tables.
-/

namespace Conformance.Text

/-- Where the characters of version 17 begin and end, in turn. -/
def recentBounds : List Nat :=
  [
    2191, 2192, 3164, 3165, 3292, 3293, 6863, 6878, 6880, 6892, 8385, 8386, 11158, 11159, 42958,
    42960, 42962, 42963, 42964, 42965, 42993, 42994, 64451, 64467, 64912, 64914, 64968, 64975,
    67904, 67930, 69317, 69320, 69328, 69337, 69370, 69372, 72544, 72552, 73136, 73180, 73184,
    73194, 93856, 93881, 93883, 93908, 94194, 94199, 100344, 100352, 101641, 101663, 101760,
    101875, 118010, 118013, 118458, 118481, 118496, 118513, 124608, 124639, 124640, 124662,
    124670, 124672, 128728, 128729, 128887, 128891, 129232, 129241, 129620, 129624, 129674,
    129675, 129678, 129679, 129736, 129737, 129741, 129742, 129770, 129771, 129775, 129776,
    130042, 130043, 177978, 177984, 183970, 183982, 205744, 210042]

/-- Where the alphabetic ones among them begin and end, in turn. -/
def recentAlphabeticBounds : List Nat :=
  [
    2191, 2192, 3164, 3165, 3292, 3293, 42958, 42960, 42962, 42963, 42964, 42965, 42993, 42994,
    67904, 67930, 69317, 69320, 69370, 69372, 72544, 72552, 73136, 73180, 93856, 93881, 93883,
    93908, 94194, 94199, 100344, 100352, 101641, 101663, 101760, 101875, 124608, 124639, 124640,
    124662, 124670, 124672, 177978, 177984, 183970, 183982, 205744, 210042]

/-- Where the numbers among them begin and end, in turn. -/
def recentNumberBounds : List Nat :=
  [73184, 73194, 94196, 94199]

/-- Where the marks among them begin and end, in turn, that join the character in front. -/
def recentMarkBounds : List Nat :=
  [
    6863, 6878, 6880, 6892, 69370, 69372, 72544, 72545, 72546, 72549, 72550, 72551, 124643,
    124644, 124646, 124647, 124654, 124656, 124661, 124662]

def isAlphabetic (char : Char) : Bool :=
  Pattern.CharSet.alphabetic.holds char.toNat || isWithin recentAlphabeticBounds char.toNat

/-- Whether a character is a digit or another character of numbers. -/
def isNumeric (char : Char) : Bool :=
  Pattern.CharSet.number.holds char.toNat || isWithin recentNumberBounds char.toNat

/-- Whether a character joins the one in front of it. -/
def isJoined (char : Char) : Bool :=
  Pattern.CharSet.graphemeExtend.holds char.toNat || isWithin recentMarkBounds char.toNat

/-- Whether a point has a character that is neither a control nor a separator. -/
def isVisible (char : Char) : Bool :=
  !(Pattern.CharSet.ofCategories ["cc", "cf", "cn", "co", "zl", "zp", "zs"]).holds char.toNat ||
    isWithin recentBounds char.toNat

end Conformance.Text
