import Conformance.Digest.Sha256
import Conformance.Value
/-!
Digests of documents. A document is written as octets by its structure: a letter for the sort of
value, then a length where there is one, then the contents. Numbers that stand for the same word are
written alike, whether they are held as integers or as doubles. The digest is the hash of the name
of an environment, an octet of zero and the document.
-/

namespace Conformance

namespace Value

/-- The octets of a text. -/
def octetsOfText (text : String) : List UInt8 := text.toUTF8.data.toList

/-- A text with its length in octets in front. -/
def measuredText (text : String) : List UInt8 :=
  Sha256.octetsOf (octetsOfText text).length ++ octetsOfText text

/-- The letter for an integer or a double. -/
def numberLetter (amount : Number) : UInt8 :=
  match amount.integer? with
  | some _ => 'i'.toUInt8
  | none => 'f'.toUInt8

mutual

/-- A value as octets. -/
def encoding : Value → List UInt8
  | .null => ['n'.toUInt8]
  | .bool value => ['b'.toUInt8, if value then 1 else 0]
  | .number amount => numberLetter amount :: Sha256.octetsOf amount.word
  | .string text => 's'.toUInt8 :: measuredText text
  | .bytes octets => 'y'.toUInt8 :: (Sha256.octetsOf octets.size ++ octets.data.toList)
  | .array items => 'a'.toUInt8 :: (Sha256.octetsOf items.length ++ encodingOfItems items)
  | .object entries =>
    'o'.toUInt8 :: (Sha256.octetsOf entries.length ++ encodingOfEntries entries)
termination_by structural value => value

/-- The items of an array as octets. -/
def encodingOfItems : List Value → List UInt8
  | [] => []
  | item :: items => encoding item ++ encodingOfItems items
termination_by structural items => items

/-- The entries of an object as octets. -/
def encodingOfEntries : List (String × Value) → List UInt8
  | [] => []
  | (key, value) :: entries => measuredText key ++ (encoding value ++ encodingOfEntries entries)
termination_by structural entries => entries

end

/-- The octets that stand for a document in an environment. -/
def digestInput (environment : String) (document : Value) : List UInt8 :=
  octetsOfText environment ++ 0 :: document.encoding

/-- The digest of a document in an environment. -/
def digest (environment : String) (document : Value) : String :=
  Sha256.hexDigest (digestInput environment document)

end Value

end Conformance
