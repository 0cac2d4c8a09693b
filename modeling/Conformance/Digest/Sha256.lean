/-!
The hash function SHA-256 on sequences of octets.
-/

namespace Conformance.Sha256

/-- The eight words that the blocks of a message are mixed into. -/
structure State where
  a : UInt32
  b : UInt32
  c : UInt32
  d : UInt32
  e : UInt32
  f : UInt32
  g : UInt32
  h : UInt32
  deriving DecidableEq, Repr

/-- The words before the first block: fractions of square roots of primes. -/
def initial : State :=
  ⟨0x6a09e667, 0xbb67ae85, 0x3c6ef372, 0xa54ff53a, 0x510e527f, 0x9b05688c, 0x1f83d9ab,
    0x5be0cd19⟩

/-- One word for every round: fractions of cube roots of primes. -/
def roundWords : List UInt32 :=
  [0x428a2f98, 0x71374491, 0xb5c0fbcf, 0xe9b5dba5, 0x3956c25b, 0x59f111f1, 0x923f82a4, 0xab1c5ed5,
    0xd807aa98, 0x12835b01, 0x243185be, 0x550c7dc3, 0x72be5d74, 0x80deb1fe, 0x9bdc06a7, 0xc19bf174,
    0xe49b69c1, 0xefbe4786, 0x0fc19dc6, 0x240ca1cc, 0x2de92c6f, 0x4a7484aa, 0x5cb0a9dc, 0x76f988da,
    0x983e5152, 0xa831c66d, 0xb00327c8, 0xbf597fc7, 0xc6e00bf3, 0xd5a79147, 0x06ca6351, 0x14292967,
    0x27b70a85, 0x2e1b2138, 0x4d2c6dfc, 0x53380d13, 0x650a7354, 0x766a0abb, 0x81c2c92e, 0x92722c85,
    0xa2bfe8a1, 0xa81a664b, 0xc24b8b70, 0xc76c51a3, 0xd192e819, 0xd6990624, 0xf40e3585, 0x106aa070,
    0x19a4c116, 0x1e376c08, 0x2748774c, 0x34b0bcb5, 0x391c0cb3, 0x4ed8aa4a, 0x5b9cca4f, 0x682e6ff3,
    0x748f82ee, 0x78a5636f, 0x84c87814, 0x8cc70208, 0x90befffa, 0xa4506ceb, 0xbef9a3f7, 0xc67178f2]

def rotate (word amount : UInt32) : UInt32 := (word >>> amount) ||| (word <<< (32 - amount))

/-- One round, with the round's word added to the schedule's. -/
def round (state : State) (word : UInt32) : State :=
  let choice := (state.e &&& state.f) ^^^ (~~~state.e &&& state.g)
  let majority := (state.a &&& state.b) ^^^ (state.a &&& state.c) ^^^ (state.b &&& state.c)
  let high := rotate state.a 2 ^^^ rotate state.a 13 ^^^ rotate state.a 22
  let low := rotate state.e 6 ^^^ rotate state.e 11 ^^^ rotate state.e 25
  let first := state.h + low + choice + word
  ⟨first + (high + majority), state.a, state.b, state.c, state.d + first, state.e, state.f, state.g⟩

/-- A word of the schedule from the sixteen before it. -/
def nextWord (window : List UInt32) : UInt32 :=
  let word := fun position : Nat => window.getD position 0
  let early := word 1
  let late := word 14
  word 0 + (rotate early 7 ^^^ rotate early 18 ^^^ (early >>> 3)) + word 9 +
    (rotate late 17 ^^^ rotate late 19 ^^^ (late >>> 10))

/-- Words of the schedule that begins with a window of sixteen. -/
def schedule : Nat → List UInt32 → List UInt32
  | 0, _ => []
  | _, [] => []
  | count + 1, first :: window =>
    first :: schedule count (window ++ [nextWord (first :: window)])

def State.add (left right : State) : State :=
  ⟨left.a + right.a, left.b + right.b, left.c + right.c, left.d + right.d, left.e + right.e,
    left.f + right.f, left.g + right.g, left.h + right.h⟩

/-- Mixes a block of sixteen words into the state. -/
def mix (state : State) (block : List UInt32) : State :=
  state.add ((List.zipWith (· + ·) roundWords (schedule 64 block)).foldl round state)

/-- The words that octets form, the first octet of each being the highest. -/
def words : List UInt8 → List UInt32
  | a :: b :: c :: d :: rest =>
    ((a.toUInt32 <<< 24) ||| (b.toUInt32 <<< 16) ||| (c.toUInt32 <<< 8) ||| d.toUInt32) ::
      words rest
  | _ => []

/-- Mixes in as many blocks of sixteen words as there are. -/
def mixBlocks : Nat → State → List UInt32 → State
  | 0, state, _ => state
  | count + 1, state, message => mixBlocks count (mix state (message.take 16)) (message.drop 16)

/-- The eight octets of a number, the highest first. -/
def octetsOf (number : Nat) : List UInt8 :=
  [56, 48, 40, 32, 24, 16, 8, 0].map fun shift : Nat => UInt8.ofNat (number >>> shift)

/-- The message, a bit that is set, zeros up to a whole number of blocks, and the message's length
in bits. -/
def padded (message : List UInt8) : List UInt8 :=
  message ++ [0x80] ++ List.replicate ((119 - message.length % 64) % 64) 0 ++
    octetsOf (8 * message.length)

/-- The digits of a word. -/
def wordText (word : UInt32) : List Char :=
  [28, 24, 20, 16, 12, 8, 4, 0].map fun shift : Nat =>
    Nat.digitChar (word.toNat >>> shift % 16)

def State.text (state : State) : String :=
  String.ofList ([state.a, state.b, state.c, state.d, state.e, state.f, state.g,
    state.h].flatMap wordText)

/-- The hash of a message, in hexadecimal digits. -/
def hexDigest (message : List UInt8) : String :=
  let octets := padded message
  (mixBlocks (octets.length / 64) initial (words octets)).text

end Conformance.Sha256
