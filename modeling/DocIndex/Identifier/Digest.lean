/-!
# Digests

The 160-bit secure hash of a sequence of bytes: the message is padded to blocks of 64 bytes, and
every block is mixed into a state of five words in 80 rounds.
-/

namespace DocIndex.Identifier

/-- The five words of the state. -/
structure Digest where
  a : UInt32
  b : UInt32
  c : UInt32
  d : UInt32
  e : UInt32
  deriving DecidableEq, Repr

namespace Digest

/-- The state before the first block. -/
def start : Digest := ⟨0x67452301, 0xEFCDAB89, 0x98BADCFE, 0x10325476, 0xC3D2E1F0⟩

/-- The given number of bytes of a number, the most significant first. -/
def bigEndian : Nat → Nat → List UInt8
  | 0, _ => []
  | width + 1, number => bigEndian width (number / 256) ++ [UInt8.ofNat (number % 256)]

/-- A message with the bit, the zeros and the length that fill its last block. -/
def padded (message : List UInt8) : List UInt8 :=
  let zeros := (55 + 64 - message.length % 64) % 64
  message ++ 0x80 :: List.replicate zeros 0 ++ bigEndian 8 (8 * message.length)

/-- The words that bytes make in fours, the most significant byte first. -/
def words : List UInt8 → List UInt32
  | a :: b :: c :: d :: later =>
    (a.toUInt32 <<< 24 ||| b.toUInt32 <<< 16 ||| c.toUInt32 <<< 8 ||| d.toUInt32) :: words later
  | _ => []

/-- A word turned to the left by a number of bits between 1 and 31. -/
def rotate (word bits : UInt32) : UInt32 := word <<< bits ||| word >>> (32 - bits)

/--
The given number of further words of the schedule. `recent` are the last 16 words or more, the
latest first.
-/
def extendSchedule : Nat → List UInt32 → List UInt32
  | 0, recent => recent
  | count + 1, recent =>
    let word (back : Nat) : UInt32 := recent.getD (back - 1) 0
    extendSchedule count (rotate (word 3 ^^^ word 8 ^^^ word 14 ^^^ word 16) 1 :: recent)

/-- The 80 words by which a block of 16 words is mixed in. -/
def schedule (block : List UInt32) : List UInt32 := (extendSchedule 64 block.reverse).reverse

/-- The mixing function and the constant of a round. -/
def roundMix (round : Nat) (b c d : UInt32) : UInt32 × UInt32 :=
  if round < 20 then ((b &&& c) ||| (~~~b &&& d), 0x5A827999)
  else if round < 40 then (b ^^^ c ^^^ d, 0x6ED9EBA1)
  else if round < 60 then ((b &&& c) ||| (b &&& d) ||| (c &&& d), 0x8F1BBCDC)
  else (b ^^^ c ^^^ d, 0xCA62C1D6)

/-- The state after the rounds from `round` on, one for each word. -/
def rounds (round : Nat) (state : Digest) : List UInt32 → Digest
  | [] => state
  | word :: later =>
    let (mixed, constant) := roundMix round state.b state.c state.d
    let first := rotate state.a 5 + mixed + state.e + constant + word
    rounds (round + 1) ⟨first, state.a, rotate state.b 30, state.c, state.d⟩ later

/-- The state after a block of 16 words. -/
def absorb (state : Digest) (block : List UInt32) : Digest :=
  let mixed := rounds 0 state (schedule block)
  ⟨state.a + mixed.a, state.b + mixed.b, state.c + mixed.c, state.d + mixed.d, state.e + mixed.e⟩

/-- The state after the given number of blocks of 16 words. -/
def absorbBlocks : Nat → Digest → List UInt32 → Digest
  | 0, state, _ => state
  | count + 1, state, message =>
    absorbBlocks count (state.absorb (message.take 16)) (message.drop 16)

/-- The hash of a message. -/
def ofMessage (message : List UInt8) : Digest :=
  let message := words (padded message)
  absorbBlocks (message.length / 16) start message

/-- The 20 bytes of a hash. -/
def bytes (digest : Digest) : List UInt8 :=
  [digest.a, digest.b, digest.c, digest.d, digest.e].flatMap fun word => bigEndian 4 word.toNat

end Digest

end DocIndex.Identifier
