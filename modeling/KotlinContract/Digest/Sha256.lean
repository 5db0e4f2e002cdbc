import KotlinContract.Text.Hex

/-!
# SHA-256

The digest of FIPS 180-4. A message is padded to whole blocks of sixteen words; each block is
extended to a schedule of sixty-four words, which are folded into the eight words of the state
one round at a time. The definitions follow the standard and are written over lists.
-/
namespace KotlinContract.Digest

/-- The first 32 bits of the fractional parts of the cube roots of the first 64 primes. -/
def roundConstants : List UInt32 := [
  0x428a2f98, 0x71374491, 0xb5c0fbcf, 0xe9b5dba5, 0x3956c25b, 0x59f111f1,
  0x923f82a4, 0xab1c5ed5, 0xd807aa98, 0x12835b01, 0x243185be, 0x550c7dc3,
  0x72be5d74, 0x80deb1fe, 0x9bdc06a7, 0xc19bf174, 0xe49b69c1, 0xefbe4786,
  0x0fc19dc6, 0x240ca1cc, 0x2de92c6f, 0x4a7484aa, 0x5cb0a9dc, 0x76f988da,
  0x983e5152, 0xa831c66d, 0xb00327c8, 0xbf597fc7, 0xc6e00bf3, 0xd5a79147,
  0x06ca6351, 0x14292967, 0x27b70a85, 0x2e1b2138, 0x4d2c6dfc, 0x53380d13,
  0x650a7354, 0x766a0abb, 0x81c2c92e, 0x92722c85, 0xa2bfe8a1, 0xa81a664b,
  0xc24b8b70, 0xc76c51a3, 0xd192e819, 0xd6990624, 0xf40e3585, 0x106aa070,
  0x19a4c116, 0x1e376c08, 0x2748774c, 0x34b0bcb5, 0x391c0cb3, 0x4ed8aa4a,
  0x5b9cca4f, 0x682e6ff3, 0x748f82ee, 0x78a5636f, 0x84c87814, 0x8cc70208,
  0x90befffa, 0xa4506ceb, 0xbef9a3f7, 0xc67178f2]

/-- The eight words that are carried from block to block. -/
structure State where
  /-- First word. -/
  a : UInt32
  /-- Second word. -/
  b : UInt32
  /-- Third word. -/
  c : UInt32
  /-- Fourth word. -/
  d : UInt32
  /-- Fifth word. -/
  e : UInt32
  /-- Sixth word. -/
  f : UInt32
  /-- Seventh word. -/
  g : UInt32
  /-- Eighth word. -/
  h : UInt32
  deriving DecidableEq

/-- The first 32 bits of the fractional parts of the square roots of the first 8 primes. -/
def State.initial : State :=
  ⟨0x6a09e667, 0xbb67ae85, 0x3c6ef372, 0xa54ff53a,
    0x510e527f, 0x9b05688c, 0x1f83d9ab, 0x5be0cd19⟩

/-- Rotate a word to the right by a count below 32. -/
def rotate (count word : UInt32) : UInt32 := (word >>> count) ||| (word <<< (32 - count))

/-- The mixing of a schedule word fifteen places back. -/
def smallSigma0 (word : UInt32) : UInt32 := rotate 7 word ^^^ rotate 18 word ^^^ (word >>> 3)

/-- The mixing of a schedule word two places back. -/
def smallSigma1 (word : UInt32) : UInt32 := rotate 17 word ^^^ rotate 19 word ^^^ (word >>> 10)

/-- The mixing of the first state word. -/
def bigSigma0 (word : UInt32) : UInt32 := rotate 2 word ^^^ rotate 13 word ^^^ rotate 22 word

/-- The mixing of the fifth state word. -/
def bigSigma1 (word : UInt32) : UInt32 := rotate 6 word ^^^ rotate 11 word ^^^ rotate 25 word

/-- Take each bit from the second word or from the third, as the first one says. -/
def choose (x y z : UInt32) : UInt32 := (x &&& y) ^^^ (~~~x &&& z)

/-- Take each bit that two of three words agree on. -/
def majority (x y z : UInt32) : UInt32 := (x &&& y) ^^^ (x &&& z) ^^^ (y &&& z)

/-- The big-endian bytes of the low 64 bits of a number. -/
def lengthBytes (n : Nat) : List UInt8 :=
  [56, 48, 40, 32, 24, 16, 8, 0].map fun shift => UInt8.ofNat (n >>> shift)

/-- How many zero bytes padding writes for a message of so many bytes. -/
def paddingZeros (length : Nat) : Nat := (119 - length % 64) % 64

/-- A message with the padding that fills its last block: a one bit, zeros, and its length in
bits. -/
def padded (message : List UInt8) : List UInt8 :=
  message ++ 0x80 :: List.replicate (paddingZeros message.length) 0 ++
    lengthBytes (8 * message.length)

/-- Whole blocks come out of padding. -/
theorem length_padded_mod (message : List UInt8) : (padded message).length % 64 = 0 := by
  simp only [padded, lengthBytes, paddingZeros, List.length_append, List.length_cons,
    List.length_replicate, List.length_map, List.length_nil]
  omega

/-- The words that bytes form, four bytes each with the first one highest. -/
def wordsOf : List UInt8 → List UInt32
  | a :: b :: c :: d :: rest =>
    (a.toUInt32 <<< 24 ||| b.toUInt32 <<< 16 ||| c.toUInt32 <<< 8 ||| d.toUInt32) ::
      wordsOf rest
  | _ => []

/-- The next words of a schedule, from its last sixteen words in order. -/
def extendSchedule : (count : Nat) → List UInt32 → List UInt32
  | 0, _ => []
  | count + 1, window =>
    let word := window.getD 0 0 + smallSigma0 (window.getD 1 0) + window.getD 9 0 +
      smallSigma1 (window.getD 14 0)
    word :: extendSchedule count (window.tail ++ [word])

/-- The sixty-four words of a block. -/
def schedule (block : List UInt32) : List UInt32 := block ++ extendSchedule 48 block

/-- One round, with its constant and its schedule word. -/
def round (state : State) (input : UInt32 × UInt32) : State :=
  let first := state.h + bigSigma1 state.e + choose state.e state.f state.g + input.1 + input.2
  let second := bigSigma0 state.a + majority state.a state.b state.c
  ⟨first + second, state.a, state.b, state.c, state.d + first, state.e, state.f, state.g⟩

/-- Fold one block into the state. -/
def compress (state : State) (block : List UInt32) : State :=
  let last := (roundConstants.zip (schedule block)).foldl round state
  ⟨state.a + last.a, state.b + last.b, state.c + last.c, state.d + last.d,
    state.e + last.e, state.f + last.f, state.g + last.g, state.h + last.h⟩

/-- Fold so many blocks of sixteen words into the state. -/
def absorb : (count : Nat) → State → List UInt32 → State
  | 0, state, _ => state
  | count + 1, state, words => absorb count (compress state (words.take 16)) (words.drop 16)

/-- The state after a message. -/
def digest (message : List UInt8) : State :=
  let words := wordsOf (padded message)
  absorb (words.length / 16) .initial words

/-- The words of the state as hexadecimal digits. -/
def State.hex (state : State) : String :=
  String.ofList ([state.a, state.b, state.c, state.d, state.e, state.f, state.g, state.h].flatMap
    fun word => Text.hexDigits 8 word.toNat)

/-- The hexadecimal digest of the UTF-8 bytes of a text. -/
def hexDigest (text : String) : String := (digest text.toUTF8.toList).hex

end KotlinContract.Digest
