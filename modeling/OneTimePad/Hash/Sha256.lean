import OneTimePad.Bytes.BigEndian

/-!
# SHA-256

The message is closed by a one bit, zeros, and its length in bits, and then
taken in blocks of 64 octets.  Each block is stretched to sixty-four words,
which stir the eight words of the state one after the other.

The digest is a fixed function to thirty-two octets; that count is the only
property other modules rely on.
-/

namespace OneTimePad.Sha256

/-- The eight words that the blocks stir. -/
structure State where
  a : UInt32
  b : UInt32
  c : UInt32
  d : UInt32
  e : UInt32
  f : UInt32
  g : UInt32
  h : UInt32
deriving DecidableEq, Repr

/-- The state before the first block. -/
def start : State :=
  ⟨0x6a09e667, 0xbb67ae85, 0x3c6ef372, 0xa54ff53a,
    0x510e527f, 0x9b05688c, 0x1f83d9ab, 0x5be0cd19⟩

/-- The constants of the sixty-four rounds. -/
def roundConstants : List UInt32 :=
  [0x428a2f98, 0x71374491, 0xb5c0fbcf, 0xe9b5dba5, 0x3956c25b, 0x59f111f1, 0x923f82a4, 0xab1c5ed5,
    0xd807aa98, 0x12835b01, 0x243185be, 0x550c7dc3, 0x72be5d74, 0x80deb1fe, 0x9bdc06a7, 0xc19bf174,
    0xe49b69c1, 0xefbe4786, 0x0fc19dc6, 0x240ca1cc, 0x2de92c6f, 0x4a7484aa, 0x5cb0a9dc, 0x76f988da,
    0x983e5152, 0xa831c66d, 0xb00327c8, 0xbf597fc7, 0xc6e00bf3, 0xd5a79147, 0x06ca6351, 0x14292967,
    0x27b70a85, 0x2e1b2138, 0x4d2c6dfc, 0x53380d13, 0x650a7354, 0x766a0abb, 0x81c2c92e, 0x92722c85,
    0xa2bfe8a1, 0xa81a664b, 0xc24b8b70, 0xc76c51a3, 0xd192e819, 0xd6990624, 0xf40e3585, 0x106aa070,
    0x19a4c116, 0x1e376c08, 0x2748774c, 0x34b0bcb5, 0x391c0cb3, 0x4ed8aa4a, 0x5b9cca4f, 0x682e6ff3,
    0x748f82ee, 0x78a5636f, 0x84c87814, 0x8cc70208, 0x90befffa, 0xa4506ceb, 0xbef9a3f7, 0xc67178f2]

/-- Turn a word to the right. -/
def rotate (word : UInt32) (count : UInt32) : UInt32 :=
  (word >>> count) ||| (word <<< (32 - count))

/-- One round. -/
def round (state : State) (step : UInt32 × UInt32) : State :=
  let (constant, word) := step
  let stirE := rotate state.e 6 ^^^ rotate state.e 11 ^^^ rotate state.e 25
  let choice := (state.e &&& state.f) ^^^ (~~~state.e &&& state.g)
  let first := state.h + stirE + choice + constant + word
  let stirA := rotate state.a 2 ^^^ rotate state.a 13 ^^^ rotate state.a 22
  let majority := (state.a &&& state.b) ^^^ (state.a &&& state.c) ^^^ (state.b &&& state.c)
  { a := first + (stirA + majority), b := state.a, c := state.b, d := state.c
    e := state.d + first, f := state.e, g := state.f, h := state.g }

/-- The word that follows the words so far, of which there are at least
sixteen. -/
def nextWord (words : Array UInt32) : UInt32 :=
  let back (distance : Nat) := words.getD (words.size - distance) 0
  let early := back 15
  let late := back 2
  back 16 + (rotate early 7 ^^^ rotate early 18 ^^^ (early >>> 3)) +
    back 7 + (rotate late 17 ^^^ rotate late 19 ^^^ (late >>> 10))

/-- Stretch the sixteen words of a block to sixty-four. -/
def schedule (words : Array UInt32) : Array UInt32 :=
  (List.range 48).foldl (fun words _ => words.push (nextWord words)) words

/-- Word-wise sum of two states. -/
def State.add (left right : State) : State :=
  { a := left.a + right.a, b := left.b + right.b, c := left.c + right.c, d := left.d + right.d
    e := left.e + right.e, f := left.f + right.f, g := left.g + right.g, h := left.h + right.h }

/-- The words that octets stand for, four octets a word. -/
def toWords : List UInt8 → List UInt32
  | first :: second :: third :: fourth :: rest =>
      (first.toUInt32 <<< 24 ||| second.toUInt32 <<< 16 ||| third.toUInt32 <<< 8 |||
        fourth.toUInt32) :: toWords rest
  | _ => []

/-- Stir one block into the state. -/
def absorb (state : State) (block : List UInt8) : State :=
  let words := schedule (toWords block).toArray
  state.add ((roundConstants.zip words.toList).foldl round state)

/-- What closes a message of this length: one bit, zeros, and the length in
bits. -/
def closing (length : Nat) : List UInt8 :=
  0x80 :: List.replicate ((119 - length % 64) % 64) 0 ++ Bytes.ofNat 8 (8 * length)

/-- Stir as many blocks as `count` says. -/
def absorbBlocks : (count : Nat) → State → List UInt8 → State
  | 0, state, _ => state
  | count + 1, state, bytes => absorbBlocks count (absorb state (bytes.take 64)) (bytes.drop 64)

/-- The octets of a state. -/
def State.toBytes (state : State) : List UInt8 :=
  [state.a, state.b, state.c, state.d, state.e, state.f, state.g, state.h].flatMap
    fun word => Bytes.ofNat 4 word.toNat

/-- The digest of a message. -/
def digest (message : List UInt8) : List UInt8 :=
  let closed := message ++ closing message.length
  (absorbBlocks (closed.length / 64) start closed).toBytes

@[simp]
theorem length_digest (message : List UInt8) : (digest message).length = 32 := by
  simp [digest, State.toBytes]

end OneTimePad.Sha256
