import OneTimePad.Bytes.BigEndian
import OneTimePad.Checked
import OneTimePad.Number.Binary64

/-!
# The random numbers of a simulation

A simulation draws all its chances from one stream of words, so the same seed
gives the same run.  The stream is the key stream of ChaCha with eight rounds;
the key is stretched from the seed.  From the stream come words of twice the
size, octets, chances, and numbers below a bound.
-/

namespace OneTimePad

/-! ## The key stream -/

namespace ChaCha

/-- The sixteen words of a block. -/
abbrev Block := Vector UInt32 16

/-- Turn a word to the left. -/
def rotate (word : UInt32) (count : UInt32) : UInt32 :=
  (word <<< count) ||| (word >>> (32 - count))

/-- Stir four words of a block. -/
def quarterRound (block : Block) (ia ib ic id : Fin 16) : Block :=
  let a := block[ia] + block[ib]
  let d := rotate (block[id] ^^^ a) 16
  let c := block[ic] + d
  let b := rotate (block[ib] ^^^ c) 12
  let a := a + b
  let d := rotate (d ^^^ a) 8
  let c := c + d
  let b := rotate (b ^^^ c) 7
  (((block.set ia a).set ib b).set ic c).set id d

/-- Stir the columns of a block, and then its diagonals. -/
def doubleRound (block : Block) : Block :=
  let block := quarterRound block 0 4 8 12
  let block := quarterRound block 1 5 9 13
  let block := quarterRound block 2 6 10 14
  let block := quarterRound block 3 7 11 15
  let block := quarterRound block 0 5 10 15
  let block := quarterRound block 1 6 11 12
  let block := quarterRound block 2 7 8 13
  quarterRound block 3 4 9 14

/-- A key of eight words. -/
abbrev Key := Vector UInt32 8

/-- The block that is stirred for the block number `index` of the stream. -/
def initial (key : Key) (index : UInt64) : Block :=
  #v[0x61707865, 0x3320646e, 0x79622d32, 0x6b206574,
    key[0], key[1], key[2], key[3], key[4], key[5], key[6], key[7],
    index.toUInt32, (index >>> 32).toUInt32, 0, 0]

/-- A block of the stream. -/
def block (key : Key) (index : UInt64) : Block :=
  let start := initial key index
  start.zipWith (· + ·) (doubleRound (doubleRound (doubleRound (doubleRound start))))

end ChaCha

/-! ## The generator -/

/-- A place in the key stream of a key. -/
structure Generator where
  key : ChaCha.Key
  /-- The number of the next block. -/
  next : UInt64
  /-- The words of the last block that are not yet drawn. -/
  pending : List UInt32
deriving DecidableEq, Repr

namespace Generator

/-- The linear step that stretches a seed. -/
def stretch (state : UInt64) : UInt64 :=
  state * 6364136223846793005 + 11634580027462260723

/-- The word that a stretched state yields. -/
def scramble (state : UInt64) : UInt32 :=
  let mixed := (((state >>> 18) ^^^ state) >>> 27).toUInt32
  let turn := (state >>> 59).toUInt32
  (mixed >>> turn) ||| (mixed <<< ((32 - turn) % 32))

/-- The states that follow a seed, `count` many. -/
def states : (count : Nat) → UInt64 → List UInt64
  | 0, _ => []
  | count + 1, state => stretch state :: states count (stretch state)

/-- The generator of a seed. -/
def ofSeed (seed : UInt64) : Generator :=
  let words := (states 8 seed).map scramble
  { key := Vector.ofFn fun index => words.getD index.val 0, next := 0, pending := [] }

/-- Draw a word. -/
def word (generator : Generator) : UInt32 × Generator :=
  match generator.pending with
  | first :: pending => (first, { generator with pending })
  | [] =>
      let block := ChaCha.block generator.key generator.next
      (block[0], { generator with next := generator.next + 1, pending := block.toList.drop 1 })

/-- Draw a word of twice the size, the low half first. -/
def double (generator : Generator) : UInt64 × Generator :=
  let (low, generator) := generator.word
  let (high, generator) := generator.word
  (low.toUInt64 ||| (high.toUInt64 <<< 32), generator)

/-- The octets of a word, the lowest one first. -/
def octets (word : UInt32) : List UInt8 :=
  (Bytes.ofNat 4 word.toNat).reverse

/-- Draw words, `count` many, and put them before those drawn already, which
are in reverse. -/
def words : (count : Nat) → List UInt32 → Generator → List UInt32 × Generator
  | 0, drawn, generator => (drawn.reverse, generator)
  | count + 1, drawn, generator =>
      let (word, generator) := generator.word
      words count (word :: drawn) generator

/-- Draw octets.  What is left of the last word is dropped. -/
def bytes (generator : Generator) (count : Nat) : List UInt8 × Generator :=
  let (drawn, generator) := words ((count + 3) / 4) [] generator
  ((drawn.flatMap octets).take count, generator)

/-- Draw a chance with the given probability.  Certainty draws nothing. -/
def chance (generator : Generator) (probability : Binary64) : Bool × Generator :=
  if probability.magnitude = Binary64.one then (true, generator)
  else
    let (drawn, generator) := generator.double
    (decide (drawn.toNat < probability.timesWordRange), generator)

/-- The greatest low half of a product that still gives all numbers below
`bound` the same chance. -/
def zone (bound : Nat) : Nat :=
  ((bound <<< (63 - Nat.log2 bound)) - 1) % wordLimit

/-- Draw a number below a positive bound.  Draws that would favour some numbers
are rejected; nothing is answered if all of `turns` draws are. -/
def below (bound : Nat) : (turns : Nat) → Generator → Option (Nat × Generator)
  | 0, _ => none
  | turns + 1, generator =>
      let (drawn, generator) := generator.double
      let product := drawn.toNat * bound
      if product % wordLimit ≤ zone bound then some (product / wordLimit, generator)
      else below bound turns generator

end Generator

end OneTimePad
