import OneTimePad.Authenticator.BinaryField
import OneTimePad.Bytes.BigEndian
import OneTimePad.Checked

/-!
# One-time authenticator

A tag has two halves, and each half has its own key: a point of the field and
a mask.  The header and the ciphertext of a frame are hashed as one stream of
sixteen-octet blocks, closed by a block with both lengths.  The hash is the
value of a polynomial at the key's point, and the mask hides it.  As long as no
key is used for a second frame, who does not know the key can only guess.

`hash` and `tag` are the mathematics of it.  `sign` and `verify` are what
frames use: they take the key as octets, and check that the stream has a size.
-/

namespace OneTimePad.Authenticator

open BinaryField

/-! ## Keys and tags -/

/-- The octets of a key. -/
def keySize : Nat := 64

/-- The octets of a tag. -/
def tagSize : Nat := 32

/-- The octets of a block, and of a field element. -/
def blockSize : Nat := 16

/-- The field element that octets stand for, the first octet being the highest
one. -/
def load (bytes : List UInt8) : Element :=
  BitVec.ofNat 128 (Bytes.toNat bytes)

/-- The octets of a field element. -/
def store (element : Element) : List UInt8 :=
  Bytes.ofNat blockSize element.toNat

/-- A one-time key: a point and a mask for either half of the tag. -/
structure Key where
  leftPoint : Element
  rightPoint : Element
  leftMask : Element
  rightMask : Element
deriving DecidableEq, Repr

/-- The two halves of a tag. -/
structure Tag where
  left : Element
  right : Element
deriving DecidableEq, Repr

/-- Read a key, which has to have its size. -/
def Key.ofBytes? (bytes : List UInt8) : Option Key :=
  if bytes.length = keySize then
    some
      { leftPoint := load (bytes.take 16)
        rightPoint := load ((bytes.drop 16).take 16)
        leftMask := load ((bytes.drop 32).take 16)
        rightMask := load ((bytes.drop 48).take 16) }
  else none

/-- The octets of a key. -/
def Key.toBytes (key : Key) : List UInt8 :=
  store key.leftPoint ++ store key.rightPoint ++ store key.leftMask ++ store key.rightMask

/-- Read a tag, which has to have its size. -/
def Tag.ofBytes? (bytes : List UInt8) : Option Tag :=
  if bytes.length = tagSize then
    some { left := load (bytes.take 16), right := load ((bytes.drop 16).take 16) }
  else none

/-- Copy a key from octets.  Any other size is a fault. -/
def Key.copy (bytes : List UInt8) : Checked Key :=
  match Key.ofBytes? bytes with
  | some key => .ok key
  | none => .error (.copyLength bytes.length keySize)

/-- Copy a tag from octets.  Any other size is a fault. -/
def Tag.copy (bytes : List UInt8) : Checked Tag :=
  match Tag.ofBytes? bytes with
  | some tag => .ok tag
  | none => .error (.copyLength bytes.length tagSize)

/-- The octets of a tag. -/
def Tag.toBytes (tag : Tag) : List UInt8 :=
  store tag.left ++ store tag.right

@[simp]
theorem length_store (element : Element) : (store element).length = blockSize := by
  simp [store]

@[simp]
theorem load_store (element : Element) : load (store element) = element := by
  have fits : element.toNat < Bytes.capacity blockSize := element.isLt
  simp [load, store, Bytes.toNat_ofNat fits]

theorem store_load {bytes : List UInt8} (size : bytes.length = blockSize) :
    store (load bytes) = bytes := by
  have fits := Bytes.toNat_lt bytes
  have same := Bytes.ofNat_toNat bytes
  rw [size] at fits same
  have inWord : Bytes.toNat bytes < 2 ^ 128 := fits
  rw [store, load, BitVec.toNat_ofNat, Nat.mod_eq_of_lt inWord, same]

@[simp]
theorem Tag.length_toBytes (tag : Tag) : tag.toBytes.length = tagSize := by
  simp [Tag.toBytes, blockSize, tagSize]

@[simp]
theorem Tag.ofBytes?_toBytes (tag : Tag) : Tag.ofBytes? tag.toBytes = some tag := by
  have left : (store tag.left).length = 16 := length_store _
  have right : (store tag.right).length = 16 := length_store _
  simp [Tag.ofBytes?, Tag.toBytes, tagSize, left, right, List.take_of_length_le]

theorem Tag.toBytes_of_ofBytes? {bytes : List UInt8} {tag : Tag}
    (read : Tag.ofBytes? bytes = some tag) : tag.toBytes = bytes := by
  unfold Tag.ofBytes? at read
  split at read
  · rename_i size
    have taken : (bytes.take 16).length = blockSize := by
      simp [size, tagSize, blockSize]
    have dropped : (bytes.drop 16).length = blockSize := by
      simp [size, tagSize, blockSize]
    have all : (bytes.drop 16).take 16 = bytes.drop 16 :=
      List.take_of_length_le (Nat.le_of_eq dropped)
    rw [all] at read
    cases read
    simp [Tag.toBytes, store_load taken, store_load dropped]
  · cases read

/-! ## Hashing -/

/-- The element of a block, which is filled up with zero octets. -/
def loadBlock (block : List UInt8) : Element :=
  load (block ++ List.replicate (blockSize - block.length) 0)

/-- The first `count` blocks of a stream. -/
def takeBlocks : (count : Nat) → List UInt8 → List Element
  | 0, _ => []
  | count + 1, stream =>
      loadBlock (stream.take blockSize) :: takeBlocks count (stream.drop blockSize)

/-- How many blocks a stream of this length has. -/
def blockCount (length : Nat) : Nat :=
  (length + 15) / blockSize

/-- The blocks of a stream, the last one filled up. -/
def blocks (stream : List UInt8) : List Element :=
  takeBlocks (blockCount stream.length) stream

/-- The block with the lengths of both parts in bits, each in a word of its
own. -/
def lengthBlock (header ciphertext : List UInt8) : Element :=
  BitVec.ofNat 64 (header.length * 8) ++ BitVec.ofNat 64 (ciphertext.length * 8)

/-- Take one more block into a hash. -/
def absorb (point : Element) (hash block : Element) : Element :=
  mul (hash ^^^ block) point

/-- The hash of header and ciphertext at a point. -/
def hash (point : Element) (header ciphertext : List UInt8) : Element :=
  absorb point ((blocks (header ++ ciphertext)).foldl (absorb point) 0)
    (lengthBlock header ciphertext)

/-- The tag of header and ciphertext under a key. -/
def tag (key : Key) (header ciphertext : List UInt8) : Tag :=
  { left := hash key.leftPoint header ciphertext ^^^ key.leftMask
    right := hash key.rightPoint header ciphertext ^^^ key.rightMask }

/-! ## Signing and verifying -/

/-- The tag of header and ciphertext under a key that is given as octets.  A
key of another size, or parts that together are longer than any byte string,
are faults. -/
def sign (key header ciphertext : List UInt8) : Checked Tag := do
  let key ← Key.copy key
  let _ ← Size.add header.length ciphertext.length
  return tag key header ciphertext

/-- Whether a tag belongs to header and ciphertext.  A key or a tag of the wrong
size does not verify. -/
def verify (key header ciphertext expected : List UInt8) : Checked Bool := do
  if key.length ≠ keySize ∨ expected.length ≠ tagSize then return false
  let actual ← sign key header ciphertext
  return actual.toBytes == expected

end OneTimePad.Authenticator
