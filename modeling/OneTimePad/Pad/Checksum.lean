import OneTimePad.Bytes.BigEndian
import OneTimePad.Hash.Crc32

/-!
# Transfer checksums

The checksum that travels with pad material: its length and its CRC-32.  It
finds accidents on the way, and keeps nobody from forging.
-/

namespace OneTimePad

/-- Length and CRC-32 of pad material. -/
structure Checksum where
  length : UInt64
  crc : Crc32.Register
deriving DecidableEq, Repr

namespace Checksum

/-- The octets of a written checksum. -/
def size : Nat := 12

/-- The checksum of data. -/
def compute (data : List UInt8) : Checksum :=
  ⟨UInt64.ofNat data.length, Crc32.checksum data⟩

/-- Whether data has this length and CRC-32. -/
def accepts (checksum : Checksum) (data : List UInt8) : Bool :=
  checksum.length == UInt64.ofNat data.length && Crc32.checksum data == checksum.crc

/-- The written form: the length in eight octets and the CRC-32 in four. -/
def toBytes (checksum : Checksum) : List UInt8 :=
  Bytes.ofNat 8 checksum.length.toNat ++ Bytes.ofNat 4 checksum.crc.toNat

/-- Read a written checksum. -/
def ofBytes? (bytes : List UInt8) : Option Checksum :=
  if bytes.length = size then
    some ⟨UInt64.ofNat (Bytes.toNat (bytes.take 8)), BitVec.ofNat 32 (Bytes.toNat (bytes.drop 8))⟩
  else none

@[simp]
theorem length_toBytes (checksum : Checksum) : checksum.toBytes.length = size := by
  simp [toBytes, size]

/-- Reading undoes writing. -/
@[simp]
theorem ofBytes?_toBytes (checksum : Checksum) : ofBytes? checksum.toBytes = some checksum := by
  have lengthFits : checksum.length.toNat < Bytes.capacity 8 := checksum.length.toNat_lt
  have crcFits : checksum.crc.toNat < Bytes.capacity 4 := checksum.crc.isLt
  have first : (checksum.toBytes).take 8 = Bytes.ofNat 8 checksum.length.toNat := by
    simp [toBytes]
  have second : (checksum.toBytes).drop 8 = Bytes.ofNat 4 checksum.crc.toNat := by
    simp [toBytes]
  rw [ofBytes?, if_pos (length_toBytes checksum), first, second, Bytes.toNat_ofNat lengthFits,
    Bytes.toNat_ofNat crcFits]
  simp

end Checksum

end OneTimePad
