/-!
# The CRC-32 checksum

The reflected checksum of ISO 3309.  A register of thirty-two bits takes in the
data bit by bit; `feed` is that single step.  The checksum itself takes a whole
octet at a time, with the help of a table that holds what eight steps do to
each value of the lowest octet.
-/

namespace OneTimePad.Crc32

/-- The register that takes in the data. -/
abbrev Register := BitVec 32

/-- The polynomial, with its bits reflected. -/
def polynomial : Register := 0xedb88320#32

/-- Take in one bit of data: shift, and add the polynomial when the bit that
is shifted out differs from the bit of data. -/
def feed (register : Register) (bit : Bool) : Register :=
  if register.getLsbD 0 != bit then (register >>> 1) ^^^ polynomial else register >>> 1

/-- Eight steps without data. -/
def shiftOctet (register : Register) : Register :=
  (List.replicate 8 false).foldl feed register

/-- What eight steps do to each octet. -/
def table : Vector Register 256 :=
  Vector.ofFn fun octet => shiftOctet (BitVec.ofNat 32 octet.val)

/-- Take in one octet of data. -/
def feedOctet (register : Register) (byte : UInt8) : Register :=
  have inTable : ((register ^^^ BitVec.ofNat 32 byte.toNat).toNat % 256) < 256 :=
    Nat.mod_lt _ (by decide)
  table[(register ^^^ BitVec.ofNat 32 byte.toNat).toNat % 256] ^^^ (register >>> 8)

/-- The register before any data. -/
def start : Register := 0xffffffff#32

/-- The checksum of data. -/
def checksum (data : List UInt8) : Register :=
  data.foldl feedOctet start ^^^ start

end OneTimePad.Crc32
