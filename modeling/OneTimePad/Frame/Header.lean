import OneTimePad.Bytes.BigEndian
import OneTimePad.Frame.Error

/-!
# Frame headers

A header says where the key material of a frame begins in the message region,
and how long the ciphertext is.  Every ten octets are a header, so reading one
fails only for want of octets.
-/

namespace OneTimePad

/-- Offset and ciphertext length of a frame. -/
structure Header where
  offset : UInt64
  length : UInt16
deriving DecidableEq, Repr

namespace Header

/-- The octets of a written header. -/
def size : Nat := 10

/-- The written form: the offset in eight octets and the length in two. -/
def toBytes (header : Header) : List UInt8 :=
  Bytes.ofNat 8 header.offset.toNat ++ Bytes.ofNat 2 header.length.toNat

/-- Read a header from the front of octets. -/
def ofBytes (bytes : List UInt8) : Except FrameError Header :=
  if bytes.length < size then .error (.frameTooShort size bytes.length)
  else
    .ok
      { offset := UInt64.ofNat (Bytes.toNat (bytes.take 8))
        length := UInt16.ofNat (Bytes.toNat ((bytes.drop 8).take 2)) }

/-- A header as diagnostic texts show it. -/
def describe (header : Header) : String :=
  let offset := header.offset.toNat
  let length := header.length.toNat
  s!"FrameHeader \x7b offset: {offset}, length: {length} \x7d"

@[simp]
theorem length_toBytes (header : Header) : header.toBytes.length = size := by
  simp [toBytes, size]

/-- Reading undoes writing, whatever follows the header. -/
theorem ofBytes_toBytes_append (header : Header) (rest : List UInt8) :
    ofBytes (header.toBytes ++ rest) = .ok header := by
  have offsetFits : header.offset.toNat < Bytes.capacity 8 := header.offset.toNat_lt
  have lengthFits : header.length.toNat < Bytes.capacity 2 := header.length.toNat_lt
  have enough : ¬ (header.toBytes ++ rest).length < size := by
    simp
  have first : (header.toBytes ++ rest).take 8 = Bytes.ofNat 8 header.offset.toNat := by
    simp [toBytes]
  have second : ((header.toBytes ++ rest).drop 8).take 2 =
      Bytes.ofNat 2 header.length.toNat := by
    simp [toBytes]
  rw [ofBytes, if_neg enough, first, second, Bytes.toNat_ofNat offsetFits,
    Bytes.toNat_ofNat lengthFits]
  simp

/-- Writing undoes reading, up to what follows the header. -/
theorem toBytes_of_ofBytes {bytes : List UInt8} {header : Header}
    (read : ofBytes bytes = .ok header) : header.toBytes = bytes.take size := by
  unfold ofBytes at read
  split at read
  · cases read
  · rename_i enough
    cases read
    have offset := Bytes.ofNat_toNat (bytes.take 8)
    have length := Bytes.ofNat_toNat ((bytes.drop 8).take 2)
    have offsetFits := Bytes.toNat_lt (bytes.take 8)
    have lengthFits := Bytes.toNat_lt ((bytes.drop 8).take 2)
    have offsetSize : (bytes.take 8).length = 8 := by
      simp [size] at enough ⊢
      omega
    have lengthSize : ((bytes.drop 8).take 2).length = 2 := by
      simp [size] at enough ⊢
      omega
    rw [offsetSize] at offset offsetFits
    rw [lengthSize] at length lengthFits
    have both : bytes.take (8 + 2) = bytes.take 8 ++ (bytes.drop 8).take 2 := List.take_add
    change _ = bytes.take (8 + 2)
    rw [toBytes, UInt64.toNat_ofNat_of_lt' offsetFits, UInt16.toNat_ofNat_of_lt' lengthFits, offset,
      length, both]

end Header

end OneTimePad
