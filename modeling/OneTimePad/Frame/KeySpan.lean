import OneTimePad.Bytes.Slice
import OneTimePad.Frame.Error
import OneTimePad.Authenticator.Basic

/-!
# The key material of a frame

A frame consumes one run of octets of the message region: as many as its
ciphertext has for the cipher, and right after them the one-time key of the
authenticator.
-/

namespace OneTimePad

/-- Where the key material of a frame begins, and the length of the
ciphertext it is for. -/
structure KeySpan where
  offset : UInt64
  cipherLength : Nat
deriving DecidableEq, Repr

namespace KeySpan

/-- How many octets are consumed. -/
def consumed (span : KeySpan) : Checked Nat :=
  Size.add span.cipherLength Authenticator.keySize

/-- The positions that are consumed, from the first up to and without the
second, in a region of the given length. -/
def locate (span : KeySpan) (regionLength : Nat) : Attempt FrameError (Nat × Nat) := do
  let length ← span.consumed
  let start := span.offset.toNat
  if regionLength < start + length then
    throw (.offsetOutOfRange start length regionLength)
  return (start, start + length)

/-- The key of the cipher and the key of the authenticator. -/
def keys (span : KeySpan) (region : List UInt8) :
    Attempt FrameError (List UInt8 × List UInt8) := do
  let (start, stop) ← span.locate region.length
  let material ← Bytes.slice region start stop
  Bytes.split material span.cipherLength

section Fitting

variable {span : KeySpan} {regionLength : Nat}
  (fits : span.cipherLength + Authenticator.keySize < wordLimit)

include fits

theorem consumed_eq_ok : span.consumed = .ok (span.cipherLength + Authenticator.keySize) :=
  Size.add_eq_ok_iff.mpr ⟨rfl, fits⟩

theorem locate_eq_pure
    (inside : span.offset.toNat + (span.cipherLength + Authenticator.keySize) ≤ regionLength) :
    span.locate regionLength =
      pure (span.offset.toNat, span.offset.toNat + (span.cipherLength + Authenticator.keySize)) := by
  have notOut : ¬ regionLength <
      span.offset.toNat + (span.cipherLength + Authenticator.keySize) := Nat.not_lt_of_le inside
  simp [locate, consumed_eq_ok fits, notOut]

theorem locate_eq_throw
    (out : regionLength < span.offset.toNat + (span.cipherLength + Authenticator.keySize)) :
    span.locate regionLength =
      throw (.offsetOutOfRange span.offset.toNat (span.cipherLength + Authenticator.keySize)
        regionLength) := by
  simp [locate, consumed_eq_ok fits, out]

end Fitting

end KeySpan

end OneTimePad
