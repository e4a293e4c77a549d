import OneTimePad.Bytes.BigEndian
import OneTimePad.Bytes.Slice
import OneTimePad.Checked
import OneTimePad.Pad.Error

/-!
# Message padding

A padded message is a zero octet, the length of the message in two octets, the
message, and zeros up to a floor of thirty-two octets.  So all short messages
have ciphertexts of one length.  What stands after the message is ignored when
the padding is taken off.
-/

namespace OneTimePad.Padding

/-- The shortest padded message. -/
def minimumLength : Nat := 32

/-- The octets in front of a message. -/
def overhead : Nat := 3

/-- The longest message that two octets of length can describe. -/
def maximumMessage : Nat := 65535

/-- How long a message of this length is once it is padded. -/
def paddedLength (length : Nat) : Checked Nat := do
  let needed ← Size.add overhead length
  return if minimumLength < needed then needed else minimumLength

/-- Pad a message: over zeros, write the marker, the length and the message. -/
def pad (message : List UInt8) : Attempt PadError (List UInt8) := do
  if maximumMessage < message.length then
    throw (.messageTooLarge message.length maximumMessage)
  let blank := List.replicate (← paddedLength message.length) 0
  let marked ← Bytes.overwrite blank 0 1 [0]
  let sized ← Bytes.overwrite marked 1 overhead (Bytes.ofNat 2 message.length)
  Bytes.overwrite sized overhead (← Size.add overhead message.length) message

/-- Take the padding off. -/
def unpad : List UInt8 → Except PadError (List UInt8)
  | [] => .error (.invalidFormat "empty buffer")
  | marker :: rest =>
      if marker ≠ 0 then .error (.invalidFormat "unexpected marker")
      else match rest with
        | high :: low :: content =>
            let declared := Bytes.toNat [high, low]
            if declared ≤ content.length then .ok (content.take declared)
            else .error (.invalidFormat "declared length exceeds buffer")
        | _ => .error (.invalidFormat "missing length prefix")

end OneTimePad.Padding
