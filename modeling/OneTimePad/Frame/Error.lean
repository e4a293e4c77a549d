import OneTimePad.Pad.Error

/-!
# Frame errors

What can be wrong with a frame, or with the attempt to make one.  Nearly all of
it concerns a single frame, which the receiver then drops; only what a sender
asks for in vain concerns the caller.
-/

namespace OneTimePad

/-- Why a frame could not be read, opened or made. -/
inductive FrameError where
  /-- The octets end before the frame does. -/
  | frameTooShort (expected actual : Nat)
  /-- The octets go on after the frame. -/
  | trailingBytes (expected actual : Nat)
  /-- The ciphertext is shorter than any padded message. -/
  | ciphertextTooShort (length minimum : Nat)
  /-- The ciphertext does not fit the length field. -/
  | payloadTooLarge (size maximum : Nat)
  /-- The key material of the frame leaves the message region. -/
  | offsetOutOfRange (offset length region : Nat)
  /-- The content is authentic and malformed. -/
  | invalidFormat (reason : String)
  /-- The tag does not verify. -/
  | authenticationFailed
  /-- An envelope does not hold octets. -/
  | invalidEnvelope (reason : String)
  /-- A primitive refused its arguments. -/
  | primitive (error : PadError)
deriving DecidableEq, Repr

namespace FrameError

/-- The text of an error. -/
def message : FrameError → String
  | frameTooShort expected actual =>
      s!"frame too short: expected at least {expected} bytes, got {actual}"
  | trailingBytes expected actual =>
      s!"trailing bytes: frame is {expected} bytes, buffer is {actual}"
  | ciphertextTooShort length minimum =>
      s!"ciphertext too short: {length} bytes, minimum {minimum}"
  | payloadTooLarge size maximum => s!"payload too large: {size} bytes, max {maximum}"
  | offsetOutOfRange offset length region =>
      s!"offset out of range: {offset}+{length} exceeds region of {region} bytes"
  | invalidFormat reason => s!"invalid format: {reason}"
  | authenticationFailed => "authentication failed"
  | invalidEnvelope reason => s!"invalid envelope: {reason}"
  | primitive error => error.message

/-- Whether the receiver drops the frame and carries on. -/
def isDroppable : FrameError → Bool
  | payloadTooLarge _ _ => false
  | primitive error => !error.isFatal
  | _ => true

/-- A short name for the kind of an error, which stays the same when the
wording changes. -/
def label : FrameError → String
  | authenticationFailed => "authentication_failed"
  | payloadTooLarge _ _ => "payload_too_large"
  | invalidEnvelope _ => "invalid_envelope"
  | primitive error => if error.isFatal then "crypto" else "invalid_format"
  | _ => "invalid_format"

end FrameError

end OneTimePad
