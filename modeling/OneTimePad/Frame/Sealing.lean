import OneTimePad.Frame.Basic
import OneTimePad.Frame.KeySpan
import OneTimePad.Pad.Cipher

/-!
# Sealing and opening frames

Sealing pads a message, encrypts it and signs it, all with key material at an
offset that the caller has reserved.  Opening verifies the tag before it
decrypts anything.  Neither decides where a frame goes; both only make sure
that its key material exists.
-/

namespace OneTimePad.Frame

/-- Run a computation of the primitives, whose errors become frame errors. -/
def primitively {α : Type} (attempt : Attempt PadError α) : Attempt FrameError α :=
  ExceptT.adapt .primitive attempt

/-- Seal a message with the key material of `region` at `offset`. -/
def sealAt (region : List UInt8) (offset : UInt64) (message : List UInt8) :
    Attempt FrameError Frame := do
  let padded ← primitively (Padding.pad message)
  if maximumCiphertext < padded.length then
    throw (.payloadTooLarge padded.length maximumCiphertext)
  let (cipherKey, authKey) ← KeySpan.keys ⟨offset, padded.length⟩ region
  let ciphertext ← primitively (liftM (Cipher.apply cipherKey padded))
  let blank ← make offset ciphertext ⟨0, 0⟩
  let tag ← Authenticator.sign authKey blank.header.toBytes blank.ciphertext
  return { blank with tag }

/-- Open a frame with the key material of `region`. -/
def openWith (region : List UInt8) (frame : Frame) : Attempt FrameError (List UInt8) := do
  let length := frame.ciphertext.length
  if length < Padding.minimumLength then
    throw (.ciphertextTooShort length Padding.minimumLength)
  let (cipherKey, authKey) ← KeySpan.keys ⟨frame.offset, length⟩ region
  let verified ←
    Authenticator.verify authKey frame.header.toBytes frame.ciphertext frame.tag.toBytes
  if !verified then
    throw .authenticationFailed
  let padded ← primitively (liftM (Cipher.apply cipherKey frame.ciphertext))
  match Padding.unpad padded with
  | .ok message => return message
  | .error _ => throw (.invalidFormat "malformed padding")

end OneTimePad.Frame
