import OneTimePad.Authenticator.Basic
import OneTimePad.Bytes.Slice
import OneTimePad.Frame.Header
import OneTimePad.Pad.Padding

/-!
# Frames

A frame carries one message: the offset of its key material, the ciphertext,
and a tag.  On the wire it is a header, the ciphertext and the tag, one after
the other, with nothing around them.  The length field of the header follows
from the ciphertext, which therefore has to fit it.

A frame that was read is well formed and no more.  Whether it is authentic is
for the tag to say.
-/

namespace OneTimePad

open Authenticator (Tag tagSize)

/-- One message as it travels. -/
structure Frame where
  offset : UInt64
  ciphertext : List UInt8
  tag : Tag
  /-- The ciphertext fits the length field. -/
  fits : ciphertext.length < Bytes.capacity 2
deriving DecidableEq

namespace Frame

/-- The octets around the ciphertext. -/
def overhead : Nat := Header.size + tagSize

/-- The octets of the smallest frame that can be read. -/
def minimumSize : Nat := overhead + Padding.minimumLength

/-- The longest ciphertext that the length field can describe. -/
def maximumCiphertext : Nat := 65535

/-- Make a frame. -/
def make (offset : UInt64) (ciphertext : List UInt8) (tag : Tag) : Except FrameError Frame :=
  if fits : ciphertext.length < Bytes.capacity 2 then .ok { offset, ciphertext, tag, fits }
  else .error (.payloadTooLarge ciphertext.length maximumCiphertext)

/-- The header of a frame. -/
def header (frame : Frame) : Header :=
  ⟨frame.offset, UInt16.ofNat frame.ciphertext.length⟩

/-- How many octets a frame has on the wire. -/
def wireLength (frame : Frame) : Nat :=
  overhead + frame.ciphertext.length

/-- The octets of a frame. -/
def toBytes (frame : Frame) : List UInt8 :=
  frame.header.toBytes ++ frame.ciphertext ++ frame.tag.toBytes

/-- Cut the ciphertext and the tag from what follows a header. -/
def ofBody (offset : UInt64) (length : Nat) (body : List UInt8) : Attempt FrameError Frame := do
  let (ciphertext, tagBytes) ← Bytes.split body length
  let tag ← Tag.copy tagBytes
  make offset ciphertext tag

/-- Read a frame from octets that hold this frame and nothing else. -/
def ofBytes (bytes : List UInt8) : Attempt FrameError Frame := do
  let header ← Header.ofBytes bytes
  let length := header.length.toNat
  if length < Padding.minimumLength then
    throw (.ciphertextTooShort length Padding.minimumLength)
  let expected ← Size.add overhead length
  if bytes.length < expected then
    throw (.frameTooShort expected bytes.length)
  if expected < bytes.length then
    throw (.trailingBytes expected bytes.length)
  ofBody header.offset length (← Bytes.slice bytes Header.size bytes.length)

end Frame

end OneTimePad
