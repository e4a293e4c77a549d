import OneTimePad.Cbor.Record
import OneTimePad.Frame.Basic
import OneTimePad.Text.Base64

/-!
# Relay envelopes

A relay stores frames under the identifier of their conversation and knows
nothing of pads.  An envelope is what it hands out: the identifier, the octets
of a frame as base64 text, a sequence number if the relay counts, and the time
at which it took the frame.
-/

namespace OneTimePad

/-- A frame as a relay hands it out. -/
structure Envelope where
  conversation : String
  /-- The octets of a frame, as base64 text. -/
  payload : String
  sequence : Option UInt64
  /-- Milliseconds since 1970. -/
  receivedAt : UInt64
deriving DecidableEq, Repr

namespace Envelope

/-- Wrap a frame. -/
def ofFrame (conversation : String) (frame : Frame) (receivedAt : UInt64) : Envelope :=
  { conversation, payload := Base64.encodeText frame.toBytes, sequence := none, receivedAt }

/-- The octets that an envelope carries. -/
def frameBytes (envelope : Envelope) : Except FrameError (List UInt8) :=
  match Base64.decode (Utf8.ofString envelope.payload) with
  | .ok bytes => .ok bytes
  | .error reason => .error (.invalidEnvelope reason.message)

/-- The frame that an envelope carries. -/
def frame (envelope : Envelope) : Attempt FrameError Frame := do
  Frame.ofBytes (← envelope.frameBytes)

/-! ## Stored form -/

/-- The name of the field for the identifier. -/
def conversationField : String := "conversation_id"

/-- The name of the field for the frame. -/
def payloadField : String := "ciphertext"

/-- The name of the field for the sequence number. -/
def sequenceField : String := "sequence"

/-- The name of the field for the time. -/
def receivedAtField : String := "received_at"

/-- The sequence number as an entry of a record, if there is one. -/
def sequenceEntry : Option UInt64 → List UInt8
  | none => []
  | some number => Cbor.writeText sequenceField ++ Cbor.writeUnsigned number

/-- The octets of a stored envelope. -/
def toCbor (envelope : Envelope) : List UInt8 :=
  Cbor.writeMap (if envelope.sequence.isSome then 4 else 3) ++
    Cbor.writeText conversationField ++ Cbor.writeText envelope.conversation ++
    Cbor.writeText payloadField ++ Cbor.writeText envelope.payload ++
    sequenceEntry envelope.sequence ++
    Cbor.writeText receivedAtField ++ Cbor.writeUnsigned envelope.receivedAt

/-- An envelope under construction. -/
structure Draft where
  conversation : Cbor.Field String := none
  payload : Cbor.Field String := none
  sequence : Cbor.Field (Option UInt64) := none
  receivedAt : Cbor.Field UInt64 := none

/-- How the value of an entry goes into an envelope under construction. -/
def Draft.entry (key : List UInt8) : Option (Draft → Cbor.Reader Draft) :=
  if key = Utf8.ofString conversationField then
    some fun draft => do
      let conversation ← Cbor.fillField draft.conversation Cbor.readText
      return { draft with conversation }
  else if key = Utf8.ofString payloadField then
    some fun draft => do
      let payload ← Cbor.fillField draft.payload Cbor.readText
      return { draft with payload }
  else if key = Utf8.ofString sequenceField then
    some fun draft => do
      let sequence ← Cbor.fillField draft.sequence (Cbor.readOptional Cbor.readUnsigned)
      return { draft with sequence }
  else if key = Utf8.ofString receivedAtField then
    some fun draft => do
      let receivedAt ← Cbor.fillField draft.receivedAt Cbor.readUnsigned
      return { draft with receivedAt }
  else none

/-- The envelope, once all entries are read.  Only the sequence number may be
missing. -/
def Draft.finish (draft : Draft) : Cbor.Reader Envelope := do
  let conversation ← Cbor.demand draft.conversation
  let payload ← Cbor.demand draft.payload
  let receivedAt ← Cbor.demand draft.receivedAt
  return { conversation, payload, sequence := draft.sequence.getD none, receivedAt }

/-- Read a stored envelope.  What follows it is ignored. -/
def ofCbor (bytes : List UInt8) : Except Cbor.ReadError Envelope :=
  StateT.run' (do (← Cbor.readRecord Draft.entry {}).finish) bytes

end Envelope

end OneTimePad
