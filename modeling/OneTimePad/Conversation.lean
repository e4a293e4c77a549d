import OneTimePad.Frame.Sealing
import OneTimePad.Ledger.Basic
import OneTimePad.Relay.Envelope

/-!
# Conversations

One side of a conversation: the pad, the tokens derived from it, and the books.
Nothing else brings the ledger and the sealing of frames together, so every
frame is sealed with key material that the ledger has given out before.

A frame that arrives is read, classified, opened and recorded, in this order.
Whatever stops it on the way leaves the books as they were.
-/

namespace OneTimePad

/-- Why a well-formed frame is not delivered. -/
inductive SkipReason where
  /-- It was processed already. -/
  | alreadyProcessed
  /-- It is one of ours, echoed by the relay. -/
  | own
deriving DecidableEq, Repr

/-- The text of a reason. -/
def SkipReason.message : SkipReason → String
  | alreadyProcessed => "Already processed"
  | own => "Own message"

/-- A message of the other party. -/
structure Message where
  plaintext : List UInt8
  /-- Where the key material of its frame begins. -/
  offset : UInt64
  /-- How much key material its frame consumed. -/
  consumed : UInt64
  cipherLength : Nat
deriving DecidableEq, Repr

/-- A message as diagnostic texts show it, without its content. -/
def Message.describe (message : Message) : String :=
  let length := message.plaintext.length
  let offset := message.offset.toNat
  let consumed := message.consumed.toNat
  let cipherLength := message.cipherLength
  s!"ReceivedMessage \x7b plaintext_len: {length}, offset: {offset}, consumed: {consumed}, " ++
    s!"ciphertext_len: {cipherLength} \x7d"

/-- What the arrival of a well-formed frame came to. -/
inductive Receipt where
  | delivered (message : Message)
  | skipped (reason : SkipReason)
deriving DecidableEq, Repr

/-- One side of a conversation. -/
structure Conversation where
  pad : List UInt8
  tokens : Identity.Tokens
  ledger : Ledger
  settings : Settings
deriving DecidableEq, Repr

namespace Conversation

/-! ## Beginning and storing -/

/-- Begin a conversation with a fresh pad. -/
def begin (pad : List UInt8) (role : Role) (settings : Settings := {}) :
    Attempt LedgerError Conversation := do
  settings.validate
  if pad.length < settings.reserved then
    throw (.insufficientPad settings.reserved pad.length)
  let tokens ← LedgerError.ofPrimitive (Identity.deriveAll pad)
  let total ← Size.sub pad.length settings.reserved
  return { pad, tokens, ledger := Ledger.fresh role (UInt64.ofNat total) settings, settings }

/-- Take up a conversation with its pad and its stored counters. -/
def restore (pad : List UInt8) (snapshot : Snapshot) (settings : Settings) :
    Attempt LedgerError Conversation := do
  if snapshot.burned then
    throw .burned
  let conversation ← begin pad snapshot.role settings
  if snapshot.total ≠ conversation.ledger.total then
    throw (.invalidFormat "snapshot does not match pad")
  let ledger ← Ledger.restore snapshot settings
  return { conversation with ledger }

/-- The public identifier. -/
def id (conversation : Conversation) : String :=
  conversation.tokens.conversation

/-- The counters to store. -/
def snapshot (conversation : Conversation) : Snapshot :=
  conversation.ledger.snapshot

/-- The part of the pad that frames are sealed with. -/
def region (conversation : Conversation) : List UInt8 :=
  conversation.pad.drop conversation.settings.reserved

/-- A conversation as diagnostic texts show it, without its secrets. -/
def describe (conversation : Conversation) : String :=
  "Conversation \x7b conversation_id: \"" ++ conversation.id ++ "\", ledger: " ++
    conversation.ledger.describe ++ ", .. \x7d"

/-! ## Sending -/

/-- Seal a message for the other party.  Key material is reserved first, and
only for a message that fits a frame. -/
def send (conversation : Conversation) (message : List UInt8) :
    Checked (Reply Conversation (List UInt8)) := do
  let cipherLength ← Padding.paddedLength message.length
  if Frame.maximumCiphertext < cipherLength then
    return .refuse conversation (.frame (.payloadTooLarge cipherLength Frame.maximumCiphertext))
  let reserved ← conversation.ledger.reserve cipherLength
  let conversation := { conversation with ledger := reserved.after }
  match reserved.answer with
  | .error error => return .refuse conversation error
  | .ok reservation =>
      match ← (Frame.sealAt conversation.region reservation.offset message).run with
      | .error error => return .refuse conversation (.frame error)
      | .ok frame => return ⟨.ok frame.toBytes, conversation⟩

/-! ## Receiving -/

/-- Read, classify and open a frame, without any change to the books. -/
def examine (conversation : Conversation) (bytes : List UInt8) : Attempt LedgerError Receipt := do
  if conversation.ledger.burned then
    throw .burned
  let frame ← ExceptT.adapt LedgerError.frame (Frame.ofBytes bytes)
  let cipherLength := frame.ciphertext.length
  let consumed := UInt64.ofNat (← Size.add cipherLength Authenticator.keySize)
  match ← conversation.ledger.classifyFrame frame.offset consumed with
  | .own => return .skipped .own
  | .duplicate => return .skipped .alreadyProcessed
  | .fresh => do
      let plaintext ← ExceptT.adapt LedgerError.frame (frame.openWith conversation.region)
      return .delivered { plaintext, offset := frame.offset, consumed, cipherLength }

/-- Record a message that was opened.  Only if the books advance is it
delivered. -/
def settle (conversation : Conversation) (message : Message) : Reply Conversation Receipt :=
  let recorded := conversation.ledger.record message.offset message.consumed
  let conversation := { conversation with ledger := recorded.after }
  match recorded.answer with
  | .error error => .refuse conversation error
  | .ok (.advanced _) => ⟨.ok (.delivered message), conversation⟩
  | .ok .ownMessage => ⟨.ok (.skipped .own), conversation⟩
  | .ok .stale => ⟨.ok (.skipped .alreadyProcessed), conversation⟩

/-- Process the octets of a frame that arrived. -/
def receive (conversation : Conversation) (bytes : List UInt8) :
    Checked (Reply Conversation Receipt) := do
  match ← (conversation.examine bytes).run with
  | .error error => return .refuse conversation error
  | .ok (.skipped reason) => return ⟨.ok (.skipped reason), conversation⟩
  | .ok (.delivered message) => return conversation.settle message

/-- Process an envelope, which has to be addressed to this conversation. -/
def receiveEnvelope (conversation : Conversation) (envelope : Envelope) :
    Checked (Reply Conversation Receipt) :=
  if envelope.conversation ≠ conversation.id then
    .ok (.refuse conversation (.unknownConversation envelope.conversation))
  else
    match envelope.frameBytes with
    | .error error => .ok (.refuse conversation (.frame error))
    | .ok bytes => conversation.receive bytes

/-! ## Comparing and burning -/

/-- The words by which both sides compare their pads. -/
def mnemonic (conversation : Conversation) : Except LedgerError (List String) :=
  if conversation.ledger.burned then .error .burned
  else
    LedgerError.ofPrimitive
      (Mnemonic.generate conversation.pad conversation.settings.mnemonicWords)

/-- Whether spoken words fit the pad.  Nothing fits a pad that was burned. -/
def verifyMnemonic (conversation : Conversation) (spoken : List String) : Bool :=
  !conversation.ledger.burned && Mnemonic.verify conversation.pad spoken

/-- Destroy the pad. -/
def burn (conversation : Conversation) : Conversation :=
  { conversation with pad := [], ledger := conversation.ledger.burn }

end Conversation

end OneTimePad
