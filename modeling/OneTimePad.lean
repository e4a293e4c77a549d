import OneTimePad.Checked
import OneTimePad.Bytes.Slice
import OneTimePad.Bytes.BigEndian
import OneTimePad.Text.Hex
import OneTimePad.Text.Blank
import OneTimePad.Text.Utf8
import OneTimePad.Text.Base64
import OneTimePad.Text.Quoted
import OneTimePad.Hash.Sha256
import OneTimePad.Hash.Crc32
import OneTimePad.Pad.Error
import OneTimePad.Pad.Cipher
import OneTimePad.Pad.Padding
import OneTimePad.Pad.Checksum
import OneTimePad.Pad.Wordlist
import OneTimePad.Pad.Mnemonic
import OneTimePad.Pad.Identity
import OneTimePad.Authenticator.BinaryField
import OneTimePad.Authenticator.Basic
import OneTimePad.Frame.Error
import OneTimePad.Frame.Header
import OneTimePad.Frame.Basic
import OneTimePad.Frame.KeySpan
import OneTimePad.Frame.Sealing
import OneTimePad.Cbor.Head
import OneTimePad.Cbor.Value
import OneTimePad.Cbor.Record
import OneTimePad.Relay.Envelope
import OneTimePad.Ledger.Span
import OneTimePad.Ledger.Role
import OneTimePad.Ledger.Error
import OneTimePad.Ledger.Settings
import OneTimePad.Ledger.Snapshot
import OneTimePad.Ledger.Basic
import OneTimePad.Conversation
import OneTimePad.Registry
import OneTimePad.Number.Binary64
import OneTimePad.Number.Shortest
import OneTimePad.Audit.Violation
import OneTimePad.Audit.Reuse
import OneTimePad.Audit.Check
import OneTimePad.Simulation.Generator
import OneTimePad.Simulation.Config
import OneTimePad.Simulation.Basic
import OneTimePad.Command.Error
import OneTimePad.Command.Basic
import OneTimePad.Command.Arguments
import OneTimePad.Main
import OneTimePad.Proofs.Bytes.Agreement
import OneTimePad.Proofs.Text.Trimming
import OneTimePad.Proofs.Text.Utf8
import OneTimePad.Proofs.Pad.Padding
import OneTimePad.Proofs.Pad.Identity
import OneTimePad.Proofs.Pad.Mnemonic
import OneTimePad.Proofs.Text.Base64
import OneTimePad.Proofs.Cbor.Reading
import OneTimePad.Proofs.Authenticator.BinaryPolynomial
import OneTimePad.Proofs.Authenticator.Field
import OneTimePad.Proofs.Authenticator.Product
import OneTimePad.Proofs.Authenticator.Hash
import OneTimePad.Proofs.Authenticator.Signing
import OneTimePad.Proofs.Authenticator.KeyCount
import OneTimePad.Proofs.Authenticator.Tampering
import OneTimePad.Proofs.Authenticator.Stream
import OneTimePad.Proofs.Frame.Wire
import OneTimePad.Proofs.Frame.Grammar
import OneTimePad.Proofs.Frame.Sealing
import OneTimePad.Proofs.Frame.Agreement
import OneTimePad.Proofs.Frame.Opening
import OneTimePad.Proofs.Frame.Forgery
import OneTimePad.Proofs.Frame.RoundTrip
import OneTimePad.Proofs.Ledger.Geometry
import OneTimePad.Proofs.Ledger.Tiling
import OneTimePad.Proofs.Ledger.Matching
import OneTimePad.Proofs.Ledger.Coverage
import OneTimePad.Proofs.Ledger.Balance
import OneTimePad.Proofs.Ledger.Run
import OneTimePad.Proofs.Ledger.Stored
import OneTimePad.Proofs.Ledger.Exhaustion
import OneTimePad.Proofs.Ledger.Origins
import OneTimePad.Proofs.Ledger.Recording
import OneTimePad.Proofs.Ledger.Capacity
import OneTimePad.Proofs.Conversation.Steps
import OneTimePad.Proofs.Conversation.Run
import OneTimePad.Proofs.Conversation.Sending
import OneTimePad.Proofs.Conversation.Arrival
import OneTimePad.Proofs.Conversation.NoReuse
import OneTimePad.Proofs.Conversation.Sequence
import OneTimePad.Proofs.Conversation.Session
import OneTimePad.Proofs.Conversation.Stored
import OneTimePad.Proofs.Conversation.Burned
import OneTimePad.Proofs.Conversation.Exhaustion
import OneTimePad.Proofs.Conversation.Identity
import OneTimePad.Proofs.Conversation.Comparison
import OneTimePad.Proofs.Exchange.Basic
import OneTimePad.Proofs.Exchange.Correspondent
import OneTimePad.Proofs.Exchange.Delivery
import OneTimePad.Proofs.Relay.Envelope
import OneTimePad.Proofs.Audit.Reuse
import OneTimePad.Proofs.Audit.Check
import OneTimePad.Proofs.Audit.Detection
import OneTimePad.Proofs.Audit.Agreement
import OneTimePad.Proofs.Audit.Anchor
import OneTimePad.Proofs.Network.Basic
import OneTimePad.Proofs.Network.Safety
import OneTimePad.Proofs.Registry.Basic
import OneTimePad.Proofs.Registry.Isolation
import OneTimePad.Proofs.Secrecy.ConsumedOnce
import OneTimePad.Proofs.Secrecy.Rekeying
import OneTimePad.Proofs.Secrecy.Separation
import OneTimePad.Proofs.Hash.Crc32
import OneTimePad.Proofs.Pad.Checksum
import OneTimePad.Proofs.Audit.Overclaim
import OneTimePad.Proofs.Simulation.Steps
import OneTimePad.Proofs.Simulation.Relay
import OneTimePad.Proofs.Simulation.Draining
import OneTimePad.Proofs.Exchange.Offsets
import OneTimePad.Proofs.Simulation.Promises
import OneTimePad.Proofs.Command.Inspection
