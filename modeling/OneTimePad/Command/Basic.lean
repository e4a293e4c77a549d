import OneTimePad.Command.Error
import OneTimePad.Frame.Basic
import OneTimePad.Ledger.Basic
import OneTimePad.Pad.Checksum
import OneTimePad.Text.Base64
import OneTimePad.Text.Quoted

/-!
# Commands

What the command line can do with a file: spell the mnemonic of a pad, show the
tokens of a pad, compute or compare the checksum of a file, and summarize a
frame or stored counters.  A command is a function of the file's content to a
text; nothing here reads or prints.
-/

namespace OneTimePad

/-- A command and its options. -/
inductive Command where
  /-- The mnemonic of a pad. -/
  | mnemonic (settings : Settings)
  /-- The tokens of a pad, the secret ones only if asked for. -/
  | tokens (reveal : Bool)
  /-- The checksum of a file, which may have to be the expected one. -/
  | checksum (expected : Option String)
  /-- A summary of a frame, which may be stored as base64 text. -/
  | inspect (base64 : Bool)
  /-- A summary of stored counters. -/
  | ledger (settings : Settings)
deriving DecidableEq, Repr

/-- The content of a file, or the reason why it cannot be read. -/
abbrev FileContent := Except String (List UInt8)

namespace Command

/-- The result of a command. -/
abbrev Result := Attempt CommandError

/-- The content of the file at a path. -/
def open? (path : String) (file : FileContent) : Result (List UInt8) :=
  match file with
  | .ok content => return content
  | .error reason => throw (.read path reason)

/-- Give a ledger's answer as that of a command. -/
def fromLedger {α : Type} : Except LedgerError α → Result α
  | .ok value => return value
  | .error error => throw (.ledger error)

/-- Give a primitive's answer as that of a command. -/
def fromPrimitive {α : Type} : Except PadError α → Result α
  | .ok value => return value
  | .error error => throw (.primitive error)

/-! ## Encodings -/

/-- The text of an error in hexadecimal input. -/
def hexMessage : Hex.DecodeError → String
  | .oddLength => "Odd number of digits"
  | .invalidDigit byte position =>
      "Invalid character " ++ Text.quoteChar byte ++ s!" at position {position}"

/-- Read the written form of a checksum from hexadecimal text. -/
def readChecksum (text : String) : Result Checksum :=
  match Hex.decode (Utf8.ofString text) with
  | .error reason => throw (.encoding (hexMessage reason))
  | .ok bytes =>
      match Checksum.ofBytes? bytes with
      | some found => return found
      | none =>
          let size := Checksum.size
          throw (.encoding s!"checksum must be {size} bytes")

/-- The octets that base64 text in a file stands for.  White space around the
text does not count. -/
def decodeBase64 (content : List UInt8) : Result (List UInt8) :=
  match Base64.decode (Utf8.encode (Text.trim (Utf8.decodeLossy content))) with
  | .ok bytes => return bytes
  | .error reason => throw (.encoding reason.message)

/-! ## Texts -/

/-- The tokens as they are printed. -/
def describeTokens (tokens : Identity.Tokens) (reveal : Bool) : String :=
  let identifier := "conversation_id " ++ tokens.conversation
  if reveal then
    identifier ++ "\nauth_token      " ++ tokens.authorization ++
      "\nburn_token      " ++ tokens.burn
  else identifier

/-- A checksum as it is printed. -/
def describeChecksum (checksum : Checksum) : String :=
  let length := checksum.length.toNat
  Hex.encode checksum.toBytes ++ s!"  len={length} crc32=" ++
    Hex.encode (Bytes.ofNat 4 checksum.crc.toNat)

/-- The summary of a frame. -/
def describeFrame (frame : Frame) : Checked String := do
  let offset := frame.offset.toNat
  let ciphertext := frame.ciphertext.length
  let consumed ← Size.add ciphertext Authenticator.keySize
  let size := frame.wireLength
  let header := Header.size
  return s!"offset     {offset}\nciphertext {ciphertext} bytes\n" ++
    s!"consumes   {consumed} pad bytes\nframe      {size} bytes ({header} header)"

/-- The summary of a ledger. -/
def describeLedger (ledger : Ledger) : Checked String := do
  let role := ledger.role.name
  let total := ledger.total.toNat
  let sent := ledger.sent.toNat
  let seen := ledger.seen.toNat
  let remaining := (← ledger.remaining).toNat
  let stage := (← ledger.stage).name
  return s!"role          {role}\ntotal         {total}\nsend_offset   {sent}\n" ++
    s!"peer_consumed {seen}\nremaining     {remaining}\nstate         {stage}"

/-! ## Running -/

/-- Compute the checksum of a file and compare it with the expected one. -/
def runChecksum (content : List UInt8) (expected : Option String) : Result String := do
  let checksum := Checksum.compute content
  if let some text := expected then
    if (← readChecksum text) ≠ checksum then
      throw (.checksumMismatch text (Hex.encode checksum.toBytes))
  return describeChecksum checksum

/-- Summarize the frame in a file. -/
def runInspect (content : List UInt8) (base64 : Bool) : Result String := do
  let bytes ← if base64 then decodeBase64 content else pure content
  let frame ← ExceptT.adapt CommandError.frame (Frame.ofBytes bytes)
  describeFrame frame

/-- Run a command on the file at a path. -/
def run (command : Command) (path : String) (file : FileContent) : Result String := do
  match command with
  | .mnemonic settings => do
      fromLedger settings.validate
      let pad ← open? path file
      let words ← fromPrimitive (Mnemonic.generate pad settings.mnemonicWords)
      return String.intercalate " " words
  | .tokens reveal => do
      let pad ← open? path file
      let tokens ← fromPrimitive (Identity.deriveAll pad)
      return describeTokens tokens reveal
  | .checksum expected => do
      runChecksum (← open? path file) expected
  | .inspect base64 => do
      runInspect (← open? path file) base64
  | .ledger settings => do
      fromLedger settings.validate
      let content ← open? path file
      let snapshot ← fromLedger (Snapshot.ofCbor content)
      let ledger ← fromLedger (Ledger.restore snapshot settings)
      describeLedger ledger

end Command

end OneTimePad
