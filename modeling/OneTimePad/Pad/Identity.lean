import OneTimePad.Hash.Sha256
import OneTimePad.Pad.Error
import OneTimePad.Text.Hex
import OneTimePad.Text.Utf8

/-!
# Identity tokens

The first octets of a pad are set aside for the identity of its conversation
and never encrypt anything.  Three tokens are derived from them: the public
identifier, and the two secrets that authorize the use of a relay and the
burning of a conversation there.  Each is the digest of a label of its own and
of the octets set aside.
-/

namespace OneTimePad.Identity

/-- The octets of a pad that the tokens are derived from. -/
def seedLength : Nat := 160

/-- The tokens of a conversation. -/
inductive Token where
  /-- The public identifier. -/
  | conversation
  /-- The secret that authorizes reading and writing. -/
  | authorization
  /-- The secret that authorizes burning. -/
  | burn
deriving DecidableEq, Repr

/-- What sets the digest of a token apart from other digests. -/
def Token.label : Token → List UInt8
  | conversation => Utf8.ofString "padlock:conversation-id:v1"
  | authorization => Utf8.ofString "padlock:auth-token:v1"
  | burn => Utf8.ofString "padlock:burn-token:v1"

/-- Derive one token of a pad. -/
def derive (token : Token) (pad : List UInt8) : Except PadError String :=
  if pad.length < seedLength then .error (.insufficientPad seedLength pad.length)
  else .ok (Hex.encode (Sha256.digest (token.label ++ pad.take seedLength)))

/-- All tokens of a pad. -/
structure Tokens where
  conversation : String
  authorization : String
  burn : String
deriving DecidableEq, Repr

/-- Derive all tokens of a pad. -/
def deriveAll (pad : List UInt8) : Except PadError Tokens := do
  let conversation ← derive .conversation pad
  let authorization ← derive .authorization pad
  let burn ← derive .burn pad
  return { conversation, authorization, burn }

/-- A view of the tokens that shows no secret. -/
def Tokens.redacted (tokens : Tokens) : String :=
  "DerivedTokens \x7b conversation_id: \"" ++ tokens.conversation ++
    "\", auth_token: \"<redacted>\", burn_token: \"<redacted>\" \x7d"

end OneTimePad.Identity
