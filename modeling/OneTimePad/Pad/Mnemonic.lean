import OneTimePad.Bytes.BigEndian
import OneTimePad.Hash.Sha256
import OneTimePad.Pad.Error
import OneTimePad.Pad.Wordlist
import OneTimePad.Text.Blank
import OneTimePad.Text.Utf8

/-!
# The mnemonic of a pad

Two people who have just exchanged a pad read words to each other.  The words
spell the first octets of a digest of the whole pad and of its length, so they
agree when the pads do.
-/

namespace OneTimePad.Mnemonic

/-- The words of an ordinary mnemonic. -/
def defaultCount : Nat := 6

/-- The words of the longest mnemonic, one for each octet of the digest. -/
def maximumCount : Nat := 32

/-- What sets the digest of a mnemonic apart from other digests of the pad. -/
def label : List UInt8 := Utf8.ofString "padlock:mnemonic:v1"

/-- The digest of a whole pad. -/
def padDigest (pad : List UInt8) : List UInt8 :=
  Sha256.digest (label ++ Bytes.ofNat 8 pad.length ++ pad)

/-- The words of a pad, `count` many. -/
def spell (pad : List UInt8) (count : Nat) : List String :=
  ((padDigest pad).take count).map wordOf

/-- The mnemonic of a pad with as many words as asked for. -/
def generate (pad : List UInt8) (count : Nat) : Except PadError (List String) :=
  if count = 0 ∨ maximumCount < count then .error (.invalidWordCount count maximumCount)
  else .ok (spell pad count)

/-- The ordinary mnemonic of a pad. -/
def generateDefault (pad : List UInt8) : List String :=
  spell pad defaultCount

/-- Whether a spoken word is the expected one.  White space around it and the
case of ASCII letters do not count. -/
def sameWord (expected spoken : String) : Bool :=
  expected.toList.map Char.toLower == (Text.trim spoken.toList).map Char.toLower

/-- Whether spoken words are the mnemonic of a pad with that many words. -/
def verify (pad : List UInt8) (spoken : List String) : Bool :=
  match generate pad spoken.length with
  | .error _ => false
  | .ok expected => (expected.zip spoken).all fun pair => sameWord pair.1 pair.2

end OneTimePad.Mnemonic
