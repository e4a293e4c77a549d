/-!
# Errors of the pad primitives

What can be wrong with the arguments of the cipher, the padding, the identity
tokens and the mnemonic.  Each error is a cause with the numbers that describe
it; the wording stands in one place.
-/

namespace OneTimePad

/-- Why a primitive refused its arguments. -/
inductive PadError where
  /-- Key and data differ in length. -/
  | lengthMismatch (keyLength dataLength : Nat)
  /-- A padded buffer is malformed. -/
  | invalidFormat (reason : String)
  /-- A message does not fit the length field of the padding. -/
  | messageTooLarge (size maximum : Nat)
  /-- A pad is too short to derive identity tokens from. -/
  | insufficientPad (required actual : Nat)
  /-- A mnemonic cannot have this many words. -/
  | invalidWordCount (count maximum : Nat)
deriving DecidableEq, Repr

namespace PadError

/-- The text of an error. -/
def message : PadError → String
  | lengthMismatch keyLength dataLength =>
      s!"length mismatch: key is {keyLength} bytes, data is {dataLength} bytes"
  | invalidFormat reason => s!"invalid format: {reason}"
  | messageTooLarge size maximum => s!"message too large: {size} bytes, max {maximum}"
  | insufficientPad required actual =>
      s!"insufficient pad size: need {required} bytes, got {actual}"
  | invalidWordCount count maximum =>
      s!"invalid word count: {count} (supported 1..={maximum})"

/-- Whether the caller is at fault.  A malformed buffer comes from outside and
is dropped; all else is misuse. -/
def isFatal : PadError → Bool
  | invalidFormat _ => false
  | _ => true

end PadError

end OneTimePad
