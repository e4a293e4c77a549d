import OneTimePad.Authenticator.Basic
import OneTimePad.Ledger.Error
import OneTimePad.Pad.Identity
import OneTimePad.Pad.Mnemonic
import OneTimePad.Pad.Padding

/-!
# Settings of a conversation

How much of the pad is set aside for the identity, below which rest a
conversation counts as exhausted, and how many words its mnemonic has.
-/

namespace OneTimePad

/-- The key material that the smallest frame consumes. -/
def smallestFrame : Nat := Padding.minimumLength + Authenticator.keySize

/-- The settings of a conversation. -/
structure Settings where
  /-- Octets at the front of the pad that are set aside. -/
  reserved : Nat := Identity.seedLength
  /-- The rest of the region below which the conversation is exhausted. -/
  threshold : UInt64 := UInt64.ofNat smallestFrame
  /-- Words of the mnemonic. -/
  mnemonicWords : Nat := Mnemonic.defaultCount
deriving DecidableEq, Repr

namespace Settings

/-- Check that every setting is usable.  The first one that is not is named. -/
def validate (settings : Settings) : Except LedgerError Unit :=
  if settings.reserved < Identity.seedLength then
    .error (.invalidSettings "reserved prefix smaller than token prefix")
  else if settings.threshold.toNat < smallestFrame then
    .error (.invalidSettings "min frame consumption below smallest frame")
  else if settings.mnemonicWords = 0 ∨ Mnemonic.maximumCount < settings.mnemonicWords then
    .error (.invalidSettings "mnemonic words outside 1..=32")
  else .ok ()

/-- Settings are valid exactly when each of them lies in its range. -/
theorem validate_eq_ok_iff {settings : Settings} :
    settings.validate = .ok () ↔
      Identity.seedLength ≤ settings.reserved ∧
        smallestFrame ≤ settings.threshold.toNat ∧
        0 < settings.mnemonicWords ∧ settings.mnemonicWords ≤ Mnemonic.maximumCount := by
  unfold validate
  split
  · simp
    omega
  · split
    · simp
      omega
    · split
      · simp
        omega
      · simp
        omega

end Settings

end OneTimePad
