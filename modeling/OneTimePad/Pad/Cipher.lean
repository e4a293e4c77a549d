import OneTimePad.Bytes.Slice
import OneTimePad.Pad.Error

/-!
# The one-time pad cipher

Octet-wise exclusive or of data with key material of the same length.  The
cipher is its own inverse, so one function encrypts and decrypts.
-/

namespace OneTimePad.Cipher

/-- Apply key material to data of the same length. -/
def apply (key data : List UInt8) : Except PadError (List UInt8) :=
  if key.length = data.length then .ok (Bytes.xor key data)
  else .error (.lengthMismatch key.length data.length)

/-- The cipher answers exactly when the lengths agree. -/
theorem apply_eq_ok_iff {key data result : List UInt8} :
    apply key data = .ok result ↔
      key.length = data.length ∧ result = Bytes.xor key data := by
  unfold apply
  split <;> simp [*, eq_comm]

/-- A second application of the key restores the data. -/
theorem apply_apply {key data result : List UInt8} (applied : apply key data = .ok result) :
    apply key result = .ok data := by
  rw [apply_eq_ok_iff] at applied ⊢
  obtain ⟨sameLength, rfl⟩ := applied
  simp [Bytes.xor_xor_cancel sameLength, sameLength]

end OneTimePad.Cipher
