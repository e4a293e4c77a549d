import OneTimePad.Frame.Sealing
import OneTimePad.Proofs.Frame.Wire
import OneTimePad.Proofs.Pad.Padding

/-!
# Sealing as an equation

Sealing looks at the message region in two places only: the key of the cipher and,
right after it, the key of the authenticator.  This module gives sealing as a function of
these two keys, so that what holds of sealed frames never again depends on how a key is
cut from the region.
-/

namespace OneTimePad

open Authenticator (Tag keySize)

/-! ## Keys -/

namespace KeySpan

/-- Whether a region has all the positions of a span. -/
def Within (span : KeySpan) (region : List UInt8) : Prop :=
  span.offset.toNat + (span.cipherLength + keySize) ≤ region.length

/-- The positions of a span, for the cipher and for the authenticator. -/
def positions (span : KeySpan) : Set Nat :=
  Set.Ico span.offset.toNat (span.offset.toNat + (span.cipherLength + keySize))

/-- The positions of a span for the cipher. -/
def cipherPositions (span : KeySpan) : Set Nat :=
  Set.Ico span.offset.toNat (span.offset.toNat + span.cipherLength)

/-- The positions of a span for the authenticator. -/
def authPositions (span : KeySpan) : Set Nat :=
  Set.Ico (span.offset.toNat + span.cipherLength)
    (span.offset.toNat + span.cipherLength + keySize)

theorem cipherPositions_subset (span : KeySpan) : span.cipherPositions ⊆ span.positions :=
  Set.Ico_subset_Ico_right (by omega)

theorem authPositions_subset (span : KeySpan) : span.authPositions ⊆ span.positions :=
  Set.Ico_subset_Ico (by omega) (by omega)

theorem notMem_cipherPositions {span : KeySpan} {position : Nat}
    (mem : position ∈ span.authPositions) : position ∉ span.cipherPositions := by
  simp only [authPositions, cipherPositions, Set.mem_Ico] at mem ⊢
  omega

instance (span : KeySpan) (region : List UInt8) : Decidable (span.Within region) :=
  inferInstanceAs (Decidable (_ ≤ _))

/-- The key of the cipher. -/
def cipherKey (span : KeySpan) (region : List UInt8) : List UInt8 :=
  (region.drop span.offset.toNat).take span.cipherLength

/-- The key of the authenticator. -/
def authKey (span : KeySpan) (region : List UInt8) : List UInt8 :=
  (region.drop (span.offset.toNat + span.cipherLength)).take keySize

variable {span : KeySpan} {region : List UInt8}

theorem length_cipherKey (within : span.Within region) :
    (span.cipherKey region).length = span.cipherLength := by
  unfold Within at within
  simp [cipherKey]
  omega

theorem length_authKey (within : span.Within region) :
    (span.authKey region).length = keySize := by
  unfold Within at within
  simp [authKey]
  omega

theorem keys_eq_pure (small : span.cipherLength < Bytes.capacity 2)
    (within : span.Within region) :
    span.keys region = pure (span.cipherKey region, span.authKey region) := by
  unfold Within at within
  have fits : span.cipherLength + keySize < wordLimit := by
    simp only [Bytes.capacity, wordLimit, keySize] at small ⊢
    omega
  have located : span.locate region.length = _ := locate_eq_pure fits (by omega)
  have cut : Bytes.slice region span.offset.toNat
      (span.offset.toNat + (span.cipherLength + keySize)) =
      .ok ((region.drop span.offset.toNat).take (span.cipherLength + keySize)) := by
    rw [Bytes.slice_eq_ok (by omega) within, Nat.add_sub_cancel_left]
  have divide : Bytes.split ((region.drop span.offset.toNat).take (span.cipherLength + keySize))
      span.cipherLength = .ok (span.cipherKey region, span.authKey region) := by
    rw [Bytes.split_eq_ok (by simp; omega), cipherKey, authKey, List.take_take, List.drop_take,
      Nat.min_eq_left (by omega), Nat.add_sub_cancel_left, List.drop_drop]
  simp [keys, located, cut, divide]

theorem keys_eq_throw (small : span.cipherLength < Bytes.capacity 2)
    (outside : ¬ span.Within region) :
    span.keys region =
      throw (.offsetOutOfRange span.offset.toNat (span.cipherLength + keySize) region.length) := by
  unfold Within at outside
  have fits : span.cipherLength + keySize < wordLimit := by
    simp only [Bytes.capacity, wordLimit, keySize] at small ⊢
    omega
  have out : region.length < span.offset.toNat + (span.cipherLength + keySize) := by omega
  simp [keys, locate_eq_throw fits out]

end KeySpan

/-! ## Frames -/

namespace Frame

/-- Where the key material of a frame lies. -/
def keySpan (frame : Frame) : KeySpan :=
  ⟨frame.offset, frame.ciphertext.length⟩

theorem positions_keySpan (frame : Frame) : frame.keySpan.positions = frame.extent := by
  rw [KeySpan.positions, extent, keySpan, Nat.add_assoc]

/-- Every frame is short enough to be signed. -/
theorem signable (frame : Frame) :
    frame.header.toBytes.length + frame.ciphertext.length < wordLimit := by
  have fits := frame.fits
  rw [Header.length_toBytes]
  simp only [Header.size, Bytes.capacity, wordLimit] at fits ⊢
  omega

variable {frame : Frame} {region : List UInt8}

/-! ## Sealed frames -/

/-- The key material for a message at an offset. -/
def messageSpan (offset : UInt64) (message : List UInt8) : KeySpan :=
  ⟨offset, (Padding.padded message).length⟩

/-- The ciphertext of a message under the key material at an offset. -/
def encrypted (region : List UInt8) (offset : UInt64) (message : List UInt8) : List UInt8 :=
  Bytes.xor ((messageSpan offset message).cipherKey region) (Padding.padded message)

/-- A frame that carries a message under the key material at an offset. -/
structure Seals (frame : Frame) (region : List UInt8) (offset : UInt64)
    (message : List UInt8) : Prop where
  offset_eq : frame.offset = offset
  ciphertext_eq : frame.ciphertext = encrypted region offset message
  signed : Authenticator.sign ((messageSpan offset message).authKey region)
    frame.header.toBytes frame.ciphertext = .ok frame.tag

variable {offset : UInt64} {message : List UInt8}

/-- Under given key material, a message is sealed in one way only. -/
theorem Seals.unique {other : Frame} (seals : frame.Seals region offset message)
    (otherSeals : other.Seals region offset message) : frame = other := by
  have offsets := seals.offset_eq.trans otherSeals.offset_eq.symm
  have ciphertexts := seals.ciphertext_eq.trans otherSeals.ciphertext_eq.symm
  have headers : frame.header = other.header := by
    rw [header, header, offsets, ciphertexts]
  have signed := otherSeals.signed
  rw [← headers, ← ciphertexts, seals.signed, Except.ok.injEq] at signed
  rcases frame with ⟨_, _, _, _⟩
  rcases other with ⟨_, _, _, _⟩
  cases offsets
  cases ciphertexts
  cases signed
  rfl

theorem length_encrypted (within : (messageSpan offset message).Within region) :
    (encrypted region offset message).length = (Padding.padded message).length := by
  rw [encrypted, Bytes.length_xor, KeySpan.length_cipherKey within, messageSpan, Nat.min_self]

section Within

variable (seals : frame.Seals region offset message)
  (within : (messageSpan offset message).Within region)

include seals within

theorem Seals.length_ciphertext :
    frame.ciphertext.length = (Padding.padded message).length := by
  rw [seals.ciphertext_eq, length_encrypted within]

/-- A sealed frame is long enough to be read back. -/
theorem Seals.minimumLength_le : Padding.minimumLength ≤ frame.ciphertext.length := by
  rw [seals.length_ciphertext within]
  exact Padding.minimumLength_le_padded message

theorem Seals.keySpan_eq : frame.keySpan = messageSpan offset message := by
  rw [keySpan, seals.offset_eq, seals.length_ciphertext within, messageSpan]

end Within

theorem exists_make {ciphertext : List UInt8} (fits : ciphertext.length < Bytes.capacity 2)
    (offset : UInt64) (tag : Tag) :
    ∃ frame, make offset ciphertext tag = .ok frame ∧ frame.offset = offset ∧
      frame.ciphertext = ciphertext :=
  ⟨_, dif_pos fits, rfl, rfl⟩

section Sealing

variable (short : (Padding.padded message).length ≤ maximumCiphertext)

include short

theorem capacity_of_short : (Padding.padded message).length < Bytes.capacity 2 := by
  simp only [maximumCiphertext, Bytes.capacity] at short ⊢
  omega

theorem pad_of_short : Padding.pad message = pure (Padding.padded message) := by
  rw [Padding.length_padded] at short
  apply Padding.pad_eq_pure
  simp only [Padding.minimumLength, Padding.overhead, maximumCiphertext] at short
  simp only [Padding.maximumMessage]
  omega

/-- A message that fits a frame is sealed wherever the key material exists. -/
theorem exists_sealAt (within : (messageSpan offset message).Within region) :
    ∃ frame, sealAt region offset message = pure frame ∧ frame.Seals region offset message := by
  have notLong : ¬ maximumCiphertext < (Padding.padded message).length := by omega
  have small := capacity_of_short short
  have keys := KeySpan.keys_eq_pure small within
  have applied : Cipher.apply ((messageSpan offset message).cipherKey region)
      (Padding.padded message) = .ok (encrypted region offset message) :=
    Cipher.apply_eq_ok_iff.mpr ⟨KeySpan.length_cipherKey within, rfl⟩
  obtain ⟨blank, made, offsetEq, ciphertextEq⟩ :=
    exists_make ((length_encrypted within).trans_lt small) offset ⟨0, 0⟩
  rcases Authenticator.exists_sign blank.signable (KeySpan.length_authKey within) with ⟨tag, signed⟩
  refine ⟨{ blank with tag }, ?_, offsetEq, ciphertextEq, signed⟩
  unfold messageSpan at keys applied signed
  simp only [sealAt, primitively, pad_of_short short, notLong, keys, applied, made, signed,
    Attempt.adapt_pure, Attempt.answer_ok, Attempt.lift_ok, pure_bind, if_false]

/-- Sealing fails where the key material does not exist. -/
theorem sealAt_of_not_within (outside : ¬ (messageSpan offset message).Within region) :
    sealAt region offset message =
      throw (.offsetOutOfRange offset.toNat ((Padding.padded message).length + keySize)
        region.length) := by
  have notLong : ¬ maximumCiphertext < (Padding.padded message).length := by omega
  have keys := KeySpan.keys_eq_throw (capacity_of_short short) outside
  unfold messageSpan at keys
  simp only [sealAt, primitively, pad_of_short short, notLong, keys, Attempt.adapt_pure, pure_bind,
    if_false]
  rfl

end Sealing

end Frame

end OneTimePad
