import OneTimePad.Proofs.Frame.Agreement

/-!
# What opening tells

A frame is opened with a message exactly if it is long enough, its key material lies in
the region, its tag is the one that its key signs with, and what the cipher makes of it
carries the message.  Otherwise the answer is the first of four reasons, in this order.

The key of the cipher is used last.  So the answer to a forgery does not depend on it:
who sends forgeries learns nothing about the octets that the cipher would use, and in
particular not whether the padding would have been right.
-/

namespace OneTimePad.Frame

open Authenticator (keySize)

/-! ## Authentic frames -/

/-- The tag of a frame verifies under the key that the frame points to. -/
def Authentic (frame : Frame) (region : List UInt8) : Prop :=
  Authenticator.verify (frame.keySpan.authKey region) frame.header.toBytes frame.ciphertext
    frame.tag.toBytes = .ok true

/-- The tag of a frame is the one that the key in the region signs with. -/
def Signed (frame : Frame) (region : List UInt8) : Prop :=
  Authenticator.sign (frame.keySpan.authKey region) frame.header.toBytes frame.ciphertext =
    .ok frame.tag

variable {frame : Frame} {region message : List UInt8}

/-- A frame is authentic when its tag is the one that its key signs with. -/
theorem authentic_iff : frame.Authentic region ↔ frame.Signed region := by
  rcases Authenticator.exists_verify frame.signable (frame.keySpan.authKey region) frame.tag with
    ⟨verified, verify, yes_iff⟩
  rw [Authentic, Signed, verify, Except.ok.injEq, yes_iff]

/-- Under any other tag, an authentic frame is a forgery. -/
theorem Authentic.not_authentic_of_ne {tag : Authenticator.Tag}
    (authentic : frame.Authentic region) (differs : tag ≠ frame.tag) :
    ¬ ({ frame with tag } : Frame).Authentic region := by
  intro forged
  have signed := authentic_iff.mp authentic
  have forgedSigned := authentic_iff.mp forged
  exact differs (Except.ok.inj (forgedSigned.symm.trans signed))

/-- Whoever knows the keys can make an authentic frame of any ciphertext. -/
theorem exists_authentic {ciphertext : List UInt8} (fits : ciphertext.length < Bytes.capacity 2)
    {offset : UInt64} (within : KeySpan.Within ⟨offset, ciphertext.length⟩ region) :
    ∃ frame : Frame, frame.offset = offset ∧ frame.ciphertext = ciphertext ∧
      frame.Authentic region := by
  rcases exists_make fits offset ⟨0, 0⟩ with ⟨blank, -, rfl, rfl⟩
  rcases Authenticator.exists_sign blank.signable (KeySpan.length_authKey within) with ⟨tag, signed⟩
  exact ⟨{ blank with tag }, rfl, rfl, authentic_iff.mpr signed⟩

/-! ## Opening as an equation -/

/-- What the cipher makes of a frame. -/
def decrypted (frame : Frame) (region : List UInt8) : List UInt8 :=
  Bytes.xor (frame.keySpan.cipherKey region) frame.ciphertext

theorem openWith_of_not_within (long : Padding.minimumLength ≤ frame.ciphertext.length)
    (outside : ¬ frame.keySpan.Within region) :
    frame.openWith region =
      throw (.offsetOutOfRange frame.offset.toNat (frame.ciphertext.length + keySize)
        region.length) := by
  have notShort : ¬ frame.ciphertext.length < Padding.minimumLength := by omega
  have keys := KeySpan.keys_eq_throw frame.fits outside
  unfold keySpan at keys
  simp [openWith, notShort, keys]

theorem openWith_of_not_authentic (long : Padding.minimumLength ≤ frame.ciphertext.length)
    (within : frame.keySpan.Within region) (forged : ¬ frame.Authentic region) :
    frame.openWith region = throw .authenticationFailed := by
  have notShort : ¬ frame.ciphertext.length < Padding.minimumLength := by omega
  have keys := KeySpan.keys_eq_pure frame.fits within
  rcases Authenticator.exists_verify frame.signable (frame.keySpan.authKey region) frame.tag with
    ⟨verified, verify, -⟩
  have rejected : verified = false := by
    rw [← Bool.not_eq_true]
    rintro rfl
    exact forged verify
  unfold keySpan at keys verify
  simp [openWith, notShort, keys, verify, rejected]

theorem openWith_of_authentic (long : Padding.minimumLength ≤ frame.ciphertext.length)
    (within : frame.keySpan.Within region) (authentic : frame.Authentic region) :
    frame.openWith region =
      match Padding.unpad (frame.decrypted region) with
      | .ok message => pure message
      | .error _ => throw (.invalidFormat "malformed padding") := by
  have notShort : ¬ frame.ciphertext.length < Padding.minimumLength := by omega
  have keys := KeySpan.keys_eq_pure frame.fits within
  have applied : Cipher.apply (frame.keySpan.cipherKey region) frame.ciphertext =
      .ok (frame.decrypted region) :=
    Cipher.apply_eq_ok_iff.mpr ⟨KeySpan.length_cipherKey within, rfl⟩
  unfold Authentic at authentic
  unfold keySpan at keys authentic applied
  cases content : Padding.unpad (frame.decrypted region) with
  | error error => simp [openWith, notShort, keys, authentic, applied, primitively, content]
  | ok message => simp [openWith, notShort, keys, authentic, applied, primitively, content]

/-! ## What is opened -/

/-- A frame that a region opens with a message. -/
structure Opens (frame : Frame) (region message : List UInt8) : Prop where
  long : 32 ≤ frame.ciphertext.length
  inside : frame.offset.toNat + (frame.ciphertext.length + 64) ≤ region.length
  signed : frame.Signed region
  carries : Padding.Carries (frame.decrypted region) message

/-- Why a frame is not opened: the first condition that fails. -/
inductive Unopenable (frame : Frame) (region : List UInt8) : FrameError → Prop where
  /-- The ciphertext is shorter than any padded message. -/
  | short (small : frame.ciphertext.length < 32) :
      Unopenable frame region (.ciphertextTooShort frame.ciphertext.length 32)
  /-- The key material does not lie in the region. -/
  | outside (long : 32 ≤ frame.ciphertext.length)
      (beyond : region.length < frame.offset.toNat + (frame.ciphertext.length + 64)) :
      Unopenable frame region
        (.offsetOutOfRange frame.offset.toNat (frame.ciphertext.length + 64) region.length)
  /-- The tag is another one. -/
  | forged (long : 32 ≤ frame.ciphertext.length)
      (inside : frame.offset.toNat + (frame.ciphertext.length + 64) ≤ region.length)
      (unsigned : ¬ frame.Signed region) :
      Unopenable frame region .authenticationFailed
  /-- The content is not that of any message. -/
  | malformed (long : 32 ≤ frame.ciphertext.length)
      (inside : frame.offset.toNat + (frame.ciphertext.length + 64) ≤ region.length)
      (signed : frame.Signed region)
      (empty : ∀ message, ¬ Padding.Carries (frame.decrypted region) message) :
      Unopenable frame region (.invalidFormat "malformed padding")

variable {error : FrameError}

theorem Opens.openWith_eq (opens : frame.Opens region message) :
    frame.openWith region = pure message := by
  have authentic := authentic_iff.mpr opens.signed
  have unpadded := Padding.unpad_eq_ok_iff.mpr opens.carries
  rw [openWith_of_authentic opens.long opens.inside authentic, unpadded]

theorem Unopenable.openWith_eq (unopenable : Unopenable frame region error) :
    frame.openWith region = throw error := by
  cases unopenable with
  | short small =>
      have notLong : frame.ciphertext.length < Padding.minimumLength := small
      rw [openWith, if_pos notLong]
      rfl
  | outside long beyond => exact openWith_of_not_within long (Nat.not_le.mpr beyond)
  | forged long inside unsigned =>
      exact openWith_of_not_authentic long inside (mt authentic_iff.mp unsigned)
  | malformed long inside signed empty =>
      have authentic := authentic_iff.mpr signed
      rw [openWith_of_authentic long inside authentic]
      cases content : Padding.unpad (frame.decrypted region) with
      | error _ => rfl
      | ok message => exact absurd (Padding.unpad_eq_ok_iff.mp content) (empty message)

/-- A frame is opened with a message, or something stands against it. -/
theorem opens_or_unopenable (frame : Frame) (region : List UInt8) :
    (∃ message, frame.Opens region message) ∨ ∃ error, Unopenable frame region error := by
  by_cases long : 32 ≤ frame.ciphertext.length
  · by_cases inside : frame.offset.toNat + (frame.ciphertext.length + 64) ≤ region.length
    · by_cases signed : frame.Signed region
      · by_cases carries : ∃ message, Padding.Carries (frame.decrypted region) message
        · rcases carries with ⟨message, carries⟩
          exact .inl ⟨message, long, inside, signed, carries⟩
        · exact .inr ⟨_, .malformed long inside signed (not_exists.mp carries)⟩
      · exact .inr ⟨_, .forged long inside signed⟩
    · exact .inr ⟨_, .outside long (Nat.lt_of_not_le inside)⟩
  · exact .inr ⟨_, .short (Nat.lt_of_not_le long)⟩

theorem openWith_eq_pure_iff : frame.openWith region = pure message ↔ frame.Opens region message := by
  constructor
  · intro opened
    rcases opens_or_unopenable frame region with ⟨other, opens⟩ | ⟨error, unopenable⟩
    · obtain rfl := Attempt.pure_inj.mp (opens.openWith_eq.symm.trans opened)
      exact opens
    · exact absurd (unopenable.openWith_eq.symm.trans opened) Attempt.throw_ne_pure
  · exact Opens.openWith_eq

theorem openWith_eq_throw_iff :
    frame.openWith region = throw error ↔ Unopenable frame region error := by
  constructor
  · intro refused
    rcases opens_or_unopenable frame region with ⟨message, opens⟩ | ⟨other, unopenable⟩
    · exact absurd (refused.symm.trans opens.openWith_eq) Attempt.throw_ne_pure
    · obtain rfl := Attempt.throw_inj.mp (unopenable.openWith_eq.symm.trans refused)
      exact unopenable
  · exact Unopenable.openWith_eq

/-- Whatever stands against a frame concerns this frame only. -/
theorem Unopenable.isDroppable (unopenable : Unopenable frame region error) :
    error.isDroppable = true := by
  cases unopenable <;> rfl

/-- A sealed frame is opened with its message. -/
theorem Seals.openWith_eq {offset : UInt64} (seals : frame.Seals region offset message)
    (within : (messageSpan offset message).Within region)
    (short : message.length ≤ Padding.maximumMessage) :
    frame.openWith region = pure message := by
  have span := seals.keySpan_eq within
  apply Opens.openWith_eq
  constructor
  · exact seals.minimumLength_le within
  · change frame.keySpan.Within region
    rwa [span]
  · rw [Signed, span]
    exact seals.signed
  · have content : frame.decrypted region = Padding.padded message := by
      rw [decrypted, seals.ciphertext_eq, span]
      exact Bytes.xor_xor_cancel (KeySpan.length_cipherKey within)
    rw [content]
    exact Padding.carries_padded short

/-! ## Forgeries -/

section Agree

variable {other : List UInt8} (agree : AgreeOutside frame.keySpan.cipherPositions region other)

include agree

/-- The key of the authenticator is not part of the key of the cipher. -/
theorem signed_congr : frame.Signed region ↔ frame.Signed other := by
  have clear : Disjoint frame.keySpan.authPositions frame.keySpan.cipherPositions :=
    Set.disjoint_left.mpr fun _ => KeySpan.notMem_cipherPositions
  rw [Signed, Signed, KeySpan.authKey_congr agree clear]

/-- A forgery is refused for one reason, whatever the key of the cipher is. -/
theorem Unopenable.congr_of_forged (unopenable : Unopenable frame region error)
    (unsigned : ¬ frame.Signed region) : Unopenable frame other error := by
  cases unopenable with
  | short small => exact .short small
  | outside long beyond =>
      rw [agree.length_eq] at beyond ⊢
      exact .outside long beyond
  | forged long inside _ =>
      rw [agree.length_eq] at inside
      exact .forged long inside (mt (signed_congr agree).mpr unsigned)
  | malformed long inside signed empty => exact absurd signed unsigned

end Agree

/-- Opening decides which frames a region opens, and tells nothing else.  It answers with a
message exactly if the frame carries it under the keys in the region, and otherwise with
the first reason against it.  Where the tag does not verify, two regions that differ in the
key of the cipher only give the same error. -/
theorem openWith_tells_no_padding (frame : Frame) (region : List UInt8) :
    (∀ message, frame.openWith region = pure message ↔ frame.Opens region message) ∧
      (∀ error, frame.openWith region = throw error ↔ Unopenable frame region error) ∧
      ((∃ message, frame.Opens region message) ∨ ∃ error, Unopenable frame region error) ∧
      ∀ other, AgreeOutside frame.keySpan.cipherPositions region other →
        ¬ frame.Authentic region →
        ∃ error, frame.openWith region = throw error ∧ frame.openWith other = throw error := by
  refine ⟨fun message => openWith_eq_pure_iff, fun error => openWith_eq_throw_iff,
    opens_or_unopenable frame region, ?_⟩
  intro other agree forged
  rcases opens_or_unopenable frame region with ⟨message, opens⟩ | ⟨error, unopenable⟩
  · exact absurd (authentic_iff.mpr opens.signed) forged
  · have stillUnopenable := unopenable.congr_of_forged agree (mt authentic_iff.mpr forged)
    exact ⟨error, unopenable.openWith_eq, stillUnopenable.openWith_eq⟩

/-- A region of zeros signs with a tag of zeros, and opens the frame that has it with the
empty message.  With another tag the frame is refused, also where the key of the cipher
has another octet. -/
theorem openWith_tells_no_padding_zeros :
    ∃ frame forgery, make 0 (List.replicate 32 0) ⟨0, 0⟩ = .ok frame ∧
      make 0 (List.replicate 32 0) ⟨0, 1⟩ = .ok forgery ∧
      frame.openWith (List.replicate 96 0) = pure [] ∧
      ∃ error, forgery.openWith (List.replicate 96 0) = throw error ∧
        forgery.openWith ((List.replicate 96 0).set 0 1) = throw error := by
  let header : Header := ⟨0, 32⟩
  have signed : Authenticator.sign (List.replicate 64 0) header.toBytes (List.replicate 32 0) =
      .ok ⟨0, 0⟩ := by
    have key : Authenticator.Key.toBytes ⟨0, 0, 0, 0⟩ = List.replicate 64 0 := by decide
    have fits : header.toBytes.length + (List.replicate 32 (0 : UInt8)).length < wordLimit := by
      rw [Header.length_toBytes]
      decide
    have zeros : Authenticator.tag ⟨0, 0, 0, 0⟩ header.toBytes (List.replicate 32 0) = ⟨0, 0⟩ := by
      decide +kernel
    rw [← key, Authenticator.sign_toBytes fits, zeros]
  let frame : Frame := ⟨0, List.replicate 32 0, ⟨0, 0⟩, by decide⟩
  let forgery : Frame := ⟨0, List.replicate 32 0, ⟨0, 1⟩, by decide⟩
  refine ⟨frame, forgery, rfl, rfl, ?_, ?_⟩
  · apply ((openWith_tells_no_padding frame _).1 []).mpr
    have content : frame.decrypted (List.replicate 96 0) = Padding.padded [] := by
      decide +kernel
    have short : ([] : List UInt8).length ≤ Padding.maximumMessage := Nat.zero_le _
    have carries := Padding.carries_padded short
    rw [← content] at carries
    exact ⟨by decide, by decide, signed, carries⟩
  · apply (openWith_tells_no_padding forgery _).2.2.2
    · exact .set _ (Set.mem_Ico.mpr ⟨Nat.le_refl 0, by decide⟩) 1
    · rw [authentic_iff]
      intro other
      have tags := Except.ok.inj (signed.symm.trans other)
      exact absurd tags (by decide)

end OneTimePad.Frame
