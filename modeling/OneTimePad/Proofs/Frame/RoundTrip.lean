import OneTimePad.Proofs.Frame.Grammar
import OneTimePad.Proofs.Frame.Opening

/-!
# From message to message

A message is sealed exactly if it is short enough for a frame and its key
material lies in the region.  Then the frame survives the wire, and opening it
under the same region gives the message back.  Otherwise the answer is the first
of three reasons: the message does not fit the length field of the padding, the
padded message does not fit the length field of the frame, or the region is too
short.
-/

namespace OneTimePad.Frame

variable {region : List UInt8} {offset : UInt64} {message : List UInt8}

/-- Why a message is not sealed. -/
inductive Unsealable (region : List UInt8) (offset : UInt64) (message : List UInt8) :
    FrameError → Prop where
  /-- The message does not fit the length field of the padding. -/
  | longMessage (large : 65535 < message.length) :
      Unsealable region offset message (.primitive (.messageTooLarge message.length 65535))
  /-- The padded message does not fit the length field of the frame. -/
  | largePayload (large : 65532 < message.length) (small : message.length ≤ 65535) :
      Unsealable region offset message (.payloadTooLarge (3 + message.length) 65535)
  /-- The key material does not lie in the region. -/
  | outside (small : message.length ≤ 65532)
      (beyond : region.length < offset.toNat + (max 32 (3 + message.length) + 64)) :
      Unsealable region offset message
        (.offsetOutOfRange offset.toNat (max 32 (3 + message.length) + 64) region.length)

/-- A padded message fits a frame exactly if the message leaves room for the
octets in front of it. -/
theorem short_iff :
    (Padding.padded message).length ≤ maximumCiphertext ↔ message.length ≤ 65532 := by
  rw [Padding.length_padded]
  simp only [Padding.minimumLength, Padding.overhead, maximumCiphertext]
  omega

/-- The key material lies in the region exactly if the padded message and the
key of the authenticator do. -/
theorem within_messageSpan_iff :
    (messageSpan offset message).Within region ↔
      offset.toNat + (max 32 (3 + message.length) + 64) ≤ region.length := by
  rw [KeySpan.Within, messageSpan, Padding.length_padded]
  rfl

/-- Padding a message that is too large for it fails. -/
theorem pad_of_large (large : Padding.maximumMessage < message.length) :
    Padding.pad message = throw (.messageTooLarge message.length Padding.maximumMessage) := by
  rw [Padding.pad, if_pos large]
  rfl

/-- Whatever stands against a message, sealing says so. -/
theorem Unsealable.sealAt_eq {error : FrameError}
    (unsealable : Unsealable region offset message error) :
    sealAt region offset message = throw error := by
  cases unsealable with
  | longMessage large =>
      rw [sealAt, primitively, pad_of_large large]
      rfl
  | largePayload large small =>
      have long : maximumCiphertext < (Padding.padded message).length :=
        Nat.lt_of_not_le (mt short_iff.mp (Nat.not_le.mpr large))
      have length : (Padding.padded message).length = 3 + message.length := by
        rw [Padding.length_padded]
        exact Nat.max_eq_right (by rw [Padding.minimumLength]; omega)
      rw [sealAt, primitively, Padding.pad_eq_pure small, Attempt.adapt_pure, pure_bind,
        if_pos long, length]
      rfl
  | outside small beyond =>
      have outside := mt within_messageSpan_iff.mp (Nat.not_le.mpr beyond)
      rw [sealAt_of_not_within (short_iff.mpr small) outside, Padding.length_padded]
      rfl

/-- A message is sealed, or something stands against it. -/
theorem sealed_or_unsealable (region : List UInt8) (offset : UInt64) (message : List UInt8) :
    (message.length ≤ 65532 ∧
        offset.toNat + (max 32 (3 + message.length) + 64) ≤ region.length ∧
        ∃ frame, sealAt region offset message = pure frame ∧
          frame.Seals region offset message) ∨
      ∃ error, Unsealable region offset message error := by
  by_cases small : message.length ≤ 65532
  · by_cases inside : offset.toNat + (max 32 (3 + message.length) + 64) ≤ region.length
    · have sealed := exists_sealAt (short_iff.mpr small) (within_messageSpan_iff.mpr inside)
      exact .inl ⟨small, inside, sealed⟩
    · exact .inr ⟨_, .outside small (Nat.lt_of_not_le inside)⟩
  · have large := Nat.lt_of_not_le small
    by_cases fits : message.length ≤ 65535
    · exact .inr ⟨_, .largePayload large fits⟩
    · exact .inr ⟨_, .longMessage (Nat.lt_of_not_le fits)⟩

/-- The domain of sealing, by the padded length as it is computed. -/
theorem sealable_iff (small : message.length ≤ 65532) :
    (∃ length, Padding.paddedLength message.length = .ok length ∧
        offset.toNat + length + 64 ≤ region.length) ↔
      offset.toNat + (max 32 (3 + message.length) + 64) ≤ region.length := by
  have fits : Padding.overhead + message.length < wordLimit := by
    rw [Padding.overhead, wordLimit]
    omega
  have padding : Padding.paddedLength message.length = .ok (max 32 (3 + message.length)) :=
    Padding.paddedLength_eq_ok fits
  rw [← Nat.add_assoc]
  constructor
  · rintro ⟨length, computed, inside⟩
    obtain rfl := Except.ok.inj (padding.symm.trans computed)
    exact inside
  · intro inside
    exact ⟨_, padding, inside⟩

/-- Sealing and opening are inverse through the wire, on an exact domain.  A
message is sealed if and only if it has at most 65532 octets and the padded
message lies with the key of the authenticator in the region.  The frame is read
back from its octets, and opened with the message.  What is not sealed is
refused with the reason. -/
theorem sealAt_round_trip (region : List UInt8) (offset : UInt64) (message : List UInt8) :
    ((∃ frame, sealAt region offset message = pure frame) ↔
        message.length ≤ 65532 ∧
          ∃ length, Padding.paddedLength message.length = .ok length ∧
            offset.toNat + length + 64 ≤ region.length) ∧
      (∀ frame, sealAt region offset message = pure frame →
        ofBytes frame.toBytes = pure frame ∧ frame.openWith region = pure message) ∧
      ((¬ ∃ frame, sealAt region offset message = pure frame) →
        ∃ error, sealAt region offset message = throw error ∧
          Unsealable region offset message error) := by
  rcases sealed_or_unsealable region offset message with
    ⟨small, inside, frame, sealed, seals⟩ | ⟨error, unsealable⟩
  · have within := within_messageSpan_iff.mpr inside
    have fits : message.length ≤ Padding.maximumMessage := small.trans (by decide)
    have long : Padding.minimumLength ≤ frame.ciphertext.length := by
      rw [seals.ciphertext_eq, length_encrypted within]
      exact Padding.minimumLength_le_padded message
    refine ⟨⟨fun _ => ⟨small, (sealable_iff small).mpr inside⟩, fun _ => ⟨frame, sealed⟩⟩, ?_,
      fun unsealed => absurd ⟨frame, sealed⟩ unsealed⟩
    intro other otherSealed
    obtain rfl := Attempt.pure_inj.mp (sealed.symm.trans otherSealed)
    constructor
    · exact ofBytes_toBytes long
    · exact seals.openWith_eq within fits
  · have refused := unsealable.sealAt_eq
    have unsealed : ¬ ∃ frame, sealAt region offset message = pure frame := by
      rintro ⟨frame, sealed⟩
      exact Attempt.throw_ne_pure (refused.symm.trans sealed)
    refine ⟨⟨fun sealed => absurd sealed unsealed, ?_⟩, ?_, fun _ => ⟨error, refused, unsealable⟩⟩
    · rintro ⟨small, sealable⟩
      have inside := (sealable_iff small).mp sealable
      cases unsealable with
      | longMessage large => omega
      | largePayload large _ => omega
      | outside _ beyond => omega
    · intro frame sealed
      exact absurd ⟨frame, sealed⟩ unsealed

/-- A short message that takes the last positions of a region of zeros is read
and opened, and one position further on it is refused. -/
theorem sealAt_round_trip_last_positions :
    (∃ frame, sealAt (List.replicate 100 0) 4 [104, 105] = pure frame ∧
        ofBytes frame.toBytes = pure frame ∧
        frame.openWith (List.replicate 100 0) = pure [104, 105]) ∧
      ∃ error, sealAt (List.replicate 100 0) 5 [104, 105] = throw error ∧
        Unsealable (List.replicate 100 0) 5 [104, 105] error := by
  constructor
  · rcases sealAt_round_trip (List.replicate 100 0) 4 [104, 105] with ⟨domain, opens, -⟩
    rcases domain.mpr ⟨by decide, 32, rfl, by decide⟩ with ⟨frame, sealed⟩
    exact ⟨frame, sealed, opens frame sealed⟩
  · rcases sealAt_round_trip (List.replicate 100 0) 5 [104, 105] with ⟨domain, -, refuses⟩
    apply refuses
    intro sealed
    rcases domain.mp sealed with ⟨-, length, padding, inside⟩
    have floor : Padding.paddedLength [104, 105].length = .ok 32 := rfl
    obtain rfl := Except.ok.inj (floor.symm.trans padding)
    revert inside
    decide

end OneTimePad.Frame
