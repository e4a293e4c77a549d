import OneTimePad.Proofs.Frame.Opening

/-!
# Changing one octet of a key

The last octet of the authenticator's key goes into a tag once, as part of a
mask.  So an authentic frame becomes a forgery as soon as this octet of the
region is another one.
-/

namespace OneTimePad

open Authenticator (keySize)

namespace Authenticator

theorem sign_eq_ok {key header ciphertext : List UInt8} {signed : Tag}
    (sign_eq : sign key header ciphertext = .ok signed) :
    key.length = keySize ∧
      signed.right =
        hash (load ((key.drop 16).take 16)) header ciphertext ^^^ load ((key.drop 48).take 16) := by
  have length := length_eq_of_sign sign_eq
  rcases Checked.bind_eq_ok_iff.mp sign_eq with ⟨read, copied, sign_eq⟩
  rcases Checked.bind_eq_ok_iff.mp sign_eq with ⟨size, -, sign_eq⟩
  rw [Key.copy, Key.ofBytes?, if_pos length] at copied
  cases copied
  cases sign_eq
  exact ⟨length, rfl⟩

/-- The last octet of a key goes into the mask of the tag, and nothing else
does. -/
theorem sign_set_last_ne {key header ciphertext : List UInt8} {byte : UInt8} {before after : Tag}
    (signed : sign key header ciphertext = .ok before)
    (changed : sign (key.set 63 byte) header ciphertext = .ok after)
    (differs : key[63]? ≠ some byte) : before ≠ after := by
  rintro rfl
  rcases sign_eq_ok signed with ⟨length, right⟩
  rcases sign_eq_ok changed with ⟨-, changedRight⟩
  have point : ((key.set 63 byte).drop 16).take 16 = (key.drop 16).take 16 := by
    simp [List.drop_set, List.take_set_of_le]
  have mask : ((key.set 63 byte).drop 48).take 16 = ((key.drop 48).take 16).set 15 byte := by
    simp [List.drop_set, List.take_set]
  rw [point, mask, right] at changedRight
  have sameMask := congrArg store ((BitVec.xor_right_inj _).mp changedRight)
  have blockLength : ((key.drop 48).take 16).length = blockSize := by
    simp [length, keySize, blockSize]
  rw [store_load blockLength, store_load (by rwa [List.length_set])] at sameMask
  have last := congrArg (fun block => block[15]?) sameMask
  have inBlock : 15 < ((key.drop 48).take 16).length := by
    rw [blockLength]
    decide
  simp only [List.getElem?_set_self inBlock, List.getElem?_take, List.getElem?_drop] at last
  exact differs last

end Authenticator

theorem KeySpan.authKey_set (span : KeySpan) (region : List UInt8) (byte : UInt8) :
    span.authKey (region.set (span.offset.toNat + span.cipherLength + 63) byte) =
      (span.authKey region).set 63 byte := by
  have notBefore : ¬ span.offset.toNat + span.cipherLength + 63 <
      span.offset.toNat + span.cipherLength := by omega
  rw [authKey, authKey, List.drop_set, if_neg notBefore, List.take_set, Nat.add_sub_cancel_left]

theorem KeySpan.getElem?_authKey_last (span : KeySpan) (region : List UInt8) :
    (span.authKey region)[63]? = region[span.offset.toNat + span.cipherLength + 63]? := by
  rw [authKey, List.getElem?_take_of_lt (by decide), List.getElem?_drop]

/-- With another last octet in its key, an authentic frame is a forgery. -/
theorem Frame.not_authentic_set {frame : Frame} {region : List UInt8} {byte : UInt8}
    (authentic : frame.Authentic region)
    (differs : region[frame.offset.toNat + frame.ciphertext.length + 63]? ≠ some byte) :
    ¬ frame.Authentic
      (region.set (frame.offset.toNat + frame.ciphertext.length + 63) byte) := by
  intro stillAuthentic
  rw [authentic_iff, Signed] at authentic stillAuthentic
  have key := frame.keySpan.authKey_set region byte
  change frame.keySpan.authKey
    (region.set (frame.offset.toNat + frame.ciphertext.length + 63) byte) = _ at key
  rw [key] at stillAuthentic
  refine Authenticator.sign_set_last_ne authentic stillAuthentic ?_ rfl
  rw [KeySpan.getElem?_authKey_last]
  exact differs

end OneTimePad
