import OneTimePad.Pad.Padding

/-!
# Padding put on and taken off

A message is padded by writing it over zeros, which succeeds for every message that the
length field can describe.  Taking the padding off goes by the length field alone: of
whatever is behind the message it knows nothing.  So the octets that it accepts are those
of the form marker, length, message, anything, and the padded messages are among them.

All other octets are malformed in one of four ways, and what is wrong with them is said.
Since what follows a message does not count, no padded message is the beginning of another.
-/

namespace OneTimePad.Padding

/-! ## Putting the padding on -/

/-- A message with its padding. -/
def padded (message : List UInt8) : List UInt8 :=
  0 :: Bytes.ofNat 2 message.length ++ message ++
    List.replicate (max minimumLength (overhead + message.length) - overhead - message.length) 0

theorem length_padded (message : List UInt8) :
    (padded message).length = max minimumLength (overhead + message.length) := by
  simp [padded, overhead]
  omega

theorem minimumLength_le_padded (message : List UInt8) :
    minimumLength ≤ (padded message).length := by
  rw [length_padded]
  exact Nat.le_max_left _ _

theorem paddedLength_eq_ok {length : Nat} (fits : overhead + length < wordLimit) :
    paddedLength length = .ok (max minimumLength (overhead + length)) := by
  have sum : Size.add overhead length = .ok (overhead + length) :=
    Size.add_eq_ok_iff.mpr ⟨rfl, fits⟩
  rw [paddedLength, sum, Checked.ok_bind, Checked.pure_eq_ok]
  split
  · rw [Nat.max_eq_right (by omega)]
  · rw [Nat.max_eq_left (by omega)]

theorem paddedLength_eq_ok_iff {length result : Nat} :
    paddedLength length = .ok result ↔
      overhead + length < wordLimit ∧ result = max minimumLength (overhead + length) := by
  constructor
  · intro padding
    rcases Checked.bind_eq_ok_iff.mp padding with ⟨needed, sum, -⟩
    rcases Size.add_eq_ok_iff.mp sum with ⟨rfl, fits⟩
    rw [paddedLength_eq_ok fits, Except.ok.injEq] at padding
    exact ⟨fits, padding.symm⟩
  · rintro ⟨fits, rfl⟩
    exact paddedLength_eq_ok fits

/-- Writing the marker, the length and the message over zeros gives the padded
message. -/
theorem pad_eq_pure {message : List UInt8} (short : message.length ≤ maximumMessage) :
    pad message = pure (padded message) := by
  have notLong : ¬ maximumMessage < message.length := by omega
  have fits : overhead + message.length < wordLimit := by
    simp only [maximumMessage, overhead, wordLimit] at short ⊢
    omega
  have stop : Size.add overhead message.length = .ok (overhead + message.length) :=
    Size.add_eq_ok_iff.mpr ⟨rfl, fits⟩
  have padding := paddedLength_eq_ok fits
  have enough := Nat.le_max_right minimumLength (overhead + message.length)
  unfold padded
  generalize max minimumLength (overhead + message.length) = length at padding enough ⊢
  simp only [overhead] at stop enough
  have marked : Bytes.overwrite (List.replicate length 0) 0 1 [0] = _ :=
    Bytes.overwrite_replicate [] [0] 0 (by simp; omega)
  have sized := Bytes.overwrite_replicate [0] (Bytes.ofNat 2 message.length) 0
    (show _ ≤ length - 1 by simp; omega)
  have written := Bytes.overwrite_replicate ([0] ++ Bytes.ofNat 2 message.length) message 0
    (show _ ≤ length - 1 - 2 by omega)
  simp [Nat.sub_sub] at marked sized written
  simp [pad, notLong, padding, overhead, stop, marked, sized, written, Nat.sub_sub]

/-! ## Taking the padding off -/

/-- Octets that carry a message: behind a zero octet and the length of the message comes
the message, and behind the message comes anything. -/
inductive Carries : (bytes message : List UInt8) → Prop where
  | intro {length message : List UInt8} (size : length.length = 2)
      (declared : Bytes.toNat length = message.length) (rest : List UInt8) :
      Carries (0 :: (length ++ message ++ rest)) message

/-- Behind the marker and the length field, taking the padding off goes by that field. -/
theorem unpad_marked (high low : UInt8) (content : List UInt8) :
    unpad (0 :: high :: low :: content) =
      if Bytes.toNat [high, low] ≤ content.length then
        .ok (content.take (Bytes.toNat [high, low]))
      else .error (.invalidFormat "declared length exceeds buffer") :=
  rfl

theorem unpad_headed {length : List UInt8} (size : length.length = 2) (content : List UInt8) :
    unpad (0 :: (length ++ content)) =
      if Bytes.toNat length ≤ content.length then .ok (content.take (Bytes.toNat length))
      else .error (.invalidFormat "declared length exceeds buffer") := by
  match length, size with
  | [high, low], _ => exact unpad_marked high low content

/-- Taking the padding off succeeds only behind the marker and the length field. -/
theorem exists_marked_of_unpad {bytes message : List UInt8}
    (unpadded : unpad bytes = .ok message) :
    ∃ high low content, bytes = 0 :: high :: low :: content := by
  rcases bytes with _ | ⟨marker, rest⟩
  · cases unpadded
  · by_cases marked : marker = 0
    · subst marked
      rcases rest with _ | ⟨high, _ | ⟨low, content⟩⟩
      · cases unpadded
      · cases unpadded
      · exact ⟨high, low, content, rfl⟩
    · have refused : unpad (marker :: rest) = .error (.invalidFormat "unexpected marker") :=
        if_pos marked
      rw [refused] at unpadded
      cases unpadded

/-- Taking the padding off succeeds with exactly the message that the octets carry. -/
theorem unpad_eq_ok_iff {bytes message : List UInt8} :
    unpad bytes = .ok message ↔ Carries bytes message := by
  constructor
  · intro unpadded
    rcases exists_marked_of_unpad unpadded with ⟨high, low, content, rfl⟩
    rw [unpad_marked] at unpadded
    by_cases inside : Bytes.toNat [high, low] ≤ content.length
    · rw [if_pos inside] at unpadded
      cases unpadded
      have declared : Bytes.toNat [high, low] =
          (content.take (Bytes.toNat [high, low])).length := by
        rw [List.length_take, Nat.min_eq_left inside]
      have carries := Carries.intro rfl declared (content.drop (Bytes.toNat [high, low]))
      rwa [List.append_assoc, List.take_append_drop] at carries
    · rw [if_neg inside] at unpadded
      cases unpadded
  · rintro ⟨size, declared, rest⟩
    have inside : message.length ≤ (message ++ rest).length := by
      rw [List.length_append]
      exact Nat.le_add_right _ _
    rw [List.append_assoc, unpad_headed size, declared, if_pos inside, List.take_left]

theorem carries_padded {message : List UInt8} (short : message.length ≤ maximumMessage) :
    Carries (padded message) message := by
  have fits : message.length < Bytes.capacity 2 := by
    simp only [maximumMessage, Bytes.capacity] at short ⊢
    omega
  exact .intro (Bytes.length_ofNat _ _) (Bytes.toNat_ofNat fits) _

/-- Taking the padding off gives the message back. -/
theorem unpad_padded {message : List UInt8} (short : message.length ≤ maximumMessage) :
    unpad (padded message) = .ok message :=
  unpad_eq_ok_iff.mpr (carries_padded short)

/-! ## Octets that carry nothing -/

/-- What is wrong with octets that carry no message. -/
inductive Malformed : (bytes : List UInt8) → (reason : String) → Prop where
  /-- There are no octets. -/
  | empty : Malformed [] "empty buffer"
  /-- The first octet is not the marker. -/
  | unmarked {marker : UInt8} (wrong : marker ≠ 0) (rest : List UInt8) :
      Malformed (marker :: rest) "unexpected marker"
  /-- The length is cut off. -/
  | cutOff {rest : List UInt8} (short : rest.length < 2) :
      Malformed (0 :: rest) "missing length prefix"
  /-- The octets end before the message does. -/
  | overrun {length content : List UInt8} (size : length.length = 2)
      (beyond : content.length < Bytes.toNat length) :
      Malformed (0 :: (length ++ content)) "declared length exceeds buffer"

/-- Whatever is wrong with octets, taking the padding off says so. -/
theorem Malformed.unpad_eq {bytes : List UInt8} {reason : String}
    (malformed : Malformed bytes reason) : unpad bytes = .error (.invalidFormat reason) := by
  cases malformed with
  | empty => rfl
  | unmarked wrong rest => exact if_pos wrong
  | @cutOff rest short =>
      rcases rest with _ | ⟨high, _ | ⟨low, content⟩⟩
      · rfl
      · rfl
      · simp only [List.length_cons] at short
        omega
  | @overrun length content size beyond =>
      rw [unpad_headed size, if_neg (Nat.not_le.mpr beyond)]

/-- Octets carry a message, or something is wrong with them. -/
theorem carries_or_malformed (bytes : List UInt8) :
    (∃ message, Carries bytes message) ∨ ∃ reason, Malformed bytes reason := by
  rcases bytes with _ | ⟨marker, rest⟩
  · exact .inr ⟨_, .empty⟩
  · by_cases marked : marker = 0
    · subst marked
      rcases rest with _ | ⟨high, _ | ⟨low, content⟩⟩
      · exact .inr ⟨_, .cutOff (by decide)⟩
      · exact .inr ⟨_, .cutOff (Nat.lt_succ_self 1)⟩
      · by_cases inside : Bytes.toNat [high, low] ≤ content.length
        · have unpadded := (unpad_marked high low content).trans (if_pos inside)
          exact .inl ⟨_, unpad_eq_ok_iff.mp unpadded⟩
        · exact .inr ⟨_, .overrun rfl (Nat.not_le.mp inside)⟩
    · exact .inr ⟨_, .unmarked marked rest⟩

/-! ## Both together -/

/-- What follows the octets of a message does not count. -/
theorem Carries.append {bytes message : List UInt8} (carries : Carries bytes message)
    (more : List UInt8) : Carries (bytes ++ more) message := by
  rcases carries with ⟨size, declared, rest⟩
  have longer := Carries.intro size declared (rest ++ more)
  rwa [← List.append_assoc] at longer

theorem pad_eq_throw {message : List UInt8} (long : maximumMessage < message.length) :
    pad message = throw (.messageTooLarge message.length maximumMessage) := by
  simp [pad, long]

/-- A message that was padded is one that the length field can describe. -/
theorem of_pad_eq_pure {message octets : List UInt8} (written : pad message = pure octets) :
    message.length ≤ maximumMessage ∧ octets = padded message := by
  by_cases long : maximumMessage < message.length
  · exact absurd ((pad_eq_throw long).symm.trans written) Attempt.throw_ne_pure
  · have short := Nat.le_of_not_lt long
    exact ⟨short, Attempt.pure_inj.mp (written.symm.trans (pad_eq_pure short))⟩

/-- The padding is exact.  It is taken off exactly the octets that carry a message,
which is given back, and everything else is refused for its format, with what is wrong
about it.  Every message that the length field can describe is padded to the announced
length, with zeros behind it, and comes back; and no padded message begins with that of
another message.  Longer messages are refused. -/
theorem layout_is_exact :
    (∀ bytes message, unpad bytes = .ok message ↔ Carries bytes message) ∧
      (∀ bytes, (¬ ∃ message, Carries bytes message) →
        ∃ reason, unpad bytes = .error (.invalidFormat reason) ∧ Malformed bytes reason) ∧
      (∀ message : List UInt8, message.length ≤ 65535 →
        ∃ octets length fill, pad message = pure octets ∧
          octets = 0 :: (length ++ message ++ List.replicate fill 0) ∧
          length.length = 2 ∧ Bytes.toNat length = message.length ∧
          octets.length = max 32 (message.length + 3) ∧
          paddedLength message.length = .ok octets.length ∧ unpad octets = .ok message) ∧
      (∀ left right octets others, pad left = pure octets → pad right = pure others →
        octets <+: others → left = right) ∧
      ∀ message : List UInt8, 65535 < message.length →
        pad message = throw (.messageTooLarge message.length 65535) := by
  refine ⟨fun bytes message => unpad_eq_ok_iff, ?_, ?_, ?_, fun message => pad_eq_throw⟩
  · intro bytes barren
    rcases carries_or_malformed bytes with carries | ⟨reason, malformed⟩
    · exact absurd carries barren
    · exact ⟨reason, malformed.unpad_eq, malformed⟩
  · intro message short
    have fits : message.length < Bytes.capacity 2 := Nat.lt_succ_of_le short
    have size : overhead + message.length < wordLimit := by
      simp only [overhead, wordLimit]
      omega
    have announced := paddedLength_eq_ok size
    rw [← length_padded] at announced
    have length := length_padded message
    rw [Nat.add_comm overhead] at length
    exact ⟨_, Bytes.ofNat 2 message.length, _, pad_eq_pure short, rfl, Bytes.length_ofNat _ _,
      Bytes.toNat_ofNat fits, length, announced, unpad_padded short⟩
  · rintro left right octets others leftWritten rightWritten ⟨more, rfl⟩
    rcases of_pad_eq_pure leftWritten with ⟨leftShort, rfl⟩
    rcases of_pad_eq_pure rightWritten with ⟨rightShort, same⟩
    have carried := unpad_eq_ok_iff.mpr ((carries_padded leftShort).append more)
    rw [same, unpad_padded rightShort] at carried
    exact (Except.ok.inj carried).symm

/-- Two messages, one of which begins with the other, are told apart when they are padded;
octets without a length carry nothing; and a message of one octet too many is refused. -/
theorem layout_is_exact_boundary :
    (∃ octets others, pad [7] = pure octets ∧ pad [7, 0] = pure others ∧ ¬ octets <+: others ∧
        unpad octets = .ok [7] ∧ unpad others = .ok [7, 0]) ∧
      (∃ reason, unpad [0, 0] = .error (.invalidFormat reason) ∧ Malformed [0, 0] reason) ∧
      pad (List.replicate 65536 0) = throw (.messageTooLarge 65536 65535) := by
  rcases layout_is_exact with ⟨-, refuses, pads, separates, limits⟩
  rcases pads [7] (by decide) with ⟨octets, _, _, written, -, -, -, -, -, unpadded⟩
  rcases pads [7, 0] (by decide) with ⟨others, _, _, otherWritten, -, -, -, -, -, otherUnpadded⟩
  have distinct : ([7] : List UInt8) ≠ [7, 0] := by decide
  have barren : ¬ ∃ message, Carries [0, 0] message := by
    rintro ⟨message, carries⟩
    have unpadded := unpad_eq_ok_iff.mpr carries
    cases unpadded
  have long := limits (List.replicate 65536 0)
  rw [List.length_replicate] at long
  exact ⟨⟨octets, others, written, otherWritten,
    mt (separates _ _ _ _ written otherWritten) distinct, unpadded, otherUnpadded⟩,
    refuses _ barren, long (by decide)⟩

end OneTimePad.Padding
