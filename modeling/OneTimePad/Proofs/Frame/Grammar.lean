import OneTimePad.Proofs.Frame.Wire

/-!
# The grammar of frames

A frame is written as the offset in eight octets, the length of the ciphertext
in two, the ciphertext, which is not shorter than the floor, and the tag; and
nothing stands around it.  Reading accepts exactly these octets, and each frame
is the only one that its octets stand for.

All other octets are malformed in one of four ways: the header is cut off, it
declares less than the floor, or what stands behind it is shorter or longer than
it declares.  Reading answers with the first of them that applies.
-/

namespace OneTimePad.Frame

/-! ## Well-formed octets -/

/-- The octets that a frame is written as. -/
inductive Written : Frame → List UInt8 → Prop where
  | intro {frame : Frame} {offset length tag : List UInt8}
      (offsetSize : offset.length = 8) (offset_eq : Bytes.toNat offset = frame.offset.toNat)
      (lengthSize : length.length = 2) (length_eq : Bytes.toNat length = frame.ciphertext.length)
      (long : 32 ≤ frame.ciphertext.length)
      (tagSize : tag.length = 32) (tag_eq : frame.tag.toBytes = tag) :
      Written frame (offset ++ length ++ frame.ciphertext ++ tag)

variable {frame : Frame} {bytes : List UInt8}

/-- The octets of a frame are written by the grammar. -/
theorem written_toBytes (long : Padding.minimumLength ≤ frame.ciphertext.length) :
    frame.Written frame.toBytes := by
  have offsetFits : frame.offset.toNat < Bytes.capacity 8 := frame.offset.toNat_lt
  have header : frame.header.toBytes =
      Bytes.ofNat 8 frame.offset.toNat ++ Bytes.ofNat 2 frame.ciphertext.length := by
    rw [Header.toBytes, toNat_headerLength]
    rfl
  rw [toBytes, header]
  apply Written.intro
  · exact Bytes.length_ofNat _ _
  · exact Bytes.toNat_ofNat offsetFits
  · exact Bytes.length_ofNat _ _
  · exact Bytes.toNat_ofNat frame.fits
  · exact long
  · exact frame.tag.length_toBytes
  · rfl

/-- The grammar leaves no choice of octets. -/
theorem Written.toBytes_eq (written : frame.Written bytes) : frame.toBytes = bytes := by
  cases written with
  | @intro offset length tag offsetSize offset_eq lengthSize length_eq long tagSize tag_eq =>
      have offsetOctets : Bytes.ofNat 8 frame.offset.toNat = offset := by
        rw [← offset_eq, ← offsetSize, Bytes.ofNat_toNat]
      have lengthOctets : Bytes.ofNat 2 frame.ciphertext.length = length := by
        rw [← length_eq, ← lengthSize, Bytes.ofNat_toNat]
      rw [toBytes, Header.toBytes, toNat_headerLength, lengthOctets, tag_eq, ← offsetOctets]
      rfl

theorem Written.minimumLength_le (written : frame.Written bytes) :
    Padding.minimumLength ≤ frame.ciphertext.length := by
  cases written with
  | intro _ _ _ _ long _ _ => exact long

/-- Reading accepts exactly what the grammar writes. -/
theorem ofBytes_eq_pure_iff : ofBytes bytes = pure frame ↔ frame.Written bytes := by
  constructor
  · intro parsed
    rcases ofBytes_cases bytes with ⟨error, unreadable⟩ | ⟨other, read, long, rfl⟩
    · exact absurd (unreadable.symm.trans parsed) Attempt.throw_ne_pure
    · obtain rfl := Attempt.pure_inj.mp (read.symm.trans parsed)
      exact written_toBytes long
  · intro written
    rw [← written.toBytes_eq]
    exact ofBytes_toBytes written.minimumLength_le

/-! ## Malformed octets -/

/-- The length that octets declare for the ciphertext. -/
def declaredLength (bytes : List UInt8) : Nat :=
  Bytes.toNat ((bytes.drop 8).take 2)

/-- What is wrong with octets that are not those of a frame. -/
inductive Malformed (bytes : List UInt8) : FrameError → Prop where
  /-- The header is cut off. -/
  | headless (cut : bytes.length < 10) : Malformed bytes (.frameTooShort 10 bytes.length)
  /-- The header declares less than the floor. -/
  | belowFloor (headed : 10 ≤ bytes.length) (small : declaredLength bytes < 32) :
      Malformed bytes (.ciphertextTooShort (declaredLength bytes) 32)
  /-- The octets end before the frame does. -/
  | cutOff (headed : 10 ≤ bytes.length) (large : 32 ≤ declaredLength bytes)
      (short : bytes.length < 42 + declaredLength bytes) :
      Malformed bytes (.frameTooShort (42 + declaredLength bytes) bytes.length)
  /-- The octets go on after the frame. -/
  | overlong (headed : 10 ≤ bytes.length) (large : 32 ≤ declaredLength bytes)
      (long : 42 + declaredLength bytes < bytes.length) :
      Malformed bytes (.trailingBytes (42 + declaredLength bytes) bytes.length)

/-- Ten octets are a header, and it declares a length. -/
theorem exists_header (headed : 10 ≤ bytes.length) :
    ∃ header, Header.ofBytes bytes = .ok header ∧
      header.length.toNat = declaredLength bytes := by
  have declaredLt : declaredLength bytes < Bytes.capacity 2 := by
    have below := Bytes.toNat_lt ((bytes.drop 8).take 2)
    have size : ((bytes.drop 8).take 2).length = 2 := by
      simp
      omega
    rwa [size] at below
  have notCut : ¬ bytes.length < Header.size := Nat.not_lt.mpr headed
  exact ⟨_, if_neg notCut, UInt16.toNat_ofNat_of_lt' declaredLt⟩

/-- Whatever is wrong with octets, reading says so. -/
theorem Malformed.ofBytes_eq {error : FrameError} (malformed : Malformed bytes error) :
    ofBytes bytes = throw error := by
  cases malformed with
  | headless cut =>
      have unread : Header.ofBytes bytes = .error (.frameTooShort 10 bytes.length) := if_pos cut
      simp [ofBytes, unread]
  | belowFloor headed small =>
      rcases exists_header headed with ⟨header, read, declared⟩
      rw [ofBytes_of_header read, declared]
      exact if_pos small
  | cutOff headed large short =>
      rcases exists_header headed with ⟨header, read, declared⟩
      have notSmall : ¬ declaredLength bytes < Padding.minimumLength := Nat.not_lt.mpr large
      rw [ofBytes_of_header read, declared, if_neg notSmall]
      exact if_pos short
  | overlong headed large long =>
      rcases exists_header headed with ⟨header, read, declared⟩
      have notSmall : ¬ declaredLength bytes < Padding.minimumLength := Nat.not_lt.mpr large
      have notShort : ¬ bytes.length < overhead + declaredLength bytes :=
        Nat.not_lt.mpr (Nat.le_of_lt long)
      rw [ofBytes_of_header read, declared, if_neg notSmall, if_neg notShort]
      exact if_pos long

/-- Octets are those of a frame, or something is wrong with them. -/
theorem written_or_malformed (bytes : List UInt8) :
    (∃ frame : Frame, frame.Written bytes) ∨ ∃ error, Malformed bytes error := by
  by_cases cut : bytes.length < 10
  · exact .inr ⟨_, .headless cut⟩
  · have headed : 10 ≤ bytes.length := Nat.not_lt.mp cut
    by_cases small : declaredLength bytes < 32
    · exact .inr ⟨_, .belowFloor headed small⟩
    · have large : 32 ≤ declaredLength bytes := Nat.not_lt.mp small
      rcases Nat.lt_trichotomy bytes.length (42 + declaredLength bytes) with short | exact | long
      · exact .inr ⟨_, .cutOff headed large short⟩
      · rcases exists_header headed with ⟨header, read, declared⟩
        rw [← declared] at exact large
        rcases exists_toBytes_eq read exact with ⟨frame, rfl, length⟩
        exact .inl ⟨frame, written_toBytes (length ▸ large)⟩
      · exact .inr ⟨_, .overlong headed large long⟩

/-- Reading refuses exactly what is malformed, and says how. -/
theorem ofBytes_eq_throw_iff {error : FrameError} :
    ofBytes bytes = throw error ↔ Malformed bytes error := by
  constructor
  · intro refused
    rcases written_or_malformed bytes with ⟨frame, written⟩ | ⟨other, malformed⟩
    · have parsed := ofBytes_eq_pure_iff.mpr written
      exact absurd (refused.symm.trans parsed) Attempt.throw_ne_pure
    · obtain rfl := Attempt.throw_inj.mp (malformed.ofBytes_eq.symm.trans refused)
      exact malformed
  · exact Malformed.ofBytes_eq

/-! ## Both together -/

/-- Reading decides the grammar.  It answers with a frame exactly on the octets
that the frame is written as, which are its own octets and as many as it counts
for itself; on all other octets it answers with what is wrong with them; and
every frame that is made with a ciphertext between the floor and the largest
length is read back. -/
theorem ofBytes_decides_grammar (bytes : List UInt8) :
    (∀ frame, ofBytes bytes = pure frame ↔ frame.Written bytes) ∧
      (∀ frame : Frame, frame.Written bytes →
        frame.toBytes = bytes ∧ frame.wireLength = bytes.length) ∧
      (∀ error, ofBytes bytes = throw error ↔ Malformed bytes error) ∧
      ((∃ frame : Frame, frame.Written bytes) ∨ ∃ error, Malformed bytes error) ∧
      ∀ offset ciphertext tag, 32 ≤ ciphertext.length → ciphertext.length ≤ 65535 →
        ∃ frame, make offset ciphertext tag = .ok frame ∧ frame.offset = offset ∧
          frame.ciphertext = ciphertext ∧ frame.tag = tag ∧ ofBytes frame.toBytes = pure frame := by
  refine ⟨fun frame => ofBytes_eq_pure_iff, ?_, fun error => ofBytes_eq_throw_iff,
    written_or_malformed bytes, ?_⟩
  · intro frame written
    have same := written.toBytes_eq
    constructor
    · exact same
    · rw [← length_toBytes, same]
  · intro offset ciphertext tag long short
    have fits : ciphertext.length < Bytes.capacity 2 := Nat.lt_succ_of_le short
    exact ⟨⟨offset, ciphertext, tag, fits⟩, dif_pos fits, rfl, rfl, rfl, ofBytes_toBytes long⟩

/-- A frame with the smallest ciphertext is read back from its own octets, and
these are the octets that it is written as. -/
theorem ofBytes_decides_grammar_smallest :
    ∃ frame, make 7 (List.replicate 32 0) ⟨1, 2⟩ = .ok frame ∧
      ofBytes frame.toBytes = pure frame ∧ frame.Written frame.toBytes ∧
      frame.toBytes.length = 74 := by
  have long : 32 ≤ (List.replicate 32 (0 : UInt8)).length := Nat.le_refl _
  have short : (List.replicate 32 (0 : UInt8)).length ≤ 65535 := by decide
  rcases (ofBytes_decides_grammar []).2.2.2.2 7 (List.replicate 32 0) ⟨1, 2⟩ long short with
    ⟨frame, made, -, ciphertext, -, parsed⟩
  rcases ofBytes_decides_grammar frame.toBytes with ⟨reads, counts, -⟩
  have written := (reads frame).mp parsed
  have length : frame.wireLength = 74 := by
    rw [wireLength, ciphertext]
    rfl
  exact ⟨frame, made, parsed, written, (counts frame written).2.symm.trans length⟩

end OneTimePad.Frame
