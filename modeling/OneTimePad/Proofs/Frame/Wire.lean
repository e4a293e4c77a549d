import Mathlib.Order.CompletePartialOrder
import Mathlib.Order.Interval.Set.Disjoint
import OneTimePad.Frame.Basic
import OneTimePad.Proofs.Authenticator.Signing

/-!
# Frames on the wire

Reading never faults: it answers every byte string with a frame or with an
error.  Whatever it answers with has a ciphertext of at least the floor of the
padding, and every frame of that kind is read back from its own octets.
-/

namespace OneTimePad

namespace Frame

open Authenticator (Tag tagSize)

/-- The positions of the message region that a frame is sealed with: as many as
its ciphertext is long, and the key of the authenticator. -/
def extent (frame : Frame) : Set Nat :=
  Set.Ico frame.offset.toNat
    (frame.offset.toNat + frame.ciphertext.length + Authenticator.keySize)

theorem toNat_headerLength (frame : Frame) :
    frame.header.length.toNat = frame.ciphertext.length :=
  UInt16.toNat_ofNat_of_lt' frame.fits

@[simp]
theorem length_toBytes (frame : Frame) : frame.toBytes.length = frame.wireLength := by
  simp [toBytes, wireLength, overhead]
  omega

/-- Cutting off the ciphertext and the tag succeeds when both are there. -/
theorem ofBody_append (offset : UInt64) (ciphertext : List UInt8) (tag : Tag)
    (fits : ciphertext.length < Bytes.capacity 2) :
    ofBody offset ciphertext.length (ciphertext ++ tag.toBytes) =
      pure { offset, ciphertext, tag, fits } := by
  have cut : Bytes.split (ciphertext ++ tag.toBytes) ciphertext.length =
      .ok (ciphertext, tag.toBytes) := by
    rw [Bytes.split_eq_ok (by simp)]
    simp
  simp [ofBody, cut, Tag.copy_toBytes, make, fits]

/-- The length that a header asks for is a size. -/
theorem expected_eq_ok (header : Header) :
    Size.add overhead header.length.toNat = .ok (overhead + header.length.toNat) := by
  have lengthLt : header.length.toNat < Bytes.capacity 2 := header.length.toNat_lt
  rw [Size.add_eq_ok_iff]
  constructor
  · exact rfl
  · simp only [overhead, Header.size, tagSize, Bytes.capacity, wordLimit] at lengthLt ⊢
    omega

/-- Behind the header, reading goes by the length that the header declares. -/
theorem ofBytes_of_header {header : Header} {bytes : List UInt8}
    (read : Header.ofBytes bytes = .ok header) :
    ofBytes bytes =
      if header.length.toNat < Padding.minimumLength then
        throw (.ciphertextTooShort header.length.toNat Padding.minimumLength)
      else if bytes.length < overhead + header.length.toNat then
        throw (.frameTooShort (overhead + header.length.toNat) bytes.length)
      else if overhead + header.length.toNat < bytes.length then
        throw (.trailingBytes (overhead + header.length.toNat) bytes.length)
      else ofBody header.offset header.length.toNat (bytes.drop Header.size) := by
  have expected := expected_eq_ok header
  by_cases short : header.length.toNat < Padding.minimumLength
  · simp [ofBytes, read, short]
  · by_cases cut : bytes.length < overhead + header.length.toNat
    · simp [ofBytes, read, short, expected, cut]
    · by_cases trailing : overhead + header.length.toNat < bytes.length
      · simp [ofBytes, read, short, expected, cut, trailing]
      · have behind : Bytes.slice bytes Header.size bytes.length =
            .ok (bytes.drop Header.size) := by
          have headed : Header.size ≤ bytes.length := by
            simp only [overhead] at cut
            omega
          rw [Bytes.slice_eq_ok headed (Nat.le_refl _), ← List.length_drop, List.take_length]
        simp [ofBytes, read, short, expected, cut, trailing, behind]

/-- Reading undoes writing for every frame whose ciphertext is as long as a
padded message. -/
theorem ofBytes_toBytes {frame : Frame}
    (long : Padding.minimumLength ≤ frame.ciphertext.length) :
    ofBytes frame.toBytes = pure frame := by
  have header : Header.ofBytes frame.toBytes = .ok frame.header := by
    rw [toBytes, List.append_assoc]
    exact Header.ofBytes_toBytes_append _ _
  have body : frame.toBytes.drop Header.size = frame.ciphertext ++ frame.tag.toBytes := by
    rw [toBytes, List.append_assoc, List.drop_append_of_le_length (by simp),
      List.drop_eq_nil_of_le (by simp), List.nil_append]
  have size : frame.toBytes.length = overhead + frame.ciphertext.length := length_toBytes frame
  rw [ofBytes_of_header header, toNat_headerLength, body, if_neg (by omega), if_neg (by omega),
    if_neg (by omega)]
  exact ofBody_append _ _ _ frame.fits

/-- Octets of the length that their header asks for are the octets of a
frame. -/
theorem exists_toBytes_eq {header : Header} {bytes : List UInt8}
    (read : Header.ofBytes bytes = .ok header)
    (size : bytes.length = overhead + header.length.toNat) :
    ∃ frame : Frame, frame.toBytes = bytes ∧
      frame.ciphertext.length = header.length.toNat := by
  have tagSize : ((bytes.drop Header.size).drop header.length.toNat).length = tagSize := by
    simp [size, overhead]
    omega
  rcases Tag.exists_toBytes_eq tagSize with ⟨tag, tagBytes⟩
  have length : ((bytes.drop Header.size).take header.length.toNat).length =
      header.length.toNat := by
    simp [size, overhead]
    omega
  have fits : ((bytes.drop Header.size).take header.length.toNat).length < Bytes.capacity 2 := by
    rw [length]
    exact header.length.toNat_lt
  refine ⟨⟨header.offset, _, tag, fits⟩, ?_, length⟩
  have sameHeader : Frame.header ⟨header.offset, _, tag, fits⟩ = header := by
    rw [Frame.header, length, UInt16.ofNat_toNat]
  rw [toBytes, sameHeader, Header.toBytes_of_ofBytes read, tagBytes, List.append_assoc,
    List.take_append_drop, List.take_append_drop]

/-- Reading answers every byte string: with an error for which the receiver
drops it, or with the frame whose octets they are. -/
theorem ofBytes_drops_or_reads (bytes : List UInt8) :
    (∃ error : FrameError, error.isDroppable = true ∧ ofBytes bytes = throw error) ∨
      ∃ frame, ofBytes bytes = pure frame ∧
        Padding.minimumLength ≤ frame.ciphertext.length ∧ frame.toBytes = bytes := by
  cases read : Header.ofBytes bytes with
  | error error =>
      have droppable : error.isDroppable = true := by
        unfold Header.ofBytes at read
        split at read
        · cases read
          rfl
        · cases read
      exact .inl ⟨error, droppable, by simp [ofBytes, read]⟩
  | ok header =>
      have answer := ofBytes_of_header read
      by_cases short : header.length.toNat < Padding.minimumLength
      · rw [if_pos short] at answer
        exact .inl ⟨_, rfl, answer⟩
      · rw [if_neg short] at answer
        by_cases cut : bytes.length < overhead + header.length.toNat
        · rw [if_pos cut] at answer
          exact .inl ⟨_, rfl, answer⟩
        · rw [if_neg cut] at answer
          by_cases trailing : overhead + header.length.toNat < bytes.length
          · rw [if_pos trailing] at answer
            exact .inl ⟨_, rfl, answer⟩
          · rcases exists_toBytes_eq read (by omega) with ⟨frame, same, frameLength⟩
            have long : Padding.minimumLength ≤ frame.ciphertext.length := by omega
            exact .inr ⟨frame, same ▸ ofBytes_toBytes long, long, same⟩

theorem ofBytes_cases (bytes : List UInt8) :
    (∃ error, ofBytes bytes = throw error) ∨
      ∃ frame, ofBytes bytes = pure frame ∧
        Padding.minimumLength ≤ frame.ciphertext.length ∧ frame.toBytes = bytes := by
  rcases ofBytes_drops_or_reads bytes with ⟨error, -, unreadable⟩ | read
  · exact .inl ⟨error, unreadable⟩
  · exact .inr read

theorem minimumLength_le_of_ofBytes {bytes : List UInt8} {frame : Frame}
    (parsed : ofBytes bytes = pure frame) :
    Padding.minimumLength ≤ frame.ciphertext.length := by
  rcases ofBytes_cases bytes with ⟨error, unreadable⟩ | ⟨other, read, long, -⟩
  · exact absurd (unreadable.symm.trans parsed) Attempt.throw_ne_pure
  · obtain rfl := Attempt.pure_inj.mp (read.symm.trans parsed)
    exact long

end Frame

end OneTimePad
