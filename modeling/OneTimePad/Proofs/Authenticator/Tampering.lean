import Mathlib.Data.List.GetD
import OneTimePad.Proofs.Authenticator.Hash
import OneTimePad.Proofs.Authenticator.Product
import OneTimePad.Proofs.Authenticator.Signing
import OneTimePad.Proofs.Bytes.Agreement

/-!
# Tampering with one block

Whoever changes octets of a signed frame within one block of the hashed stream changes
one summand of the hash.  At a point other than zero the hash is then another one, since
nothing that is absorbed later brings it back: taking a block in is a product with the
point, and there are no divisors of zero.  At the point zero every hash is zero.

So the tag stops verifying, whichever block it is, unless both points of the key are
zero, and then it never does.  A single bit is always within one block.
-/

namespace OneTimePad.Authenticator

open BinaryField

/-! ## Hashes of lists of blocks -/

section Absorbing

variable {point : Element}

/-- At the point zero, every hash is zero. -/
theorem hash_zero (header ciphertext : List UInt8) : hash 0 header ciphertext = 0 := by
  rw [hash, absorb, mul_eq_zero_iff]
  exact .inr rfl

variable (nonzero : point ≠ 0)

include nonzero

theorem absorb_hash_inj {left right block : Element} :
    absorb point left block = absorb point right block ↔ left = right := by
  rw [absorb, absorb, mul_inj_of_ne_zero nonzero, BitVec.xor_left_inj]

theorem absorb_block_inj {hash left right : Element} :
    absorb point hash left = absorb point hash right ↔ left = right := by
  rw [absorb, absorb, mul_inj_of_ne_zero nonzero, BitVec.xor_right_inj]

/-- Hashes that differ once differ for good. -/
theorem foldl_absorb_inj {later : List Element} {left right : Element} :
    later.foldl (absorb point) left = later.foldl (absorb point) right ↔ left = right := by
  induction later generalizing left right with
  | nil => rfl
  | cons block later inductionHypothesis =>
      rw [List.foldl_cons, List.foldl_cons, inductionHypothesis, absorb_hash_inj nonzero]

/-- Lists of blocks that are the same but for one block have different hashes. -/
theorem eq_of_foldl_absorb_eq {index : ℕ} {left right : List Element} {start : Element}
    (same : ∀ other ≠ index, left[other]? = right[other]?) (size : left.length = right.length)
    (hashes : left.foldl (absorb point) start = right.foldl (absorb point) start) :
    left = right := by
  induction left generalizing right index start with
  | nil => exact (List.length_eq_zero_iff.mp size.symm).symm
  | cons block later inductionHypothesis =>
      cases right with
      | nil => cases size
      | cons otherBlock otherLater =>
          have sizes := Nat.succ.inj size
          cases index with
          | zero =>
              have tails : later = otherLater := by
                apply List.ext_getElem?
                intro other
                exact same (other + 1) (Nat.succ_ne_zero other)
              rw [tails, List.foldl_cons, List.foldl_cons, foldl_absorb_inj nonzero,
                absorb_block_inj nonzero] at hashes
              rw [hashes, tails]
          | succ index =>
              have blocks : block = otherBlock := Option.some.inj (same 0 (Nat.succ_ne_zero _).symm)
              rw [blocks, List.foldl_cons, List.foldl_cons] at hashes
              have others : ∀ other ≠ index, later[other]? = otherLater[other]? := by
                intro other ne
                exact same (other + 1) (mt Nat.succ.inj ne)
              rw [blocks, inductionHypothesis others sizes hashes]

end Absorbing

/-! ## Streams -/

/-- The positions of a block in a stream. -/
def blockPositions (index : ℕ) : Set ℕ :=
  Set.Ico (index * blockSize) (index * blockSize + blockSize)

theorem disjoint_blockPositions {left right : ℕ} (ne : left ≠ right) :
    Disjoint (blockPositions left) (blockPositions right) := by
  rw [blockPositions, blockPositions, Set.Ico_disjoint_Ico, blockSize]
  omega

variable {index : ℕ} {left right : List UInt8}

/-- Streams that agree outside one block have the other blocks in common. -/
theorem getElem?_blocks_of_agree (agree : AgreeOutside (blockPositions index) left right)
    {other : ℕ} (ne : other ≠ index) : (blocks left)[other]? = (blocks right)[other]? := by
  rw [blocks, blocks, agree.length_eq]
  by_cases inside : other < blockCount right.length
  · rw [getElem?_takeBlocks inside, getElem?_takeBlocks inside,
      agree.slice_eq (disjoint_blockPositions ne)]
  · have outside := Nat.le_of_not_lt inside
    rw [List.getElem?_eq_none (by rwa [length_takeBlocks]),
      List.getElem?_eq_none (by rwa [length_takeBlocks])]

theorem foldl_absorb_blocks_eq_iff {point : Element} (nonzero : point ≠ 0)
    (agree : AgreeOutside (blockPositions index) left right) (start : Element) :
    (blocks left).foldl (absorb point) start = (blocks right).foldl (absorb point) start ↔
      left = right := by
  constructor
  · intro hashes
    have size : (blocks left).length = (blocks right).length := by
      rw [length_blocks, length_blocks, agree.length_eq]
    have same := eq_of_foldl_absorb_eq nonzero (fun _ => getElem?_blocks_of_agree agree) size hashes
    exact blocks_inj agree.length_eq same
  · rintro rfl
    rfl

/-- Header and ciphertext that are altered within one block of their stream, and keep
their lengths. -/
structure Alters (index : ℕ) (header ciphertext otherHeader otherCiphertext : List UInt8) :
    Prop where
  headerLength : header.length = otherHeader.length
  ciphertextLength : ciphertext.length = otherCiphertext.length
  agree : AgreeOutside (blockPositions index) (header ++ ciphertext)
    (otherHeader ++ otherCiphertext)
  differs : header ++ ciphertext ≠ otherHeader ++ otherCiphertext

section Altered

variable {header ciphertext otherHeader otherCiphertext : List UInt8}
  (altered : Alters index header ciphertext otherHeader otherCiphertext)

include altered

/-- An altered block is seen at every point but zero. -/
theorem hash_eq_iff {point : Element} :
    hash point header ciphertext = hash point otherHeader otherCiphertext ↔ point = 0 := by
  constructor
  · intro hashes
    by_contra nonzero
    have lengths : lengthBlock header ciphertext = lengthBlock otherHeader otherCiphertext := by
      rw [lengthBlock, lengthBlock, altered.headerLength, altered.ciphertextLength]
    rw [hash, hash, lengths, absorb_hash_inj nonzero,
      foldl_absorb_blocks_eq_iff nonzero altered.agree] at hashes
    exact altered.differs hashes
  · rintro rfl
    rw [hash_zero, hash_zero]

theorem tag_eq_tag_iff {key : Key} :
    tag key otherHeader otherCiphertext = tag key header ciphertext ↔
      key.leftPoint = 0 ∧ key.rightPoint = 0 := by
  rw [eq_comm, tag, tag, Tag.mk.injEq, BitVec.xor_left_inj, BitVec.xor_left_inj,
    hash_eq_iff altered, hash_eq_iff altered]

end Altered

/-! ## Flipping a bit -/

/-- Flip a bit of a byte string, bits being counted from the lowest one of the first
octet on. -/
def flipBit (bytes : List UInt8) (bit : ℕ) : List UInt8 :=
  bytes.set (bit / 8) (bytes.getD (bit / 8) 0 ^^^ (1 <<< UInt8.ofNat (bit % 8)))

@[simp]
theorem length_flipBit (bytes : List UInt8) (bit : ℕ) :
    (flipBit bytes bit).length = bytes.length :=
  List.length_set

theorem flipBit_ne {bytes : List UInt8} {bit : ℕ} (inside : bit < 8 * bytes.length) :
    flipBit bytes bit ≠ bytes := by
  intro same
  have masks : ∀ place < 8, (1 : UInt8) <<< UInt8.ofNat place ≠ 0 := by decide
  have position : bit / 8 < bytes.length := Nat.div_lt_of_lt_mul inside
  have octets := congrArg (fun octets => octets[bit / 8]?) same
  simp only [flipBit, List.getElem?_set_self position, List.getElem?_eq_getElem position,
    List.getD_eq_getElem bytes 0 position, Option.some.injEq] at octets
  apply masks (bit % 8) (Nat.mod_lt _ (by decide))
  rw [← UInt8.xor_right_inj bytes[bit / 8], octets, UInt8.xor_zero]

theorem agree_flipBit (bytes : List UInt8) (bit : ℕ) :
    AgreeOutside (blockPositions (bit / 8 / blockSize)) bytes (flipBit bytes bit) := by
  apply AgreeOutside.set
  rw [blockPositions, Set.mem_Ico, blockSize]
  omega

theorem flipBit_append_left {header : List UInt8} {bit : ℕ} (inside : bit < 8 * header.length)
    (ciphertext : List UInt8) :
    flipBit (header ++ ciphertext) bit = flipBit header bit ++ ciphertext := by
  have position : bit / 8 < header.length := Nat.div_lt_of_lt_mul inside
  rw [flipBit, flipBit, List.set_append_left _ _ position, List.getD_append _ _ _ _ position]

theorem flipBit_append_right (header ciphertext : List UInt8) (bit : ℕ) :
    flipBit (header ++ ciphertext) (8 * header.length + bit) =
      header ++ flipBit ciphertext bit := by
  have position : (8 * header.length + bit) / 8 = header.length + bit / 8 :=
    Nat.mul_add_div (by decide) _ _
  have place : (8 * header.length + bit) % 8 = bit % 8 := Nat.mul_add_mod _ _ _
  have behind : header.length ≤ header.length + bit / 8 := Nat.le_add_right _ _
  rw [flipBit, flipBit, position, place, List.set_append_right _ _ behind,
    List.getD_append_right _ _ _ _ behind, Nat.add_sub_cancel_left]

theorem alters_flipBit_header {header : List UInt8} {bit : ℕ} (inside : bit < 8 * header.length)
    (ciphertext : List UInt8) :
    Alters (bit / 8 / blockSize) header ciphertext (flipBit header bit) ciphertext := by
  have agree := agree_flipBit (header ++ ciphertext) bit
  rw [flipBit_append_left inside] at agree
  refine ⟨(length_flipBit _ _).symm, rfl, agree, ?_⟩
  intro same
  exact flipBit_ne inside (List.append_cancel_right same).symm

theorem alters_flipBit_ciphertext (header : List UInt8) {ciphertext : List UInt8} {bit : ℕ}
    (inside : bit < 8 * ciphertext.length) :
    Alters ((8 * header.length + bit) / 8 / blockSize) header ciphertext header
      (flipBit ciphertext bit) := by
  have agree := agree_flipBit (header ++ ciphertext) (8 * header.length + bit)
  rw [flipBit_append_right] at agree
  refine ⟨rfl, (length_flipBit _ _).symm, agree, ?_⟩
  intro same
  exact flipBit_ne inside (List.append_cancel_left same).symm

/-! ## Verifying -/

/-- A key both of whose points are zero. -/
def Degenerate (key : List UInt8) : Prop :=
  key.take 16 = List.replicate 16 0 ∧ (key.drop 16).take 16 = List.replicate 16 0

instance (key : List UInt8) : Decidable (Degenerate key) :=
  inferInstanceAs (Decidable (_ ∧ _))

theorem store_eq_replicate_iff {element : Element} :
    store element = List.replicate 16 0 ↔ element = 0 := by
  have zero : store 0 = List.replicate 16 0 := by decide
  rw [← zero]
  constructor
  · intro same
    have loaded := congrArg load same
    rwa [load_store, load_store] at loaded
  · rintro rfl
    rfl

theorem degenerate_toBytes_iff (key : Key) :
    Degenerate key.toBytes ↔ key.leftPoint = 0 ∧ key.rightPoint = 0 := by
  have block : ∀ element, (store element).length = 16 := length_store
  have left : key.toBytes.take 16 = store key.leftPoint := by
    rw [Key.toBytes, List.append_assoc, List.append_assoc, List.take_left' (block _)]
  have right : (key.toBytes.drop 16).take 16 = store key.rightPoint := by
    rw [Key.toBytes, List.append_assoc, List.append_assoc, List.drop_left' (block _),
      List.take_left' (block _)]
  rw [Degenerate, left, right, store_eq_replicate_iff, store_eq_replicate_iff]

/-- Tampering within one block is caught.  The tag of header and ciphertext verifies for
others of the same lengths, which differ from them within one block of the stream, if and
only if both points of the key are zero.  In particular this holds of every single bit,
of the header and of the ciphertext. -/
theorem verify_altered_iff {key header ciphertext : List UInt8} (size : key.length = keySize)
    (fits : header.length + ciphertext.length < wordLimit) :
    ∃ signed, sign key header ciphertext = .ok signed ∧
      (∀ index otherHeader otherCiphertext,
        Alters index header ciphertext otherHeader otherCiphertext →
          verify key otherHeader otherCiphertext signed.toBytes = .ok (decide (Degenerate key))) ∧
      (∀ bit < 8 * header.length,
        verify key (flipBit header bit) ciphertext signed.toBytes =
          .ok (decide (Degenerate key))) ∧
      ∀ bit < 8 * ciphertext.length,
        verify key header (flipBit ciphertext bit) signed.toBytes =
          .ok (decide (Degenerate key)) := by
  rcases Key.exists_toBytes_eq size with ⟨key, rfl⟩
  have caught : ∀ index otherHeader otherCiphertext,
      Alters index header ciphertext otherHeader otherCiphertext →
        verify key.toBytes otherHeader otherCiphertext (tag key header ciphertext).toBytes =
          .ok (decide (Degenerate key.toBytes)) := by
    intro index otherHeader otherCiphertext altered
    rw [altered.headerLength, altered.ciphertextLength] at fits
    rw [verify_eq_ok size (sign_toBytes fits key), Except.ok.injEq, decide_eq_decide,
      tag_eq_tag_iff altered, degenerate_toBytes_iff]
  refine ⟨_, sign_toBytes fits key, caught, ?_, ?_⟩
  · intro bit inside
    exact caught _ _ _ (alters_flipBit_header inside ciphertext)
  · intro bit inside
    exact caught _ _ _ (alters_flipBit_ciphertext header inside)

/-- The first bit of a ciphertext, in the block of the header's end: a key with a point
of its own sees the change, and a key of zeros does not. -/
theorem verify_altered_iff_first_bit :
    (∃ signed, sign (List.replicate 63 0 ++ [1]) [1, 2] [3] = .ok signed ∧
        verify (List.replicate 63 0 ++ [1]) [1, 2] [2] signed.toBytes = .ok true) ∧
      ∃ signed, sign (List.replicate 31 0 ++ 1 :: List.replicate 32 0) [1, 2] [3] = .ok signed ∧
        verify (List.replicate 31 0 ++ 1 :: List.replicate 32 0) [1, 2] [2] signed.toBytes =
          .ok false := by
  have fits : ([1, 2] : List UInt8).length + ([3] : List UInt8).length < wordLimit := by decide
  constructor
  · have size : (List.replicate 63 0 ++ [1] : List UInt8).length = keySize := by decide
    rcases verify_altered_iff size fits with ⟨signed, sign_eq, -, -, flipped⟩
    exact ⟨signed, sign_eq, flipped 0 (by decide)⟩
  · have size : (List.replicate 31 0 ++ 1 :: List.replicate 32 0 : List UInt8).length = keySize := by
      decide
    rcases verify_altered_iff size fits with ⟨signed, sign_eq, -, -, flipped⟩
    exact ⟨signed, sign_eq, flipped 0 (by decide)⟩

end OneTimePad.Authenticator
