import Mathlib.Algebra.Polynomial.Roots
import OneTimePad.Authenticator.Basic
import OneTimePad.Proofs.Authenticator.Field

/-!
# The hash as a polynomial

At every point, the hash of header and ciphertext is the value of one
polynomial, whose coefficients are the blocks and which has no constant term.
The lengths are its lowest coefficient, and they say how many octets the other
blocks are filled with, so the polynomial determines header and ciphertext.

Different pairs therefore have different polynomials.  Their hashes differ by a
given element at no more points than the larger degree.
-/

namespace OneTimePad.Authenticator

open BinaryField Polynomial

/-! ## Blocks -/

/-- Blocks of one size are told apart when they are filled up. -/
theorem loadBlock_inj {left right : List UInt8} (size : left.length = right.length)
    (fits : left.length ≤ blockSize) (same : loadBlock left = loadBlock right) : left = right := by
  have filled : ∀ block : List UInt8, block.length ≤ blockSize →
      (block ++ List.replicate (blockSize - block.length) 0).length = blockSize := by
    intro block small
    rw [List.length_append, List.length_replicate]
    omega
  have octets := congrArg store same
  rw [loadBlock, loadBlock, store_load (filled left fits), store_load (filled right (size ▸ fits))]
    at octets
  exact (List.append_inj octets size).1

@[simp]
theorem length_takeBlocks (count : ℕ) (stream : List UInt8) :
    (takeBlocks count stream).length = count := by
  induction count generalizing stream with
  | zero => rfl
  | succ count inductionHypothesis => rw [takeBlocks, List.length_cons, inductionHypothesis]

/-- Every block is cut from the stream where it stands. -/
theorem getElem?_takeBlocks {count index : ℕ} (inside : index < count) (stream : List UInt8) :
    (takeBlocks count stream)[index]? =
      some (loadBlock ((stream.drop (index * blockSize)).take blockSize)) := by
  induction count generalizing index stream with
  | zero => exact absurd inside (Nat.not_lt_zero index)
  | succ count inductionHypothesis =>
      cases index with
      | zero =>
          rw [takeBlocks, Nat.zero_mul]
          rfl
      | succ index =>
          rw [takeBlocks, List.getElem?_cons_succ,
            inductionHypothesis (Nat.lt_of_succ_lt_succ inside), List.drop_drop, Nat.succ_mul,
            Nat.add_comm]

theorem takeBlocks_inj {count : ℕ} {left right : List UInt8} (size : left.length = right.length)
    (fits : left.length ≤ count * blockSize) (same : takeBlocks count left = takeBlocks count right) :
    left = right := by
  induction count generalizing left right with
  | zero =>
      have leftEmpty : left.length = 0 := by omega
      have rightEmpty : right.length = 0 := by omega
      rw [List.length_eq_zero_iff.mp leftEmpty, List.length_eq_zero_iff.mp rightEmpty]
  | succ count inductionHypothesis =>
      rw [takeBlocks, takeBlocks, List.cons.injEq] at same
      rcases same with ⟨firstBlock, otherBlocks⟩
      have first : left.take blockSize = right.take blockSize :=
        loadBlock_inj (by simp [size]) (by simp) firstBlock
      have others : left.drop blockSize = right.drop blockSize := by
        refine inductionHypothesis (by simp [size]) ?_ otherBlocks
        rw [Nat.add_one_mul] at fits
        rw [List.length_drop]
        omega
      rw [← List.take_append_drop blockSize left, first, others, List.take_append_drop]

@[simp]
theorem length_blocks (stream : List UInt8) : (blocks stream).length = blockCount stream.length :=
  length_takeBlocks _ _

/-- Streams of one length are told apart by their blocks. -/
theorem blocks_inj {left right : List UInt8} (size : left.length = right.length)
    (same : blocks left = blocks right) : left = right := by
  refine takeBlocks_inj size ?_ (by rwa [blocks, blocks, ← size] at same)
  unfold blockCount blockSize
  omega

/-- The lengths that a closing block tells apart: in bits they fit a word. -/
def Short (bytes : List UInt8) : Prop :=
  bytes.length < 2 ^ 61

variable {header ciphertext otherHeader otherCiphertext : List UInt8}

theorem Short.add_lt (header_short : Short header) (ciphertext_short : Short ciphertext) :
    header.length + ciphertext.length < wordLimit := by
  unfold Short at header_short ciphertext_short
  unfold wordLimit
  omega

theorem lengthBlock_inj (header_short : Short header) (ciphertext_short : Short ciphertext)
    (otherHeader_short : Short otherHeader) (otherCiphertext_short : Short otherCiphertext)
    (same : lengthBlock header ciphertext = lengthBlock otherHeader otherCiphertext) :
    header.length = otherHeader.length ∧ ciphertext.length = otherCiphertext.length := by
  have word : ∀ {bits otherBits : ℕ}, bits < 2 ^ 64 → otherBits < 2 ^ 64 →
      BitVec.ofNat 64 bits = BitVec.ofNat 64 otherBits → bits = otherBits := by
    intro bits otherBits small otherSmall equal
    have values := congrArg BitVec.toNat equal
    rwa [BitVec.toNat_ofNat, BitVec.toNat_ofNat, Nat.mod_eq_of_lt small,
      Nat.mod_eq_of_lt otherSmall] at values
  unfold Short at header_short ciphertext_short otherHeader_short otherCiphertext_short
  have high := congrArg (BitVec.extractLsb' 64 64) same
  have low := congrArg (BitVec.extractLsb' 0 64) same
  rw [lengthBlock, lengthBlock, BitVec.extractLsb'_append_eq_left,
    BitVec.extractLsb'_append_eq_left] at high
  rw [lengthBlock, lengthBlock, BitVec.extractLsb'_append_eq_right,
    BitVec.extractLsb'_append_eq_right] at low
  have headerBits := word (by omega) (by omega) high
  have ciphertextBits := word (by omega) (by omega) low
  omega

/-! ## The polynomial of a list of blocks -/

/-- The polynomial whose coefficients, from that of `X` on, are the blocks. -/
noncomputable def polynomial : List Element → (AdjoinRoot modulus)[X]
  | [] => 0
  | block :: later => (polynomial later + C (residue block)) * X

theorem coeff_zero_polynomial (coefficients : List Element) :
    (polynomial coefficients).coeff 0 = 0 := by
  cases coefficients with
  | nil => exact coeff_zero 0
  | cons block later => exact coeff_mul_X_zero _

theorem natDegree_polynomial_le (coefficients : List Element) :
    (polynomial coefficients).natDegree ≤ coefficients.length := by
  induction coefficients with
  | nil => simp [polynomial]
  | cons block later inductionHypothesis =>
      rw [polynomial, List.length_cons]
      refine natDegree_mul_le.trans (Nat.add_le_add ?_ natDegree_X_le)
      rwa [natDegree_add_C]

/-- A polynomial determines its lowest coefficient, and what is left above it. -/
theorem polynomial_cons_inj {block otherBlock : Element} {later otherLater : List Element}
    (same : polynomial (block :: later) = polynomial (otherBlock :: otherLater)) :
    block = otherBlock ∧ polynomial later = polynomial otherLater := by
  have quotient := mul_right_cancel₀ X_ne_zero same
  have lowest := congrArg (fun value => value.coeff 0) quotient
  simp only [coeff_add, coeff_zero_polynomial, coeff_C_zero, zero_add] at lowest
  refine ⟨residue_injective lowest, ?_⟩
  rw [lowest] at quotient
  exact add_right_cancel quotient

theorem polynomial_inj {coefficients otherCoefficients : List Element}
    (size : coefficients.length = otherCoefficients.length)
    (same : polynomial coefficients = polynomial otherCoefficients) :
    coefficients = otherCoefficients := by
  induction coefficients generalizing otherCoefficients with
  | nil => exact (List.length_eq_zero_iff.mp size.symm).symm
  | cons block later inductionHypothesis =>
      cases otherCoefficients with
      | nil => cases size
      | cons otherBlock otherLater =>
          rcases polynomial_cons_inj same with ⟨sameBlock, sameLater⟩
          rw [sameBlock, inductionHypothesis (Nat.succ.inj size) sameLater]

/-- Absorbing blocks, the last one of the list first, is Horner's rule. -/
theorem residue_foldr_absorb (point : Element) (coefficients : List Element) :
    residue (coefficients.foldr (fun block hash => absorb point hash block) 0) =
      (polynomial coefficients).eval (residue point) := by
  induction coefficients with
  | nil => rw [List.foldr_nil, residue_zero, polynomial, eval_zero]
  | cons block later inductionHypothesis =>
      rw [List.foldr_cons, absorb, residue_mul, residue_xor, inductionHypothesis, polynomial,
        eval_mul, eval_add, eval_C, eval_X]

/-! ## The polynomial of header and ciphertext -/

/-- The coefficients that header and ciphertext stand for: the lengths, and the
blocks from the last one to the first. -/
def coefficients (header ciphertext : List UInt8) : List Element :=
  lengthBlock header ciphertext :: (blocks (header ++ ciphertext)).reverse

/-- The hash is the value of the polynomial of header and ciphertext. -/
theorem residue_hash (point : Element) (header ciphertext : List UInt8) :
    residue (hash point header ciphertext) =
      (polynomial (coefficients header ciphertext)).eval (residue point) := by
  rw [← residue_foldr_absorb, coefficients, List.foldr_cons, List.foldr_reverse, hash]

/-- The points at which the hashes of two pairs differ by an element. -/
def collisions (header ciphertext otherHeader otherCiphertext : List UInt8) (difference : Element) :
    Set Element :=
  {point | hash point header ciphertext ^^^ hash point otherHeader otherCiphertext = difference}

/-- The polynomial that vanishes at the collisions of two pairs. -/
noncomputable def collider (header ciphertext otherHeader otherCiphertext : List UInt8)
    (difference : Element) : (AdjoinRoot modulus)[X] :=
  polynomial (coefficients header ciphertext) -
    polynomial (coefficients otherHeader otherCiphertext) - C (residue difference)

theorem isRoot_collider {point difference : Element}
    (collision : point ∈ collisions header ciphertext otherHeader otherCiphertext difference) :
    (collider header ciphertext otherHeader otherCiphertext difference).IsRoot
      (residue point) := by
  rw [IsRoot, collider, eval_sub, eval_sub, eval_C, ← residue_hash, ← residue_hash,
    ← residue_xor_eq_sub, collision, sub_self]

theorem natDegree_collider_le (header ciphertext otherHeader otherCiphertext : List UInt8)
    (difference : Element) :
    (collider header ciphertext otherHeader otherCiphertext difference).natDegree ≤
      1 + max (blocks (header ++ ciphertext)).length
        (blocks (otherHeader ++ otherCiphertext)).length := by
  have degree := natDegree_polynomial_le (coefficients header ciphertext)
  have otherDegree := natDegree_polynomial_le (coefficients otherHeader otherCiphertext)
  rw [collider, natDegree_sub_C]
  refine (natDegree_sub_le _ _).trans ?_
  rw [coefficients, List.length_cons, List.length_reverse] at degree otherDegree
  rw [coefficients, coefficients]
  omega

section Distinct

variable (header_short : Short header) (ciphertext_short : Short ciphertext)
  (otherHeader_short : Short otherHeader) (otherCiphertext_short : Short otherCiphertext)

include header_short ciphertext_short otherHeader_short otherCiphertext_short

/-- No two pairs have the same polynomial. -/
theorem polynomial_coefficients_inj
    (same : polynomial (coefficients header ciphertext) =
      polynomial (coefficients otherHeader otherCiphertext)) :
    header = otherHeader ∧ ciphertext = otherCiphertext := by
  rcases polynomial_cons_inj same with ⟨lengths, upper⟩
  rcases lengthBlock_inj header_short ciphertext_short otherHeader_short otherCiphertext_short
    lengths with ⟨headerLength, ciphertextLength⟩
  have streamLength : (header ++ ciphertext).length = (otherHeader ++ otherCiphertext).length := by
    rw [List.length_append, List.length_append, headerLength, ciphertextLength]
  have sameBlocks := polynomial_inj (by simp [headerLength, ciphertextLength]) upper
  exact List.append_inj (blocks_inj streamLength (List.reverse_inj.mp sameBlocks)) headerLength

variable (distinct : (header, ciphertext) ≠ (otherHeader, otherCiphertext))

include distinct

theorem collider_ne_zero (difference : Element) :
    collider header ciphertext otherHeader otherCiphertext difference ≠ 0 := by
  intro zero
  -- the polynomials have no constant terms, so the difference is one by itself
  have constant := congrArg (fun value => value.coeff 0) zero
  simp only [collider, coeff_sub, coeff_zero_polynomial, coeff_C_zero, coeff_zero, sub_self,
    zero_sub, neg_eq_zero] at constant
  rw [collider, constant, C_0, sub_zero, sub_eq_zero] at zero
  rcases polynomial_coefficients_inj header_short ciphertext_short otherHeader_short
    otherCiphertext_short zero with ⟨rfl, rfl⟩
  exact distinct rfl

/-- The hashes of two pairs differ by an element at no more points than the
longer pair has blocks, its lengths included. -/
theorem encard_collisions_le (difference : Element) :
    (collisions header ciphertext otherHeader otherCiphertext difference).encard ≤
      ↑(1 + max (blocks (header ++ ciphertext)).length
        (blocks (otherHeader ++ otherCiphertext)).length) := by
  have nonzero := collider_ne_zero header_short ciphertext_short otherHeader_short
    otherCiphertext_short distinct difference
  have degree := natDegree_collider_le header ciphertext otherHeader otherCiphertext difference
  let roots := (collider header ciphertext otherHeader otherCiphertext difference).roots
  have inRoots : Set.MapsTo residue
      (collisions header ciphertext otherHeader otherCiphertext difference) roots.toFinset := by
    intro point collision
    rw [Finset.mem_coe, Multiset.mem_toFinset, mem_roots nonzero]
    exact isRoot_collider collision
  calc (collisions header ciphertext otherHeader otherCiphertext difference).encard
      ≤ (roots.toFinset : Set (AdjoinRoot modulus)).encard :=
        Set.encard_le_encard_of_injOn inRoots residue_injective.injOn
    _ = ↑roots.toFinset.card := Set.encard_coe_eq_coe_finsetCard _
    _ ≤ _ := Nat.cast_le.mpr
        ((Multiset.toFinset_card_le _).trans ((card_roots' _).trans degree))

end Distinct

end OneTimePad.Authenticator
