import Mathlib.FieldTheory.Finite.Extension
import Mathlib.RingTheory.AdjoinRoot
import OneTimePad.Authenticator.BinaryField
import OneTimePad.Proofs.Authenticator.BinaryPolynomial

/-!
# The field of the authenticator is a field

Elements stand for the residues of binary polynomials modulo
`X ^ 128 + X ^ 7 + X ^ 2 + X + 1`, each residue being that of one element.
Exclusive or is the sum of residues, and `mul` is their product: a turn of
Horner's rule multiplies by `X` and adds the next coefficient in.

That there are no divisors of zero is a matter of the modulus.  It is
irreducible, since it divides `X ^ 2 ^ 128 - X` and has nothing in common with
`X ^ 2 ^ 64 - X`.
-/

namespace OneTimePad.BinaryField

open Polynomial

/-! ## Residues -/

/-- The polynomial that products are reduced by. -/
@[irreducible]
noncomputable def modulus : Bit[X] :=
  X ^ 128 + (X ^ 7 + X ^ 2 + X + 1)

theorem modulus_eq : modulus = X ^ 128 + ofDigits reduction.toNat := by
  unfold modulus
  rw [ofDigits_reduction]

theorem monic_modulus : modulus.Monic := by
  unfold modulus
  apply monic_X_pow_add
  compute_degree!

theorem natDegree_modulus : modulus.natDegree = 128 := by
  unfold modulus
  compute_degree!

/-- The residue that an element stands for. -/
noncomputable def residue (element : Element) : AdjoinRoot modulus :=
  AdjoinRoot.mk modulus (ofDigits element.toNat)

/-- Different elements have different residues, since their polynomials are
reduced. -/
theorem residue_injective : Function.Injective residue := by
  intro left right same
  rw [residue, residue, AdjoinRoot.mk_eq_mk] at same
  have leftSmall : left.toNat < 2 ^ 128 := left.isLt
  have rightSmall : right.toNat < 2 ^ 128 := right.isLt
  have reduced : (ofDigits left.toNat - ofDigits right.toNat).degree < modulus.degree := by
    rw [degree_eq_natDegree monic_modulus.ne_zero, natDegree_modulus]
    exact (degree_sub_le _ _).trans_lt
      (max_lt (degree_ofDigits_lt leftSmall) (degree_ofDigits_lt rightSmall))
  have zero : ofDigits left.toNat - ofDigits right.toNat = 0 := by
    by_contra nonzero
    exact monic_modulus.not_dvd_of_degree_lt nonzero reduced same
  exact BitVec.eq_of_toNat_eq (ofDigits_injective (sub_eq_zero.mp zero))

@[simp]
theorem residue_xor (left right : Element) :
    residue (left ^^^ right) = residue left + residue right := by
  rw [residue, BitVec.toNat_xor, ofDigits_xor, map_add, residue, residue]

@[simp]
theorem residue_zero : residue 0 = 0 := by
  have zero : (0 : Element).toNat = 0 := rfl
  rw [residue, zero, ofDigits_zero]
  exact map_zero _

theorem residue_one : residue 1 = 1 := by
  have one : (1 : Element).toNat = 1 := rfl
  rw [residue, one, ofDigits_one, map_one]

theorem add_residue_self (element : Element) : residue element + residue element = 0 := by
  rw [← residue_xor, BitVec.xor_self]
  exact residue_zero

/-- A difference is a sum. -/
theorem residue_xor_eq_sub (left right : Element) :
    residue (left ^^^ right) = residue left - residue right := by
  rw [residue_xor, sub_eq_add_neg, ← eq_neg_of_add_eq_zero_left (add_residue_self right)]

/-- `X ^ 128` and its reduced form have one residue. -/
theorem mk_X_pow_eq_residue : AdjoinRoot.mk modulus (X ^ 128) = residue reduction := by
  have sum : AdjoinRoot.mk modulus (X ^ 128) + residue reduction = 0 := by
    rw [residue, ← map_add, ← modulus_eq, AdjoinRoot.mk_self]
  exact (eq_neg_of_add_eq_zero_left sum).trans
    (eq_neg_of_add_eq_zero_left (add_residue_self reduction)).symm

/-- A product with `X` moves every coefficient up, and what is moved out of the
highest place is put back reduced. -/
theorem mk_X_mul_residue (element : Element) :
    AdjoinRoot.mk modulus X * residue element =
      residue (element <<< 1) + if element.getLsbD 127 then residue reduction else 0 := by
  have above : (element.toNat <<< 1) >>> 128 = (element.getLsbD 127).toNat := by
    have below : element.toNat < 2 ^ 128 := element.isLt
    rw [← BitVec.testBit_toNat, Nat.toNat_testBit, Nat.shiftRight_eq_div_pow, Nat.shiftLeft_eq]
    omega
  have kept : element.toNat <<< 1 % 2 ^ 128 = (element <<< 1).toNat :=
    BitVec.toNat_shiftLeft.symm
  have moved := ofDigits_split (element.toNat <<< 1) 128
  rw [ofDigits_shiftLeft, pow_one, above, kept] at moved
  rw [residue, residue, ← map_mul, moved, map_add, map_mul, mk_X_pow_eq_residue]
  cases element.getLsbD 127 <;> simp

/-! ## Products -/

namespace Halves

theorem residue_timesX (halves : Halves) :
    residue halves.timesX.toElement = AdjoinRoot.mk modulus X * residue halves.toElement := by
  rw [toElement_timesX, mk_X_mul_residue]
  cases halves.toElement.getLsbD 127 <;> simp

theorem residue_turn (multiplicand : Halves) (bits : UInt64) (product : Halves) :
    residue (turn multiplicand bits product).toElement =
      AdjoinRoot.mk modulus X * residue product.toElement +
        AdjoinRoot.mk modulus (ofDigits (bits.toNat >>> 63)) * residue multiplicand.toElement := by
  have highest : (bits >>> 63).toNat = bits.toNat >>> 63 := UInt64.toNat_shiftRight bits 63
  unfold turn
  by_cases clear : bits >>> 63 = 0
  · have zero : bits.toNat >>> 63 = 0 := by
      rw [← highest, clear]
      rfl
    rw [if_pos clear, residue_timesX, zero, ofDigits_zero, map_zero, zero_mul, add_zero]
  · have one : bits.toNat >>> 63 = 1 := by
      have below := bits.toNat_lt
      rw [← UInt64.toNat_inj, highest, UInt64.toNat_zero] at clear
      rw [Nat.shiftRight_eq_div_pow] at clear ⊢
      omega
    rw [if_neg clear, toElement_add, residue_xor, residue_timesX, one, ofDigits_one, map_one,
      one_mul]

/-- The digits of a word below its highest one, read off the word that was
moved up. -/
theorem toNat_shiftLeft_shiftRight {count : ℕ} (inside : count < 64) (bits : UInt64) :
    (bits <<< 1).toNat >>> (64 - count) = bits.toNat >>> (64 - (count + 1)) % 2 ^ count := by
  have moved : (bits <<< 1).toNat = bits.toNat <<< 1 % 2 ^ 64 := UInt64.toNat_shiftLeft bits 1
  have place : ∀ i, 64 - count + i - 1 = 64 - (count + 1) + i := by
    intro i
    omega
  apply Nat.eq_of_testBit_eq
  intro i
  rw [moved, Nat.testBit_shiftRight, Nat.testBit_mod_two_pow, Nat.testBit_shiftLeft, place,
    Nat.testBit_mod_two_pow, Nat.testBit_shiftRight]
  by_cases low : i < count
  · have below : 64 - count + i < 64 := by omega
    have above : 64 - count + i ≥ 1 := by omega
    simp [low, below, above]
  · have beyond : ¬ 64 - count + i < 64 := by omega
    simp [low, beyond]

/-- Horner's rule multiplies by the polynomial of the highest digits. -/
theorem residue_horner (multiplicand : Halves) {count : ℕ} (bound : count ≤ 64) (bits : UInt64)
    (product : Halves) :
    residue (horner multiplicand count bits product).toElement =
      AdjoinRoot.mk modulus (X ^ count) * residue product.toElement +
        AdjoinRoot.mk modulus (ofDigits (bits.toNat >>> (64 - count))) *
          residue multiplicand.toElement := by
  induction count generalizing bits product with
  | zero =>
      have nothing : bits.toNat >>> 64 = 0 := by
        rw [Nat.shiftRight_eq_div_pow]
        exact Nat.div_eq_of_lt bits.toNat_lt
      simp [horner, nothing]
  | succ count inductionHypothesis =>
      have cut := ofDigits_split (bits.toNat >>> (64 - (count + 1))) count
      have highest : 64 - (count + 1) + count = 63 := by omega
      rw [← toNat_shiftLeft_shiftRight (by omega), ← Nat.shiftRight_add, highest] at cut
      rw [horner, inductionHypothesis (by omega), residue_turn, cut]
      simp only [map_add, map_mul, map_pow]
      ring

end Halves

theorem residue_mul (left right : Element) :
    residue (mul left right) = residue left * residue right := by
  have low : (Halves.ofElement right).low.toNat = right.toNat % 2 ^ 64 := by
    simp [Halves.ofElement]
  have high : (Halves.ofElement right).high.toNat = right.toNat >>> 64 := by
    have below : right.toNat < 2 ^ 128 := right.isLt
    have fits : right.toNat >>> 64 < 2 ^ 64 := by
      rw [Nat.shiftRight_eq_div_pow]
      omega
    simpa [Halves.ofElement] using fits
  have cut := ofDigits_split right.toNat 64
  rw [mul, Halves.residue_horner _ (Nat.le_refl 64), Halves.residue_horner _ (Nat.le_refl 64), low,
    high, Halves.toElement_ofElement, Halves.toElement_zero, residue_zero, mul_zero, zero_add,
    Nat.sub_self, Nat.shiftRight_zero, Nat.shiftRight_zero]
  have right_eq : residue right = _ := congrArg (AdjoinRoot.mk modulus) cut
  rw [right_eq, map_add, map_mul]
  ring

/-! ## The modulus is irreducible -/

/-- A polynomial whose degree is a power of two is irreducible if it divides
`X ^ 2 ^ degree - X` and has nothing in common with the same polynomial for half
of the degree. -/
theorem irreducible_of_isCoprime {polynomial : Bit[X]} {exponent half : ℕ}
    (half_eq : half = 2 ^ exponent) (degree_eq : polynomial.natDegree = 2 ^ (exponent + 1))
    (divides : polynomial ∣ X ^ 2 ^ polynomial.natDegree - X)
    (coprime : IsCoprime polynomial (X ^ 2 ^ half - X)) : Irreducible polynomial := by
  have positive : 0 < polynomial.natDegree := degree_eq ▸ Nat.two_pow_pos _
  have notUnit : ¬ IsUnit polynomial := not_isUnit_of_natDegree_pos _ positive
  have nonzero : polynomial ≠ 0 := ne_zero_of_natDegree_gt positive
  obtain ⟨factor, irreducible, factorDvd⟩ :=
    WfDvdMonoid.exists_irreducible_factor notUnit nonzero
  have degreeDvd : factor.natDegree ∣ 2 ^ (exponent + 1) := by
    rw [← degree_eq]
    apply irreducible.natDegree_dvd_of_dvd_X_pow_card_pow_sub_X
    rw [card_bit]
    exact factorDvd.trans divides
  obtain ⟨level, bounded, level_eq⟩ := (Nat.dvd_prime_pow Nat.prime_two).mp degreeDvd
  by_cases top : level = exponent + 1
  · -- the factor is as large as the polynomial
    have large : polynomial.natDegree ≤ factor.natDegree := by
      rw [degree_eq, level_eq, top]
    exact (associated_of_dvd_of_natDegree_le factorDvd nonzero large).irreducible irreducible
  · -- the factor divides both polynomials
    have halfDvd : factor.natDegree ∣ half := by
      rw [level_eq, half_eq]
      exact Nat.pow_dvd_pow 2 (by omega)
    rw [irreducible.natDegree_dvd_iff_dvd_X_pow_card_pow_sub_X, card_bit] at halfDvd
    exact absurd (coprime.isUnit_of_dvd' factorDvd halfDvd) irreducible.not_isUnit

theorem mk_fold (number : ℕ) :
    AdjoinRoot.mk modulus (ofDigits (fold number)) = AdjoinRoot.mk modulus (ofDigits number) := by
  have reduced : AdjoinRoot.mk modulus (X ^ 128) = AdjoinRoot.mk modulus (ofDigits reduction.toNat) :=
    mk_X_pow_eq_residue
  rw [ofDigits_fold, ofDigits_split number 128, map_add, map_add, map_mul, map_mul, reduced]

theorem mk_squares (count number : ℕ) :
    AdjoinRoot.mk modulus (ofDigits (squares count number)) =
      AdjoinRoot.mk modulus (ofDigits number) ^ 2 ^ count := by
  induction count generalizing number with
  | zero => simp [squares]
  | succ count inductionHypothesis =>
      rw [squares, inductionHypothesis, mk_fold, mk_fold, ofDigits_square, map_pow, ← pow_mul,
        pow_succ']

/-- Squaring `X` over and over is a computation on numbers. -/
theorem mk_X_pow_sub_X {count : ℕ} {power : Element} (computed : squares count 2 = power.toNat) :
    AdjoinRoot.mk modulus (X ^ 2 ^ count - X) = residue (power ^^^ 2) := by
  have variable_eq : ofDigits 2 = X := by
    rw [← pow_one 2, ofDigits_two_pow, pow_one]
  have two : (2 : Element).toNat = 2 := rfl
  rw [CharTwo.sub_eq_add, map_add, map_pow, residue_xor, residue, ← computed, mk_squares, residue,
    two, variable_eq]

theorem dvd_of_squares_eq {count : ℕ} (computed : squares count 2 = 2) :
    modulus ∣ X ^ 2 ^ count - X := by
  have same : squares count 2 = (2 : Element).toNat := computed
  rw [← AdjoinRoot.mk_eq_zero, mk_X_pow_sub_X same, BitVec.xor_self]
  exact residue_zero

theorem isCoprime_of_squares_eq {count : ℕ} {power inverse : Element}
    (computed : squares count 2 = power.toNat) (product : mul inverse (power ^^^ 2) = 1) :
    IsCoprime modulus (X ^ 2 ^ count - X) := by
  have one : AdjoinRoot.mk modulus (ofDigits inverse.toNat * (X ^ 2 ^ count - X)) =
      AdjoinRoot.mk modulus 1 := by
    rw [map_mul, mk_X_pow_sub_X computed, map_one, ← residue_one, ← product, residue_mul]
    rfl
  rw [AdjoinRoot.mk_eq_mk] at one
  obtain ⟨quotient, quotient_eq⟩ := one
  exact ⟨-quotient, ofDigits inverse.toNat, by linear_combination quotient_eq⟩

theorem irreducible_modulus : Irreducible modulus := by
  have half : squares 64 2 = (0x61651fea6b5832b944e598a795a299f6#128).toNat := by
    decide +kernel
  have inverse : mul 0x9e4af928ddbc838a41a8cafd2c95b018#128
      (0x61651fea6b5832b944e598a795a299f6#128 ^^^ 2) = 1 := by
    decide +kernel
  have whole : squares modulus.natDegree 2 = 2 := by
    rw [natDegree_modulus]
    decide +kernel
  have exponent : 64 = 2 ^ 6 := rfl
  exact irreducible_of_isCoprime exponent natDegree_modulus (dvd_of_squares_eq whole)
    (isCoprime_of_squares_eq half inverse)

instance : Fact (Irreducible modulus) :=
  ⟨irreducible_modulus⟩

end OneTimePad.BinaryField
