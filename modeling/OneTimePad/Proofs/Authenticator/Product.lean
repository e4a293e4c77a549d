import Mathlib.Algebra.Polynomial.Div
import OneTimePad.Proofs.Authenticator.Field

/-!
# Products of elements

The product of two elements is the remainder of the product of their polynomials
modulo `X ^ 128 + X ^ 7 + X ^ 2 + X + 1`.  It does not matter whether the
coefficients of the multiplier are taken from the highest one on, as `mul` does, or
from the lowest one on, with a multiplicand that is multiplied by `x` in between.

Residues are a field, since the modulus is irreducible, and every element has a
residue of its own.  So all laws of a field hold of the products themselves, and a
product with a factor other than zero determines the other factor.
-/

namespace OneTimePad.BinaryField

open Polynomial

/-! ## The polynomial of an element -/

/-- The polynomial of an element: bit `i` is the coefficient of `X ^ i`. -/
noncomputable def toPolynomial (element : Element) : Bit[X] :=
  ∑ i ∈ Finset.range 128, if element.getLsbD i then X ^ i else 0

theorem toPolynomial_eq (element : Element) : toPolynomial element = ofDigits element.toNat :=
  (ofDigits_eq_sum element.isLt).symm

theorem residue_eq_mk (element : Element) :
    residue element = AdjoinRoot.mk modulus (toPolynomial element) := by
  rw [toPolynomial_eq, residue]

/-- The polynomial of an element is reduced. -/
theorem degree_toPolynomial_lt (element : Element) :
    (toPolynomial element).degree < modulus.degree := by
  rw [toPolynomial_eq, degree_eq_natDegree monic_modulus.ne_zero, natDegree_modulus]
  exact degree_ofDigits_lt element.isLt

/-- A product is the remainder of the product of the polynomials. -/
theorem toPolynomial_mul (left right : Element) :
    toPolynomial (mul left right) = (toPolynomial left * toPolynomial right) %ₘ modulus := by
  have residues := residue_mul left right
  rw [residue_eq_mk, residue_eq_mk, residue_eq_mk, ← map_mul, AdjoinRoot.mk_eq_mk] at residues
  calc toPolynomial (mul left right)
      = toPolynomial (mul left right) %ₘ modulus :=
        ((modByMonic_eq_self_iff monic_modulus).mpr (degree_toPolynomial_lt _)).symm
    _ = (toPolynomial left * toPolynomial right) %ₘ modulus :=
        modByMonic_eq_of_dvd_sub monic_modulus residues

/-! ## From the lowest coefficient on -/

/-- The product of an element with `x`. -/
def timesX (element : Element) : Element :=
  if element.getLsbD 127 then (element <<< 1) ^^^ reduction else element <<< 1

/-- Shift and add: where the lowest of the next `count` coefficients of the multiplier
is one, the multiplicand is added, and in between it is multiplied by `x`. -/
def shiftAndAdd : (count : ℕ) → (multiplicand multiplier product : Element) → Element
  | 0, _, _, product => product
  | count + 1, multiplicand, multiplier, product =>
      shiftAndAdd count (timesX multiplicand) (multiplier >>> 1)
        (if multiplier.getLsbD 0 then product ^^^ multiplicand else product)

theorem residue_timesX (element : Element) :
    residue (timesX element) = AdjoinRoot.mk modulus X * residue element := by
  rw [mk_X_mul_residue, timesX]
  cases element.getLsbD 127 <;> simp

/-- The lowest digits of a number are its very lowest one and those above. -/
theorem ofDigits_mod_succ (number count : ℕ) :
    ofDigits (number % 2 ^ (count + 1)) =
      ofDigits (number % 2) + X * ofDigits (number >>> 1 % 2 ^ count) := by
  have low : number % 2 ^ (count + 1) % 2 ^ 1 = number % 2 := by
    rw [pow_succ, pow_one, Nat.mod_mul_left_mod]
  have high : (number % 2 ^ (count + 1)) >>> 1 = number >>> 1 % 2 ^ count := by
    rw [Nat.shiftRight_eq_div_pow, Nat.shiftRight_eq_div_pow, pow_one, pow_succ',
      Nat.mod_mul_right_div_self]
  rw [ofDigits_split _ 1, low, high, pow_one]

/-- What is added is the multiplicand, times the polynomial of the coefficients that
were taken. -/
theorem residue_shiftAndAdd (count : ℕ) (multiplicand multiplier product : Element) :
    residue (shiftAndAdd count multiplicand multiplier product) =
      residue product +
        AdjoinRoot.mk modulus (ofDigits (multiplier.toNat % 2 ^ count)) *
          residue multiplicand := by
  induction count generalizing multiplicand multiplier product with
  | zero => simp [shiftAndAdd, Nat.mod_one]
  | succ count inductionHypothesis =>
      have added : residue (if multiplier.getLsbD 0 then product ^^^ multiplicand else product) =
          residue product +
            AdjoinRoot.mk modulus (ofDigits (multiplier.toNat % 2)) * residue multiplicand := by
        have lowest : multiplier.toNat % 2 = (multiplier.getLsbD 0).toNat := by
          rw [← BitVec.testBit_toNat, Nat.toNat_testBit, pow_zero, Nat.div_one]
        rw [lowest]
        cases multiplier.getLsbD 0 <;> simp
      have rest : (multiplier >>> 1).toNat = multiplier.toNat >>> 1 := BitVec.toNat_ushiftRight _ _
      rw [shiftAndAdd, inductionHypothesis, added, residue_timesX, rest, ofDigits_mod_succ, map_add,
        map_mul]
      ring

/-- Both ways give one product. -/
theorem mul_eq_shiftAndAdd (left right : Element) :
    mul left right = shiftAndAdd 128 left right 0 := by
  apply residue_injective
  rw [residue_mul, residue_shiftAndAdd, Nat.mod_eq_of_lt right.isLt, residue_zero, zero_add,
    residue, residue, mul_comm]

/-! ## The laws of a field -/

theorem residue_eq_zero_iff {element : Element} : residue element = 0 ↔ element = 0 := by
  rw [← residue_zero, residue_injective.eq_iff]

/-- There are no divisors of zero. -/
theorem mul_eq_zero_iff {left right : Element} : mul left right = 0 ↔ left = 0 ∨ right = 0 := by
  rw [← residue_eq_zero_iff, residue_mul, mul_eq_zero, residue_eq_zero_iff, residue_eq_zero_iff]

/-- A factor other than zero can be cancelled. -/
theorem mul_inj_of_ne_zero {left right factor : Element} (nonzero : factor ≠ 0) :
    mul left factor = mul right factor ↔ left = right := by
  have residue_nonzero : residue factor ≠ 0 := mt residue_eq_zero_iff.mp nonzero
  rw [← residue_injective.eq_iff, residue_mul, residue_mul, mul_left_inj' residue_nonzero,
    residue_injective.eq_iff]

/-- Elements are multiplied as in the field with `2 ^ 128` elements.  The product is
what shift and add computes, and it is the remainder of the product of the polynomials
modulo an irreducible one.  It is commutative and associative, distributes over the
sum, has a neutral element, and has no divisors of zero. -/
theorem mul_is_field_product :
    (∀ left right, mul left right = shiftAndAdd 128 left right 0 ∧
      toPolynomial (mul left right) =
        (toPolynomial left * toPolynomial right) %ₘ (X ^ 128 + X ^ 7 + X ^ 2 + X + 1)) ∧
      (∀ left right, mul left right = mul right left) ∧
      (∀ first second third, mul (mul first second) third = mul first (mul second third)) ∧
      (∀ factor left right, mul factor (left ^^^ right) = mul factor left ^^^ mul factor right) ∧
      (∀ element, mul element 1 = element ∧ mul 1 element = element) ∧
      Irreducible (X ^ 128 + X ^ 7 + X ^ 2 + X + 1 : Bit[X]) ∧
      ∀ left right, mul left right = 0 ↔ left = 0 ∨ right = 0 := by
  have modulus_sum : (X ^ 128 + X ^ 7 + X ^ 2 + X + 1 : Bit[X]) = modulus := by
    rw [modulus_eq, ofDigits_reduction]
    ring
  rw [modulus_sum]
  refine ⟨fun left right => ⟨mul_eq_shiftAndAdd left right, toPolynomial_mul left right⟩, ?_, ?_,
    ?_, ?_, irreducible_modulus, fun left right => mul_eq_zero_iff⟩
  · intro left right
    apply residue_injective
    rw [residue_mul, residue_mul, mul_comm]
  · intro first second third
    apply residue_injective
    rw [residue_mul, residue_mul, residue_mul, residue_mul, mul_assoc]
  · intro factor left right
    apply residue_injective
    rw [residue_mul, residue_xor, residue_xor, residue_mul, residue_mul, mul_add]
  · intro element
    constructor
    · apply residue_injective
      rw [residue_mul, residue_one, mul_one]
    · apply residue_injective
      rw [residue_mul, residue_one, one_mul]

end OneTimePad.BinaryField
