import Mathlib.Algebra.CharP.Two
import Mathlib.Algebra.Field.ZMod
import Mathlib.Algebra.Polynomial.Degree.Operations
import OneTimePad.Authenticator.BinaryField

/-!
# Binary polynomials as numbers

A polynomial over the two-element field is written as a number, digit `i` being
the coefficient of `X ^ i`.  Exclusive or adds such polynomials, a shift
multiplies them by a power of `X`, and a square moves the digits apart.

Squaring is what decides whether a polynomial is irreducible, and on numbers it
is quick.  `squares` is that computation for the modulus of the authenticator's
field: what stands above place 128 is put back by `fold`.
-/

namespace OneTimePad.BinaryField

open Polynomial

/-- The two-element field. -/
def Bit : Type :=
  ZMod 2

instance : Field Bit :=
  inferInstanceAs (Field (ZMod 2))

instance : CharP Bit 2 :=
  inferInstanceAs (CharP (ZMod 2) 2)

instance : Finite Bit :=
  inferInstanceAs (Finite (ZMod 2))

theorem card_bit : Nat.card Bit = 2 :=
  Nat.card_zmod 2

/-- The polynomial whose coefficients are the binary digits of a number. -/
noncomputable def ofDigits (number : ℕ) : Bit[X] :=
  ∑ i ∈ Finset.range number, if number.testBit i then X ^ i else 0

variable {number : ℕ}

theorem coeff_sum_digits {count : ℕ} (small : number < 2 ^ count) (i : ℕ) :
    (∑ j ∈ Finset.range count, if number.testBit j then (X ^ j : Bit[X]) else 0).coeff i =
      if number.testBit i then 1 else 0 := by
  have term : ∀ j, (if number.testBit j then (X ^ j : Bit[X]) else 0).coeff i =
      if j = i then (if number.testBit i then 1 else 0) else 0 := by
    intro j
    by_cases same : j = i
    · subst same
      cases number.testBit j <;> simp
    · cases number.testBit j <;> simp [coeff_X_pow, same, Ne.symm same]
  rw [finsetSum_coeff, Finset.sum_congr rfl fun j _ => term j, Finset.sum_ite_eq']
  split
  · rfl
  · rename_i outside
    rw [Finset.mem_range, Nat.not_lt] at outside
    have clear : number.testBit i = false :=
      Nat.testBit_lt_two_pow (small.trans_le (Nat.pow_le_pow_right Nat.two_pos outside))
    simp [clear]

-- a number has no digit at a place as high as the number itself
@[simp]
theorem coeff_ofDigits (number i : ℕ) :
    (ofDigits number).coeff i = if number.testBit i then 1 else 0 :=
  coeff_sum_digits Nat.lt_two_pow_self i

/-- The digits of a number that is known to be small. -/
theorem ofDigits_eq_sum {count : ℕ} (small : number < 2 ^ count) :
    ofDigits number =
      ∑ i ∈ Finset.range count, if number.testBit i then (X ^ i : Bit[X]) else 0 := by
  ext i
  rw [coeff_ofDigits, coeff_sum_digits small]

theorem ofDigits_injective : Function.Injective ofDigits := by
  intro left right same
  apply Nat.eq_of_testBit_eq
  intro i
  have coefficient := congrArg (fun polynomial => polynomial.coeff i) same
  simp only [coeff_ofDigits] at coefficient
  cases one : left.testBit i <;> cases two : right.testBit i <;> simp [one, two] at coefficient ⊢

@[simp]
theorem ofDigits_zero : ofDigits 0 = 0 := by
  simp [ofDigits]

@[simp]
theorem ofDigits_one : ofDigits 1 = 1 := by
  ext i
  simp [coeff_one, Nat.testBit_one_eq_true_iff_self_eq_zero]

@[simp]
theorem ofDigits_xor (left right : ℕ) :
    ofDigits (left ^^^ right) = ofDigits left + ofDigits right := by
  ext i
  rw [coeff_add, coeff_ofDigits, coeff_ofDigits, coeff_ofDigits, Nat.testBit_xor]
  cases left.testBit i <;> cases right.testBit i <;> simp [CharTwo.add_self_eq_zero]

@[simp]
theorem ofDigits_shiftLeft (number count : ℕ) :
    ofDigits (number <<< count) = X ^ count * ofDigits number := by
  ext i
  rw [coeff_X_pow_mul', coeff_ofDigits, coeff_ofDigits, Nat.testBit_shiftLeft]
  by_cases moved : count ≤ i <;> simp [moved]

theorem ofDigits_two_pow (count : ℕ) : ofDigits (2 ^ count) = X ^ count := by
  rw [← Nat.one_shiftLeft, ofDigits_shiftLeft, ofDigits_one, mul_one]

/-- A number is cut into its lowest digits and those above. -/
theorem ofDigits_split (number count : ℕ) :
    ofDigits number = ofDigits (number % 2 ^ count) + X ^ count * ofDigits (number >>> count) := by
  ext i
  rw [coeff_add, coeff_X_pow_mul', coeff_ofDigits, coeff_ofDigits, coeff_ofDigits,
    Nat.testBit_mod_two_pow, Nat.testBit_shiftRight]
  by_cases upper : count ≤ i
  · simp [upper, Nat.not_lt.mpr upper]
  · simp [upper, Nat.not_le.mp upper]

theorem degree_ofDigits_lt {count : ℕ} (small : number < 2 ^ count) :
    (ofDigits number).degree < count := by
  rw [degree_lt_iff_coeff_zero]
  intro i above
  have clear : number.testBit i = false :=
    Nat.testBit_lt_two_pow (small.trans_le (Nat.pow_le_pow_right Nat.two_pos above))
  simp [clear]

theorem ofDigits_reduction : ofDigits reduction.toNat = X ^ 7 + X ^ 2 + X + 1 := by
  have digits : reduction.toNat = 2 ^ 7 ^^^ 2 ^ 2 ^^^ 2 ^ 1 ^^^ 2 ^ 0 := rfl
  rw [digits, ofDigits_xor, ofDigits_xor, ofDigits_xor, ofDigits_two_pow, ofDigits_two_pow,
    ofDigits_two_pow, ofDigits_two_pow, pow_one, pow_zero]

/-! ## Squares -/

/-- The lowest `count` digits of a number, moved apart to the even places. -/
def spread : (count : ℕ) → ℕ → ℕ
  | 0, _ => 0
  | count + 1, number => (number % 2) ^^^ (spread count (number >>> 1) <<< 2)

/-- The square of a polynomial. -/
def square (number : ℕ) : ℕ :=
  spread (number.log2 + 1) number

theorem ofDigits_spread {count : ℕ} (small : number < 2 ^ count) :
    ofDigits (spread count number) = ofDigits number ^ 2 := by
  induction count generalizing number with
  | zero =>
      obtain rfl : number = 0 := by omega
      simp [spread]
  | succ count inductionHypothesis =>
      have halved : number >>> 1 < 2 ^ count := by
        rw [Nat.shiftRight_eq_div_pow]
        omega
      have lowest : ofDigits (number % 2) ^ 2 = ofDigits (number % 2) := by
        rcases Nat.mod_two_eq_zero_or_one number with zero | one
        · simp [zero]
        · simp [one]
      have cut := ofDigits_split number 1
      rw [pow_one, pow_one] at cut
      rw [spread, ofDigits_xor, ofDigits_shiftLeft, inductionHypothesis halved, cut,
        CharTwo.add_sq, lowest, mul_pow]

theorem ofDigits_square (number : ℕ) : ofDigits (square number) = ofDigits number ^ 2 :=
  ofDigits_spread Nat.lt_log2_self

/-- Put what stands above place 128 back in its reduced form. -/
def fold (number : ℕ) : ℕ :=
  let above := number >>> 128
  (number % 2 ^ 128) ^^^ above ^^^ (above <<< 1) ^^^ (above <<< 2) ^^^ (above <<< 7)

theorem ofDigits_fold (number : ℕ) :
    ofDigits (fold number) =
      ofDigits (number % 2 ^ 128) + ofDigits reduction.toNat * ofDigits (number >>> 128) := by
  simp only [fold, ofDigits_xor, ofDigits_shiftLeft, ofDigits_reduction]
  ring

/-- Square a polynomial `count` times.  Two folds reduce a square. -/
def squares : (count : ℕ) → ℕ → ℕ
  | 0, number => number
  | count + 1, number => squares count (fold (fold (square number)))

end OneTimePad.BinaryField
