/-!
# The field of the authenticator

Elements are the polynomials over the two-element field of degree below 128;
bit `i` of a vector is the coefficient of `x ^ i`.  Sums are exclusive or, and
products are taken modulo `x ^ 128 + x ^ 7 + x ^ 2 + x + 1`.

Products are computed on two machine words.  The lemmas at the end say what the
steps of the computation are on the vectors: a sum and a product with `x`.
-/

namespace OneTimePad.BinaryField

/-- A polynomial of degree below 128, bit `i` being the coefficient of
`x ^ i`. -/
abbrev Element := BitVec 128

/-- What `x ^ 128` is equal to: `x ^ 7 + x ^ 2 + x + 1`. -/
def reduction : Element := 0x87#128

/-- An element as two words. -/
structure Halves where
  high : UInt64
  low : UInt64
deriving DecidableEq, Repr

namespace Halves

/-- The words of an element. -/
def ofElement (element : Element) : Halves :=
  { high := UInt64.ofBitVec (element.extractLsb' 64 64)
    low := UInt64.ofBitVec (element.extractLsb' 0 64) }

/-- The element that two words make. -/
def toElement (halves : Halves) : Element :=
  halves.high.toBitVec ++ halves.low.toBitVec

/-- The sum of two elements. -/
def add (left right : Halves) : Halves :=
  { high := left.high ^^^ right.high, low := left.low ^^^ right.low }

/-- The product with `x`. -/
def timesX (halves : Halves) : Halves :=
  let high := (halves.high <<< 1) ||| (halves.low >>> 63)
  let low := halves.low <<< 1
  if halves.high >>> 63 = 0 then { high, low } else { high, low := low ^^^ 0x87 }

/-- One turn of Horner's rule: make room for the next coefficient of the
multiplier, which is the highest bit of `bits`, and add it in. -/
def turn (multiplicand : Halves) (bits : UInt64) (product : Halves) : Halves :=
  if bits >>> 63 = 0 then product.timesX else product.timesX.add multiplicand

/-- Horner's rule over the highest `count` bits of a word. -/
def horner (multiplicand : Halves) : (count : Nat) → (bits : UInt64) → Halves → Halves
  | 0, _, product => product
  | count + 1, bits, product =>
      horner multiplicand count (bits <<< 1) (turn multiplicand bits product)

end Halves

/-- The product of two elements. -/
def mul (left right : Element) : Element :=
  let multiplicand := Halves.ofElement left
  let multiplier := Halves.ofElement right
  let upper := Halves.horner multiplicand 64 multiplier.high ⟨0, 0⟩
  (Halves.horner multiplicand 64 multiplier.low upper).toElement

namespace Halves

/-- The coefficients of an element, read off its words. -/
theorem getLsbD_toElement (halves : Halves) (i : Nat) :
    halves.toElement.getLsbD i =
      if i < 64 then halves.low.toBitVec.getLsbD i else halves.high.toBitVec.getLsbD (i - 64) :=
  BitVec.getLsbD_append

@[simp]
theorem toElement_ofElement (element : Element) : (ofElement element).toElement = element := by
  apply BitVec.eq_of_getLsbD_eq
  intro i inside
  rw [getLsbD_toElement]
  by_cases lower : i < 64
  · simp [ofElement, lower]
  · have upper : i - 64 < 64 := by omega
    have whole : 64 + (i - 64) = i := by omega
    simp [ofElement, lower, upper, whole]

@[simp]
theorem toElement_zero : toElement ⟨0, 0⟩ = 0 := rfl

@[simp]
theorem toElement_add (left right : Halves) :
    (left.add right).toElement = left.toElement ^^^ right.toElement := by
  apply BitVec.eq_of_getLsbD_eq
  intro i inside
  by_cases lower : i < 64 <;> simp [getLsbD_toElement, add, lower]

/-- The highest bit of a word. -/
theorem shiftRight_eq_zero_iff (word : UInt64) :
    word >>> 63 = 0 ↔ word.toBitVec.getLsbD 63 = false := by
  rw [← UInt64.toBitVec_inj, BitVec.eq_of_getLsbD_eq_iff]
  constructor
  · intro same
    simpa using same 0 (by decide)
  · intro clear i inside
    by_cases first : i = 0
    · simpa [first] using clear
    · simpa using BitVec.getLsbD_of_ge word.toBitVec (63 + i) (by omega)

/-- The product with `x` moves every coefficient up, and what is moved out of
the highest place is put back reduced. -/
@[simp]
theorem toElement_timesX (halves : Halves) :
    halves.timesX.toElement =
      if halves.toElement.getLsbD 127 then (halves.toElement <<< 1) ^^^ reduction
      else halves.toElement <<< 1 := by
  have moved : toElement ⟨(halves.high <<< 1) ||| (halves.low >>> 63), halves.low <<< 1⟩ =
      halves.toElement <<< 1 := by
    apply BitVec.eq_of_getLsbD_eq
    intro i inside
    simp only [getLsbD_toElement, BitVec.getLsbD_shiftLeft]
    by_cases lowest : i = 0
    · simp [lowest]
    · by_cases lower : i < 64
      · have before : i - 1 < 64 := by omega
        simp [lowest, lower, before, inside]
      · by_cases carry : i = 64
        · simp [carry]
        · have inner : i - 64 < 64 := by omega
          have above : ¬ i - 1 < 64 := by omega
          have gone : 63 + (i - 64) ≥ 64 := by omega
          have same : i - 1 - 64 = i - 64 - 1 := by omega
          have positive : i - 64 ≠ 0 := by omega
          simp [lowest, lower, above, inside, inner, same, positive,
            BitVec.getLsbD_of_ge _ _ gone]
          exact (BitVec.getLsbD_eq_getElem (by omega)).symm
  have top : halves.toElement.getLsbD 127 = halves.high.toBitVec.getLsbD 63 :=
    getLsbD_toElement halves 127
  unfold timesX
  rw [top]
  by_cases overflow : halves.high >>> 63 = 0
  · rw [(shiftRight_eq_zero_iff _).1 overflow]
    simp [overflow, moved]
  · have carried : halves.high.toBitVec.getLsbD 63 = true := by
      simpa [shiftRight_eq_zero_iff] using overflow
    have reduced : toElement ⟨0, 0x87⟩ = reduction := rfl
    rw [carried, ← moved, ← reduced, if_pos rfl, ← toElement_add]
    simp [overflow, add]

end Halves

end OneTimePad.BinaryField
