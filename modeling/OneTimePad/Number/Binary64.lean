/-!
# Double-precision numbers

A number of the binary64 format, known by its bits.  All questions about it are
answered in exact integer arithmetic: a finite number is a mantissa times a
power of two.
-/

namespace OneTimePad

/-- A binary64 number, known by its bits. -/
structure Binary64 where
  bits : UInt64
deriving DecidableEq, Repr

namespace Binary64

/-- The bit of the sign, which is the highest one. -/
def signBit : Nat := 0x8000000000000000

/-- The bits without the sign. -/
def magnitude (number : Binary64) : Nat :=
  number.bits.toNat % signBit

/-- Whether the sign is minus. -/
def isNegative (number : Binary64) : Bool :=
  signBit ≤ number.bits.toNat

/-- The magnitude of the infinities.  Greater magnitudes are no numbers. -/
def infinity : Nat := 0x7ff0000000000000

/-- The magnitude of one. -/
def one : Nat := 0x3ff0000000000000

/-- A finite positive number `mantissa * 2 ^ (exponent - 1074)`. -/
structure Scaled where
  mantissa : Nat
  exponent : Nat
deriving DecidableEq, Repr

/-- The leading one of a mantissa, which is not among the bits. -/
def leadingOne : Nat := 0x10000000000000

/-- What a finite magnitude stands for.  Numbers with the smallest exponent
have no leading one. -/
def scaled (number : Binary64) : Scaled :=
  let field := number.magnitude / leadingOne
  let fraction := number.magnitude % leadingOne
  if field = 0 then ⟨fraction, 0⟩ else ⟨leadingOne + fraction, field - 1⟩

/-- Whether a number lies between zero and one, both included.  The negative
zero does; what is not a number does not. -/
def inUnitInterval (number : Binary64) : Bool :=
  number.magnitude = 0 || (!number.isNegative && number.magnitude ≤ one)

/-- The product of a number below one with `2 ^ 64`, rounded down. -/
def timesWordRange (number : Binary64) : Nat :=
  let value := number.scaled
  (value.mantissa <<< value.exponent) >>> 1010

end Binary64

end OneTimePad
