/-!
# Hexadecimal text

Octets are written as two lowercase digits each.  Reading takes digits of both
cases and says where the first thing that is no digit stands.  Main statement:
different byte strings have different texts.
-/

namespace OneTimePad.Hex

/-- The lowercase digit of a number below sixteen. -/
def digit (value : Nat) : Char :=
  if value < 10 then Char.ofNat (48 + value) else Char.ofNat (87 + value)

/-- The two digits of an octet. -/
def octet (byte : UInt8) : List Char :=
  [digit (byte.toNat / 16), digit (byte.toNat % 16)]

/-- The digits of a byte string. -/
def digits (bytes : List UInt8) : List Char :=
  bytes.flatMap octet

/-- The text of a byte string. -/
def encode (bytes : List UInt8) : String :=
  String.ofList (digits bytes)

/-- Why a text stands for no octets. -/
inductive DecodeError where
  /-- The digits do not pair up. -/
  | oddLength
  /-- An octet of the text is no digit. -/
  | invalidDigit (byte : UInt8) (position : Nat)
deriving DecidableEq, Repr

/-- The value of a digit, given as the octet that encodes it. -/
def digitValue? (byte : UInt8) : Option Nat :=
  if 48 ≤ byte ∧ byte ≤ 57 then some (byte.toNat - 48)
  else if 97 ≤ byte ∧ byte ≤ 102 then some (byte.toNat - 87)
  else if 65 ≤ byte ∧ byte ≤ 70 then some (byte.toNat - 55)
  else none

/-- Read one digit that stands at `position`. -/
def readDigit (byte : UInt8) (position : Nat) : Except DecodeError Nat :=
  match digitValue? byte with
  | some value => .ok value
  | none => .error (.invalidDigit byte position)

/-- Read pairs of digits, the first of which stands at `position`. -/
def readPairs : (position : Nat) → List UInt8 → Except DecodeError (List UInt8)
  | _, [] => .ok []
  | _, [_] => .error .oddLength
  | position, high :: low :: rest => do
      let highValue ← readDigit high position
      let lowValue ← readDigit low (position + 1)
      let bytes ← readPairs (position + 2) rest
      return UInt8.ofNat (highValue * 16 + lowValue) :: bytes

/-- Read the octets of a text, which is given as octets itself.  That the
digits pair up is settled before any of them is read. -/
def decode (text : List UInt8) : Except DecodeError (List UInt8) :=
  if text.length % 2 = 0 then readPairs 0 text else .error .oddLength

/-! ## Laws -/

theorem length_digits (bytes : List UInt8) : (digits bytes).length = 2 * bytes.length := by
  induction bytes with
  | nil => rfl
  | cons byte bytes ih =>
      simp only [digits, List.flatMap_cons, List.length_append, List.length_cons] at ih ⊢
      rw [ih]
      simp only [octet, List.length_cons, List.length_nil]
      omega

theorem octet_injective {left right : UInt8} (equal : octet left = octet right) :
    left = right := by
  have all : ∀ l r : Fin 256, octet (UInt8.ofFin l) = octet (UInt8.ofFin r) → l = r := by
    have pairs : ∀ l : Fin 16, ∀ r : Fin 16, digit l.val = digit r.val → l = r := by decide
    intro l r same
    simp only [octet, UInt8.toNat_ofFin, List.cons.injEq, and_true] at same
    have high := pairs ⟨l.val / 16, by omega⟩ ⟨r.val / 16, by omega⟩ same.1
    have low := pairs ⟨l.val % 16, by omega⟩ ⟨r.val % 16, by omega⟩ same.2
    simp only [Fin.mk.injEq] at high low
    omega
  have fins : left.toFin = right.toFin := all left.toFin right.toFin equal
  exact UInt8.toFin_inj.mp fins

/-- Different byte strings have different texts. -/
theorem digits_injective {left right : List UInt8} (equal : digits left = digits right) :
    left = right := by
  induction left generalizing right with
  | nil =>
      cases right with
      | nil => rfl
      | cons => simp [digits, octet] at equal
  | cons byte left ih =>
      cases right with
      | nil => simp [digits, octet] at equal
      | cons other right =>
          simp only [digits, List.flatMap_cons] at equal ih
          have split := List.append_inj equal (by simp [octet])
          rw [octet_injective split.1, ih split.2]

end OneTimePad.Hex
