/-!
# Base64 text

Three octets are written as four symbols; a last group of one or two octets is
filled up with the sign `=`.  Reading takes canonical text only: the padding
has to be there, and the bits that the last symbol does not need have to be
zero.  So each byte string has one text.

A text that is refused is refused for the first of these reasons that applies:
a lone last octet that is no symbol, an octet outside the alphabet in a full
group, an octet out of place in the last group, too few symbols in the last
group, missing or surplus padding, and left-over bits.
-/

namespace OneTimePad.Base64

/-- The sign that fills up the last group. -/
def filler : UInt8 := 61

/-- The symbol of a number below sixty-four, as an octet. -/
def symbol (value : Nat) : UInt8 :=
  if value < 26 then UInt8.ofNat (65 + value)
  else if value < 52 then UInt8.ofNat (71 + value)
  else if value < 62 then UInt8.ofNat (value - 4)
  else if value = 62 then 43
  else 47

/-- The number of a symbol. -/
def value? (byte : UInt8) : Option Nat :=
  if 65 ≤ byte ∧ byte ≤ 90 then some (byte.toNat - 65)
  else if 97 ≤ byte ∧ byte ≤ 122 then some (byte.toNat - 71)
  else if 48 ≤ byte ∧ byte ≤ 57 then some (byte.toNat + 4)
  else if byte = 43 then some 62
  else if byte = 47 then some 63
  else none

/-! ## Writing -/

/-- The text of octets, as octets. -/
def encode : List UInt8 → List UInt8
  | [] => []
  | [first] =>
      [symbol (first.toNat / 4), symbol (first.toNat % 4 * 16), filler, filler]
  | [first, second] =>
      [symbol (first.toNat / 4), symbol (first.toNat % 4 * 16 + second.toNat / 16),
        symbol (second.toNat % 16 * 4), filler]
  | first :: second :: third :: rest =>
      symbol (first.toNat / 4) :: symbol (first.toNat % 4 * 16 + second.toNat / 16) ::
        symbol (second.toNat % 16 * 4 + third.toNat / 64) :: symbol (third.toNat % 64) ::
        encode rest

/-- The text of octets. -/
def encodeText (bytes : List UInt8) : String :=
  String.ofList ((encode bytes).map fun byte => Char.ofNat byte.toNat)

/-! ## Reading -/

/-- Why a text stands for no octets. -/
inductive DecodeError where
  /-- An octet is not allowed where it stands. -/
  | invalidSymbol (byte : UInt8) (offset : Nat)
  /-- The last group is too short to hold an octet. -/
  | invalidLength (length : Nat)
  /-- The last symbol carries bits that belong to no octet. -/
  | invalidLastSymbol (byte : UInt8) (offset : Nat)
  /-- The last group is not filled up as it should be. -/
  | invalidPadding
deriving DecidableEq, Repr

/-- The text of an error. -/
def DecodeError.message : DecodeError → String
  | .invalidSymbol byte offset => s!"Invalid symbol {byte.toNat}, offset {offset}."
  | .invalidLength length => s!"Invalid input length: {length}"
  | .invalidLastSymbol byte offset => s!"Invalid last symbol {byte.toNat}, offset {offset}."
  | .invalidPadding => "Invalid padding"

/-- The first octet that is no symbol, and where it stands, when the first
octet stands at `offset`. -/
def stranger? : (offset : Nat) → List UInt8 → Option (UInt8 × Nat)
  | _, [] => none
  | offset, byte :: rest =>
      if value? byte = none then some (byte, offset) else stranger? (offset + 1) rest

/-- The numbers of symbols, the first of which stands at offset zero. -/
def values (text : List UInt8) : Except DecodeError (List Nat) :=
  match stranger? 0 text with
  | some (byte, offset) => .error (.invalidSymbol byte offset)
  | none => .ok (text.map fun byte => (value? byte).getD 0)

/-- The octets of full groups of four numbers. -/
def octets : List Nat → List UInt8
  | first :: second :: third :: fourth :: rest =>
      UInt8.ofNat (first * 4 + second / 16) :: UInt8.ofNat (second % 16 * 16 + third / 4) ::
        UInt8.ofNat (third % 4 * 64 + fourth) :: octets rest
  | _ => []

/-- The last group as it is read: its symbols in order, and where its first
filler stands. -/
structure LastGroup where
  symbols : List (UInt8 × Nat)
  fillers : Nat
deriving Repr

/-- Read the last group.  `start` is where the group begins, `index` the place
within it, `group` what was read so far. -/
def readLast (start : Nat) : (index : Nat) → LastGroup → List UInt8 →
    Except DecodeError LastGroup
  | _, group, [] => .ok group
  | index, group, byte :: rest =>
      if byte = filler then
        if index < 2 then .error (.invalidSymbol byte (start + index))
        else readLast start (index + 1) { group with fillers := group.fillers + 1 } rest
      else if group.fillers ≠ 0 then
        .error (.invalidSymbol filler (start + group.symbols.length))
      else
        match value? byte with
        | none => .error (.invalidSymbol byte (start + index))
        | some value =>
            readLast start (index + 1)
              { group with symbols := group.symbols ++ [(byte, value)] } rest

/-- The octets of the last group, given its symbols. -/
def lastOctets (start : Nat) : List (UInt8 × Nat) → Except DecodeError (List UInt8)
  | [(_, first), (byte, second)] =>
      if second % 16 = 0 then .ok [UInt8.ofNat (first * 4 + second / 16)]
      else .error (.invalidLastSymbol byte (start + 1))
  | [(_, first), (_, second), (byte, third)] =>
      if third % 4 = 0 then
        .ok [UInt8.ofNat (first * 4 + second / 16), UInt8.ofNat (second % 16 * 16 + third / 4)]
      else .error (.invalidLastSymbol byte (start + 2))
  | symbols => .ok (octets (symbols.map (·.2)))

/-- The octets of a last group that begins at `start` and is not empty. -/
def decodeLast (start : Nat) (text : List UInt8) : Except DecodeError (List UInt8) := do
  let group ← readLast start 0 ⟨[], 0⟩ text
  if group.symbols.length < 2 then
    .error (.invalidLength (start + group.symbols.length))
  else if (group.symbols.length + group.fillers) % 4 ≠ 0 then
    .error .invalidPadding
  else
    lastOctets start group.symbols

/-- How long the last group of a text of this length is. -/
def lastLength (length : Nat) : Nat :=
  if length % 4 = 0 then 4 else length % 4

/-- Whether the text ends in a group of a single octet that is no symbol. -/
def loneStranger? (text : List UInt8) : Option UInt8 :=
  if text.length % 4 = 1 then
    text.getLast?.filter fun byte => byte ≠ filler ∧ value? byte = none
  else none

/-- The octets of a text, which is given as octets itself. -/
def decode (text : List UInt8) : Except DecodeError (List UInt8) := do
  if text = [] then return []
  match loneStranger? text with
  | some byte => .error (.invalidSymbol byte (text.length - 1))
  | none =>
      let start := text.length - lastLength text.length
      let numbers ← values (text.take start)
      let last ← decodeLast start (text.drop start)
      return octets numbers ++ last

end OneTimePad.Base64
