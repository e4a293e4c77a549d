import OneTimePad.Bytes.BigEndian

/-!
# Heads of CBOR items

Every CBOR item begins with a head: a major type, and an argument that is
either part of the first octet or stands in the octets after it.  Heads are
written with the shortest argument and read with any.
-/

namespace OneTimePad.Cbor

/-- Why octets are not what the reader expects. -/
inductive ReadError where
  /-- The octets end too early. -/
  | endOfInput
  /-- The octets are no CBOR, or a text is not UTF-8. -/
  | malformed
  /-- An item is well formed, and not what belongs there. -/
  | unexpected
  /-- Items are nested too deeply. -/
  | nestedTooDeeply
deriving DecidableEq, Repr

/-- The name of the class that an error belongs to. -/
def ReadError.name : ReadError → String
  | endOfInput => "Io"
  | malformed => "Syntax"
  | unexpected => "Semantic"
  | nestedTooDeeply => "RecursionLimitExceeded"

/-- The head of an item.  A missing length or count means that the item goes on
until a stop. -/
inductive Head where
  | unsigned (value : Nat)
  | negative (value : Nat)
  | bytes (length : Option Nat)
  | text (length : Option Nat)
  | array (count : Option Nat)
  | map (count : Option Nat)
  | tag (number : Nat)
  | simple (value : Nat)
  | float
  | stop
deriving DecidableEq, Repr

/-! ## Writing -/

/-- A major type with its argument, as short as can be. -/
def writeHead (major argument : Nat) : List UInt8 :=
  let first (information : Nat) : UInt8 := UInt8.ofNat (major * 32 + information)
  if argument < 24 then [first argument]
  else if argument < Bytes.capacity 1 then first 24 :: Bytes.ofNat 1 argument
  else if argument < Bytes.capacity 2 then first 25 :: Bytes.ofNat 2 argument
  else if argument < Bytes.capacity 4 then first 26 :: Bytes.ofNat 4 argument
  else first 27 :: Bytes.ofNat 8 argument

/-! ## Reading -/

/-- A step that takes octets from the front of the input. -/
abbrev Reader := StateT (List UInt8) (Except ReadError)

/-- Take as many octets as asked for. -/
def take (count : Nat) : Reader (List UInt8) := fun input =>
  let front := input.take count
  if front.length < count then .error .endOfInput else .ok (front, input.drop count)

/-- Take the argument that the lowest five bits of a first octet announce. -/
def readArgument (information : Nat) : Reader (Option Nat) :=
  if information < 24 then return some information
  else if information < 28 then do
    let bytes ← take (1 <<< (information - 24))
    return some (Bytes.toNat bytes)
  else if information = 31 then return none
  else throw .malformed

/-- An argument that has to be there. -/
def definite : Option Nat → Reader Nat
  | some argument => return argument
  | none => throw .malformed

/-- The head with this major type, the information that came with it, and the
argument. -/
def headOf (major information : Nat) (argument : Option Nat) : Reader Head := do
  match major with
  | 0 => return .unsigned (← definite argument)
  | 1 => return .negative (← definite argument)
  | 2 => return .bytes argument
  | 3 => return .text argument
  | 4 => return .array argument
  | 5 => return .map argument
  | 6 => return .tag (← definite argument)
  | _ =>
      match argument with
      | none => return .stop
      | some value => return if information < 25 then .simple value else .float

/-- Take the head of an item. -/
def readHead : Reader Head := do
  let first := Bytes.toNat (← take 1)
  let argument ← readArgument (first % 32)
  headOf (first / 32) (first % 32) argument

/-! ## Laws -/

theorem take_append {count : Nat} {front rest : List UInt8} (size : front.length = count) :
    take count (front ++ rest) = .ok (front, rest) := by
  subst size
  simp [take]

end OneTimePad.Cbor
