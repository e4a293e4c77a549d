import OneTimePad.Cbor.Head
import OneTimePad.Text.Utf8

/-!
# CBOR values

Readers for the values that stored records hold, and one for values that are
passed over.  Tags in front of a value are ignored, except those that make an
integer of a byte string.

Each reader that repeats a step is given more turns than the input has octets,
and every turn takes at least one of them, so the turns never run out.
-/

namespace OneTimePad.Cbor

/-- How deeply items may be nested, the outermost one included. -/
def nestingLimit : Nat := 256

/-- How many octets of a text are looked at together. -/
def pieceLimit : Nat := 4096

/-! ## Writing -/

/-- An unsigned integer. -/
def writeUnsigned (value : UInt64) : List UInt8 :=
  writeHead 0 value.toNat

/-- A text. -/
def writeText (text : String) : List UInt8 :=
  let bytes := Utf8.ofString text
  writeHead 3 bytes.length ++ bytes

/-- A truth value. -/
def writeBool (value : Bool) : List UInt8 :=
  [if value then 0xf5 else 0xf4]

/-- The head of a map with this many entries. -/
def writeMap (count : Nat) : List UInt8 :=
  writeHead 5 count

/-! ## Heads behind tags -/

/-- Take the first head that is no tag, within this many turns. -/
def readUntaggedWithin : (turns : Nat) → Reader Head
  | 0 => throw .endOfInput
  | turns + 1 => do
      match ← readHead with
      | .tag _ => readUntaggedWithin turns
      | head => return head

/-- Take the first head that is no tag. -/
def readUntagged : Reader Head := do
  readUntaggedWithin ((← get).length + 1)

/-! ## Strings -/

/-- The two kinds of strings. -/
inductive StringKind where
  | bytes
  | text
deriving DecidableEq, Repr

/-- The length that a head announces for a segment of a string, if it is one of
that kind. -/
def StringKind.segment? : StringKind → Head → Option (Option Nat)
  | bytes, .bytes length => some length
  | text, .text length => some length
  | _, _ => none

/-- Go through the segments of a string up to its stop.  `depth` counts the
strings without a length that were begun within it. -/
def foldSegments {σ : Type} (kind : StringKind) (step : Nat → σ → Reader σ) :
    (turns depth : Nat) → σ → Reader σ
  | 0, _, _ => throw .endOfInput
  | turns + 1, depth, state => do
      let head ← readHead
      if head = .stop then
        match depth with
        | 0 => return state
        | depth + 1 => foldSegments kind step turns depth state
      else
        match kind.segment? head with
        | none => throw .malformed
        | some none => foldSegments kind step turns (depth + 1) state
        | some (some length) => do
            let state ← step length state
            foldSegments kind step turns depth state

/-- Go through a string of which the head is taken already. -/
def foldString {σ : Type} (kind : StringKind) (step : Nat → σ → Reader σ)
    (length : Option Nat) (state : σ) : Reader σ := do
  match length with
  | some length => step length state
  | none => foldSegments kind step ((← get).length + 1) 0 state

/-- The most octets at the end of a piece that may belong to a character which
goes on in the next piece. -/
def carryLimit : Nat := 3

/-- Whether octets of a text of which more is to come are seen not to be UTF-8.
They are looked at a full piece at a time, and what a piece leaves over is put
in front of the next one. -/
def isBroken (bytes : List UInt8) : Bool :=
  if bytes.length < pieceLimit then false
  else
    let carried := (Utf8.leftOver (bytes.take pieceLimit)).length
    if carryLimit < carried then true
    else isBroken (bytes.drop (pieceLimit - carried))
termination_by bytes.length
decreasing_by
  have : carryLimit < pieceLimit := by decide
  rw [List.length_drop]
  omega

/-- Take a text of this many octets.  A text that is not UTF-8 may be found out
before it turns out that its end is missing. -/
def takeText (length : Nat) : Reader String := do
  let input ← get
  let front := input.take length
  if front.length < length then
    if isBroken front then throw .malformed else throw .endOfInput
  match Utf8.decode? (← take length) with
  | some text => return text
  | none => throw .malformed

/-- Take a text in any number of segments. -/
def readText : Reader String := do
  match ← readUntagged with
  | .text length => foldString .text (fun length text => return text ++ (← takeText length)) length ""
  | _ => throw .unexpected

/-- Take the key of an entry: a text or a byte string, in one piece. -/
def readKey : Reader (List UInt8) := do
  match ← readUntagged with
  | .text (some length) =>
      if length ≤ pieceLimit then return Utf8.ofString (← takeText length)
      else throw .unexpected
  | .bytes (some length) => if length ≤ pieceLimit then take length else throw .unexpected
  | _ => throw .unexpected

/-- Take the name of an alternative: a text in one piece, or the key of a map
with a single entry, of which the value stays where it is. -/
def readChoice : Reader (List UInt8) := do
  let before ← get
  match ← readUntagged with
  | .text _ =>
      set before
      readKey
  | .map (some 1) => readKey
  | _ => throw .unexpected

/-! ## Integers -/

/-- The octets of the longest integer that is written as a byte string. -/
def bigLength : Nat := 16

/-- Add octets to an integer that is written as a byte string.  Zeros in front
do not count. -/
def extendBig (digits chunk : List UInt8) : Reader (List UInt8) := do
  let digits := if digits = [] then chunk.dropWhile (· = 0) else digits ++ chunk
  if bigLength < digits.length then throw .unexpected
  return digits

/-- Take the octets of a segment, a few at a time. -/
def readBigWithin : (turns length : Nat) → List UInt8 → Reader (List UInt8)
  | 0, _, _ => throw .endOfInput
  | turns + 1, length, digits => do
      if length = 0 then return digits
      let chunk ← take (min bigLength length)
      let digits ← extendBig digits chunk
      readBigWithin turns (length - bigLength) digits

/-- Take an integer that is written as a byte string. -/
def readBig (length : Option Nat) : Reader Nat := do
  let segment (length : Nat) (digits : List UInt8) : Reader (List UInt8) := do
    readBigWithin ((← get).length + 2) length digits
  return Bytes.toNat (← foldString .bytes segment length [])

/-- The tag of an unsigned integer that is written as a byte string. -/
def bigUnsignedTag : Nat := 2

/-- The tag of a negative integer that is written as a byte string. -/
def bigNegativeTag : Nat := 3

/-- Take the byte string that a tag has announced as an integer. -/
def readBigBehindTag : Reader Nat := do
  match ← readHead with
  | .bytes length => readBig length
  | _ => throw .unexpected

/-- Take an integer and whether it is negative, within this many turns. -/
def readIntegerWithin : (turns : Nat) → Reader (Bool × Nat)
  | 0 => throw .endOfInput
  | turns + 1 => do
      match ← readHead with
      | .unsigned value => return (false, value)
      | .negative value => return (true, value)
      | .tag number =>
          if number = bigUnsignedTag then return (false, ← readBigBehindTag)
          else if number = bigNegativeTag then return (true, ← readBigBehindTag)
          else readIntegerWithin turns
      | _ => throw .unexpected

/-- Take an unsigned word. -/
def readUnsigned : Reader UInt64 := do
  match ← readIntegerWithin ((← get).length + 1) with
  | (false, value) => if value < Bytes.capacity 8 then return UInt64.ofNat value else throw .unexpected
  | (true, _) => throw .unexpected

/-! ## Other values -/

/-- Take a truth value. -/
def readBool : Reader Bool := do
  match ← readUntagged with
  | .simple 20 => return false
  | .simple 21 => return true
  | _ => throw .unexpected

/-- Take a value, or one of the signs that there is none. -/
def readOptional {α : Type} (value : Reader α) : Reader (Option α) := do
  let before ← get
  match ← readHead with
  | .simple 22 => return none
  | .simple 23 => return none
  | _ =>
      set before
      return some (← value)

/-! ## Values that are passed over -/

/-- Pass over a string of which the head is taken already. -/
def skipString (kind : StringKind) (length : Option Nat) : Reader Unit :=
  let step (length : Nat) (_ : Unit) : Reader Unit := do
    match kind with
    | .bytes => let _ ← take length
    | .text => let _ ← takeText length
  foldString kind step length ()

/-- Negative integers that are passed over are below this number. -/
def negativeLimit : Nat := 1 <<< 127

/-- If a tag announces an integer as a short byte string, pass over that string
and answer `true`.  The head behind any other tag stays where it is, but it has
to be there. -/
def skipBig (number : Nat) : Reader Bool := do
  let before ← get
  match ← readHead with
  | .bytes (some length) =>
      if (number = bigUnsignedTag ∨ number = bigNegativeTag) ∧ length ≤ bigLength then
        let value ← readBig (some length)
        if number = bigNegativeTag ∧ negativeLimit ≤ value then throw .unexpected
        return true
      else
        set before
        return false
  | _ =>
      set before
      return false

/-- Whether another entry follows, and how many after it.  Without a count, the
entries go on until a stop, which is taken. -/
def nextEntry (count : Option Nat) : Reader (Option (Option Nat)) := do
  match count with
  | some 0 => return none
  | some (count + 1) => return some (some count)
  | none =>
      let before ← get
      if (← readHead) = .stop then return none
      set before
      return some none

mutual

/-- Pass over a value, which may be nested as deeply as `depth` says. -/
def skipValue : (turns depth : Nat) → Reader Unit
  | 0, _ => throw .endOfInput
  | turns + 1, depth => do
      match ← readHead with
      | .unsigned _ | .negative _ | .float => return ()
      | .bytes length => skipString .bytes length
      | .text length => skipString .text length
      | .array count => skipNested turns depth 1 count
      | .map count => skipNested turns depth 2 count
      | .tag number =>
          if ← skipBig number then return ()
          match depth with
          | 0 => throw .nestedTooDeeply
          | depth + 1 => skipValue turns depth
      | .simple value => if 20 ≤ value ∧ value ≤ 23 then return () else throw .unexpected
      | .stop => throw .unexpected

/-- Pass over the entries of an array or map, unless they lie too deep. -/
def skipNested : (turns depth width : Nat) → Option Nat → Reader Unit
  | 0, _, _, _ => throw .endOfInput
  | _ + 1, 0, _, _ => throw .nestedTooDeeply
  | turns + 1, depth + 1, width, count => skipEntries turns depth width count

/-- Pass over entries of one or two values each. -/
def skipEntries : (turns depth width : Nat) → Option Nat → Reader Unit
  | 0, _, _, _ => throw .endOfInput
  | turns + 1, depth, width, count => do
      match ← nextEntry count with
      | none => return ()
      | some count => do
          skipValue turns depth
          if width = 2 then skipValue turns depth
          skipEntries turns depth width count

end

/-- Pass over a value inside the outermost map. -/
def skip : Reader Unit := do
  skipValue (3 * (← get).length + 3) (nestingLimit - 1)

end OneTimePad.Cbor
