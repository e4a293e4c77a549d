/-!
# UTF-8

Characters as octets, and octets as characters.  There are two ways to read
octets that are not all well formed.  The lenient one never fails: the longest
run that could have begun a character is replaced by one replacement character,
and reading goes on after it.  The strict one stops there, and says which
octets are left.
-/

namespace OneTimePad.Utf8

/-- The octets of a text. -/
def encode (chars : List Char) : List UInt8 :=
  chars.flatMap String.utf8EncodeChar

/-- The octets of a string. -/
def ofString (text : String) : List UInt8 :=
  encode text.toList

/-- The character that stands for octets which are not well formed. -/
def replacement : Char := Char.ofNat 0xfffd

/-- What an octet at the start of a character announces: how many octets
follow, its own share of the code point, and the range that the second octet
has to lie in, which keeps out overlong forms, surrogates and numbers that are
too large. -/
structure Lead where
  following : Nat
  share : Nat
  lowest : Nat
  highest : Nat
deriving DecidableEq, Repr

/-- The announcement of an octet, unless no character starts with it. -/
def lead? (byte : Nat) : Option Lead :=
  if byte < 0x80 then some ⟨0, byte, 0x80, 0xbf⟩
  else if byte < 0xc2 then none
  else if byte < 0xe0 then some ⟨1, byte - 0xc0, 0x80, 0xbf⟩
  else if byte = 0xe0 then some ⟨2, 0, 0xa0, 0xbf⟩
  else if byte = 0xed then some ⟨2, 0xd, 0x80, 0x9f⟩
  else if byte < 0xf0 then some ⟨2, byte - 0xe0, 0x80, 0xbf⟩
  else if byte = 0xf0 then some ⟨3, 0, 0x90, 0xbf⟩
  else if byte < 0xf4 then some ⟨3, byte - 0xf0, 0x80, 0xbf⟩
  else if byte = 0xf4 then some ⟨3, 4, 0x80, 0x8f⟩
  else none

/-- Take the octets that still belong to a character: up to `following` many,
the first within the given range and the others continuation octets.  The
result is the code point when none is missing, and what comes after. -/
def follow : (following share lowest highest : Nat) → List UInt8 → Option Nat × List UInt8
  | 0, share, _, _, rest => (some share, rest)
  | _ + 1, _, _, _, [] => (none, [])
  | following + 1, share, lowest, highest, byte :: rest =>
      if lowest ≤ byte.toNat ∧ byte.toNat ≤ highest then
        follow following (share * 64 + (byte.toNat - 0x80)) 0x80 0xbf rest
      else (none, byte :: rest)

theorem length_follow_le (following share lowest highest : Nat) (bytes : List UInt8) :
    (follow following share lowest highest bytes).2.length ≤ bytes.length := by
  induction following generalizing share lowest highest bytes with
  | zero => simp [follow]
  | succ following ih =>
      cases bytes with
      | nil => simp [follow]
      | cons byte rest =>
          unfold follow
          split
          · exact Nat.le_succ_of_le (ih _ _ _ rest)
          · exact Nat.le_refl _

/-- Read one character from octets of which there is at least one.  If they do
not begin with a character, the longest run that could have begun one is gone
all the same. -/
def readChar (byte : UInt8) (rest : List UInt8) : Option Char × List UInt8 :=
  match lead? byte.toNat with
  | none => (none, rest)
  | some lead =>
      match follow lead.following lead.share lead.lowest lead.highest rest with
      | (some code, rest) => (some (Char.ofNat code), rest)
      | (none, rest) => (none, rest)

theorem length_readChar_le (byte : UInt8) (rest : List UInt8) :
    (readChar byte rest).2.length ≤ rest.length := by
  unfold readChar
  split
  · exact Nat.le_refl _
  · rename_i lead _
    have bound := length_follow_le lead.following lead.share lead.lowest lead.highest rest
    split <;> rename_i _ _ equal <;> rw [equal] at bound <;> exact bound

/-- Read all octets, after the characters `read`, which are in reverse. -/
def decodeAfter : (read : List Char) → List UInt8 → List Char
  | read, [] => read.reverse
  | read, byte :: rest =>
      decodeAfter ((readChar byte rest).1.getD replacement :: read) (readChar byte rest).2
termination_by _ bytes => bytes.length
decreasing_by
  have := length_readChar_le byte rest
  simp only [List.length_cons]
  omega

/-- The text that octets stand for, with replacement characters where they are
not well formed. -/
def decodeLossy (bytes : List UInt8) : List Char :=
  decodeAfter [] bytes

/-- The octets from the first one on that does not begin a character. -/
def leftOver : List UInt8 → List UInt8
  | [] => []
  | byte :: rest =>
      if (readChar byte rest).1.isSome then leftOver (readChar byte rest).2
      else byte :: rest
termination_by bytes => bytes.length
decreasing_by
  have := length_readChar_le byte rest
  simp only [List.length_cons]
  omega

/-- The text that octets stand for, if all of them are well formed. -/
def decode? (bytes : List UInt8) : Option String :=
  String.fromUTF8? bytes.toByteArray

/-- The octets of a string stand for it. -/
theorem decode?_ofString (text : String) : decode? (ofString text) = some text := by
  have same : (ofString text).toByteArray = text.toByteArray := by
    change text.toList.utf8Encode = _
    rw [← String.toByteArray_ofList, String.ofList_toList]
  rw [decode?, same, String.fromUTF8?, dif_pos text.isValidUTF8]
  rfl

/-- Different strings have different octets. -/
theorem ofString_injective {left right : String} (same : ofString left = ofString right) :
    left = right := by
  have read := decode?_ofString left
  rw [same, decode?_ofString right] at read
  exact (Option.some.inj read).symm

end OneTimePad.Utf8
