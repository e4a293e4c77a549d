/-!
# Quoted characters

A single character between apostrophes, as diagnostic texts show it.  The
escapes are those of a character in the range of one octet: the usual short
forms, and a code point in hexadecimal for what has no visible form.
-/

namespace OneTimePad.Text

/-- Whether a code point below 256 has no visible form. -/
def isInvisible (code : Nat) : Bool :=
  code < 0x20 || (0x7f ≤ code && code ≤ 0xa0) || code = 0xad

/-- The body of a quoted character. -/
def escapeChar (byte : UInt8) : String :=
  match byte.toNat with
  | 0 => "\\0"
  | 9 => "\\t"
  | 10 => "\\n"
  | 13 => "\\r"
  | 39 => "\\'"
  | 92 => "\\\\"
  | code =>
      if isInvisible code then
        let digits := String.ofList (Nat.toDigits 16 code)
        "\\u\x7b" ++ digits ++ "\x7d"
      else String.singleton (Char.ofNat code)

/-- The character that an octet is the code point of, between apostrophes. -/
def quoteChar (byte : UInt8) : String :=
  "'" ++ escapeChar byte ++ "'"

end OneTimePad.Text
