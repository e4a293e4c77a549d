import OneTimePad.Text.Utf8

/-!
# Texts as octets

The lenient reader of octets gives every text back from its octets.  The first octet of a
character announces how many octets follow it and what the second one may be, and the
octets that a character is written as keep to that: they are not overlong, they are not
those of a surrogate, and their number is not too large.
-/

namespace OneTimePad.Utf8

/-! ## Following octets -/

/-- A digit that follows is added to the number so far. -/
theorem follow_digit (following share : Nat) {lowest highest digit : Nat} (small : digit < 64)
    (low : lowest ≤ digit + 128) (high : digit + 128 ≤ highest) (rest : List UInt8) :
    follow (following + 1) share lowest highest (UInt8.ofNat (digit + 128) :: rest) =
      follow following (share * 64 + digit) 0x80 0xbf rest := by
  have octet : (UInt8.ofNat (digit + 128)).toNat = digit + 128 :=
    UInt8.toNat_ofNat_of_lt' (by simp only [UInt8.size]; omega)
  have allowed : lowest ≤ digit + 128 ∧ digit + 128 ≤ highest := ⟨low, high⟩
  rw [follow, octet, if_pos allowed, Nat.add_sub_cancel]

/-- After the second octet, any digit may follow. -/
theorem follow_anyDigit (following share : Nat) {digit : Nat} (small : digit < 64)
    (rest : List UInt8) :
    follow (following + 1) share 0x80 0xbf (UInt8.ofNat (digit + 128) :: rest) =
      follow following (share * 64 + digit) 0x80 0xbf rest :=
  follow_digit following share small (by omega) (by omega) rest

/-! ## First octets -/

/-- The announcement of one octet more: its share is not too small. -/
theorem lead?_of_two (share : Nat) (large : 2 ≤ share) (small : share < 32) :
    lead? (share + 192) = some ⟨1, share, 0x80, 0xbf⟩ := by
  unfold lead?
  rw [if_neg (by omega), if_neg (by omega), if_pos (by omega), Nat.add_sub_cancel]

/-- The announcement of two octets more: they are not overlong, and not a surrogate. -/
theorem exists_lead?_of_three (share digit : Nat) (small : share < 16) (digitSmall : digit < 64)
    (enough : share = 0 → 32 ≤ digit) (proper : share = 13 → digit < 32) :
    ∃ lowest highest, lead? (share + 224) = some ⟨2, share, lowest, highest⟩ ∧
      lowest ≤ digit + 128 ∧ digit + 128 ≤ highest := by
  unfold lead?
  rw [if_neg (by omega), if_neg (by omega), if_neg (by omega)]
  by_cases first : share = 0
  · have := enough first
    subst first
    exact ⟨0xa0, 0xbf, rfl, by omega, by omega⟩
  · rw [if_neg (by omega)]
    by_cases surrogates : share = 13
    · have := proper surrogates
      subst surrogates
      exact ⟨0x80, 0x9f, rfl, by omega, by omega⟩
    · rw [if_neg (by omega), if_pos (by omega), Nat.add_sub_cancel]
      exact ⟨0x80, 0xbf, rfl, by omega, by omega⟩

/-- The announcement of three octets more: they are not overlong, and not too large. -/
theorem exists_lead?_of_four (share digit : Nat) (small : share ≤ 4) (digitSmall : digit < 64)
    (enough : share = 0 → 16 ≤ digit) (proper : share = 4 → digit < 16) :
    ∃ lowest highest, lead? (share + 240) = some ⟨3, share, lowest, highest⟩ ∧
      lowest ≤ digit + 128 ∧ digit + 128 ≤ highest := by
  unfold lead?
  rw [if_neg (by omega), if_neg (by omega), if_neg (by omega), if_neg (by omega),
    if_neg (by omega), if_neg (by omega)]
  by_cases first : share = 0
  · have := enough first
    subst first
    exact ⟨0x90, 0xbf, rfl, by omega, by omega⟩
  · rw [if_neg (by omega)]
    by_cases last : share = 4
    · have := proper last
      subst last
      exact ⟨0x80, 0x8f, rfl, by omega, by omega⟩
    · rw [if_pos (by omega), Nat.add_sub_cancel]
      exact ⟨0x80, 0xbf, rfl, by omega, by omega⟩

/-! ## Characters -/

/-- A character is read when its first octet announces what follows. -/
theorem readChar_of_follow {first : Nat} {lead : Lead} {char : Char} {bytes rest : List UInt8}
    (octet : first < 256) (announced : lead? first = some lead)
    (followed : follow lead.following lead.share lead.lowest lead.highest bytes =
      (some char.toNat, rest)) :
    readChar (UInt8.ofNat first) bytes = (some char, rest) := by
  have same : (UInt8.ofNat first).toNat = first := UInt8.toNat_ofNat_of_lt' octet
  rw [readChar, same, announced]
  simp only [followed, Char.ofNat_toNat]

section Octets

variable {char : Char}

theorem readChar_one_octet (small : char.toNat < 128) (rest : List UInt8) :
    readChar (UInt8.ofNat char.toNat) rest = (some char, rest) := by
  have announced : lead? char.toNat = some ⟨0, char.toNat, 0x80, 0xbf⟩ := by
    unfold lead?
    rw [if_pos (by omega)]
  exact readChar_of_follow (by omega) announced rfl

theorem readChar_two_octets (large : 128 ≤ char.toNat) (small : char.toNat < 2048)
    (rest : List UInt8) :
    readChar (UInt8.ofNat (char.toNat / 64 % 32 + 192))
        (UInt8.ofNat (char.toNat % 64 + 128) :: rest) = (some char, rest) := by
  have announced := lead?_of_two (char.toNat / 64 % 32) (by omega) (by omega)
  have code : char.toNat / 64 % 32 * 64 + char.toNat % 64 = char.toNat := by omega
  refine readChar_of_follow (by omega) announced ?_
  rw [follow_anyDigit 0 _ (by omega), follow, code]

theorem readChar_three_octets (large : 2048 ≤ char.toNat) (small : char.toNat < 65536)
    (rest : List UInt8) :
    readChar (UInt8.ofNat (char.toNat / 4096 % 16 + 224))
        (UInt8.ofNat (char.toNat / 64 % 64 + 128) :: UInt8.ofNat (char.toNat % 64 + 128) :: rest) =
      (some char, rest) := by
  -- No character has the number of a surrogate.
  have proper : char.toNat < 0xd800 ∨ 0xdfff < char.toNat ∧ char.toNat < 0x110000 := char.valid
  rcases exists_lead?_of_three (char.toNat / 4096 % 16) (char.toNat / 64 % 64) (by omega)
    (by omega) (by omega) (by omega) with ⟨lowest, highest, announced, low, high⟩
  have code : (char.toNat / 4096 % 16 * 64 + char.toNat / 64 % 64) * 64 + char.toNat % 64 =
      char.toNat := by
    omega
  refine readChar_of_follow (by omega) announced ?_
  rw [follow_digit 1 _ (by omega) low high, follow_anyDigit 0 _ (by omega), follow, code]

theorem readChar_four_octets (large : 65536 ≤ char.toNat) (rest : List UInt8) :
    readChar (UInt8.ofNat (char.toNat / 262144 % 8 + 240))
        (UInt8.ofNat (char.toNat / 4096 % 64 + 128) :: UInt8.ofNat (char.toNat / 64 % 64 + 128) ::
          UInt8.ofNat (char.toNat % 64 + 128) :: rest) =
      (some char, rest) := by
  have proper : char.toNat < 0xd800 ∨ 0xdfff < char.toNat ∧ char.toNat < 0x110000 := char.valid
  rcases exists_lead?_of_four (char.toNat / 262144 % 8) (char.toNat / 4096 % 64) (by omega)
    (by omega) (by omega) (by omega) with ⟨lowest, highest, announced, low, high⟩
  have code : ((char.toNat / 262144 % 8 * 64 + char.toNat / 4096 % 64) * 64 +
      char.toNat / 64 % 64) * 64 + char.toNat % 64 = char.toNat := by
    omega
  refine readChar_of_follow (by omega) announced ?_
  rw [follow_digit 2 _ (by omega) low high, follow_anyDigit 1 _ (by omega),
    follow_anyDigit 0 _ (by omega), follow, code]

end Octets

/-- The octets of a character are read as this character, whatever follows them. -/
theorem exists_readChar (char : Char) (rest : List UInt8) :
    ∃ first others, String.utf8EncodeChar char = first :: others ∧
      readChar first (others ++ rest) = (some char, rest) := by
  unfold String.utf8EncodeChar
  change ∃ first others, (if char.toNat ≤ 127 then _ else _) = _ ∧ _
  by_cases one : char.toNat ≤ 127
  · exact ⟨_, _, if_pos one, readChar_one_octet (by omega) rest⟩
  · by_cases two : char.toNat ≤ 2047
    · exact ⟨_, _, (if_neg one).trans (if_pos two), readChar_two_octets (by omega) (by omega) rest⟩
    · by_cases three : char.toNat ≤ 65535
      · exact ⟨_, _, (if_neg one).trans ((if_neg two).trans (if_pos three)),
          readChar_three_octets (by omega) (by omega) rest⟩
      · exact ⟨_, _, (if_neg one).trans ((if_neg two).trans (if_neg three)),
          readChar_four_octets (by omega) rest⟩

/-! ## Texts -/

/-- Reading goes through the characters of a text one after the other. -/
theorem decodeAfter_encode (read chars : List Char) :
    decodeAfter read (encode chars) = read.reverse ++ chars := by
  induction chars generalizing read with
  | nil =>
      change decodeAfter read [] = read.reverse ++ []
      rw [decodeAfter, List.append_nil]
  | cons char chars inductionHypothesis =>
      rcases exists_readChar char (encode chars) with ⟨first, others, octets, known⟩
      have text : encode (char :: chars) = first :: (others ++ encode chars) := by
        rw [encode, List.flatMap_cons, octets]
        rfl
      rw [text, decodeAfter, known, Option.getD_some, inductionHypothesis, List.reverse_cons,
        List.append_assoc, List.singleton_append]

/-- The octets of a text are read as this text. -/
theorem decodeLossy_encode (chars : List Char) : decodeLossy (encode chars) = chars :=
  decodeAfter_encode [] chars

end OneTimePad.Utf8
