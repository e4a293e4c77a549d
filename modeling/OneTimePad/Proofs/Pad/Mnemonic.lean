import Mathlib.Data.List.Forall2
import OneTimePad.Pad.Mnemonic
import OneTimePad.Proofs.Text.Trimming

/-!
# Comparing mnemonics

Every pad spells thirty-two words, one for each octet of its digest, and a
mnemonic is a beginning of them.  Whoever compares spoken words with a pad does
not say how many words there should be: as many are spelled as were spoken.  So
spoken words fit a pad exactly when there is at least one of them and they are a
beginning of what the pad spells, of whatever length.
-/

namespace OneTimePad

namespace Text

/-- A capital letter of ASCII and the small one. -/
def Capital (upper lower : Char) : Prop :=
  'A' ≤ upper ∧ upper ≤ 'Z' ∧ lower.toNat = upper.toNat + 32

/-- The characters are the same, or the same ASCII letter in another case. -/
def SameLetter (left right : Char) : Prop :=
  left = right ∨ Capital left right ∨ Capital right left

theorem capital_iff {upper lower : Char} :
    Capital upper lower ↔
      65 ≤ upper.toNat ∧ upper.toNat ≤ 90 ∧ lower.toNat = upper.toNat + 32 :=
  Iff.rfl

theorem toNat_toLower (char : Char) :
    char.toLower.toNat =
      if 65 ≤ char.toNat ∧ char.toNat ≤ 90 then char.toNat + 32 else char.toNat := by
  have bounds : ('A'.val ≤ char.val ∧ char.val ≤ 'Z'.val) ↔
      65 ≤ char.toNat ∧ char.toNat ≤ 90 := Iff.rfl
  unfold Char.toLower
  by_cases capital : 'A'.val ≤ char.val ∧ char.val ≤ 'Z'.val
  · have last := (bounds.mp capital).2
    rw [dif_pos capital, if_pos (bounds.mp capital)]
    change (char.val + ('a'.val - 'A'.val)).toNat = char.toNat + 32
    rw [UInt32.toNat_add]
    change (char.toNat + 32) % 2 ^ 32 = char.toNat + 32
    omega
  · rw [dif_neg capital, if_neg (mt bounds.mpr capital)]

theorem toLower_eq_iff {left right : Char} :
    left.toLower = right.toLower ↔ SameLetter left right := by
  rw [SameLetter, capital_iff, capital_iff, ← Char.toNat_inj, ← Char.toNat_inj, toNat_toLower,
    toNat_toLower]
  split <;> split <;> omega

theorem map_toLower_eq_iff {left right : List Char} :
    left.map Char.toLower = right.map Char.toLower ↔ List.Forall₂ SameLetter left right := by
  rw [← List.forall₂_eq_eq_eq, List.forall₂_map_left_iff, List.forall₂_map_right_iff]
  simp only [toLower_eq_iff]

end Text

namespace Mnemonic

/-- What was spoken is the word, white space around it and case aside. -/
def SpokenAs (word spoken : String) : Prop :=
  ∃ body, Text.Trims spoken.toList body ∧ List.Forall₂ Text.SameLetter word.toList body

theorem sameWord_iff {expected spoken : String} :
    sameWord expected spoken = true ↔ SpokenAs expected spoken := by
  rw [sameWord, beq_iff_eq, Text.map_toLower_eq_iff, SpokenAs]
  simp only [← Text.trim_eq_iff, exists_eq_left']

/-- Words that are as many are compared one by one. -/
theorem all_sameWord_iff {expected spoken : List String}
    (lengths : expected.length = spoken.length) :
    ((expected.zip spoken).all fun pair => sameWord pair.1 pair.2) = true ↔
      List.Forall₂ SpokenAs expected spoken := by
  rw [List.all_eq_true, List.forall₂_iff_zip]
  constructor
  · intro same
    refine ⟨lengths, ?_⟩
    intro word heard mem
    exact sameWord_iff.mp (same (word, heard) mem)
  · rintro ⟨-, same⟩ pair mem
    exact sameWord_iff.mpr (same mem)

/-! ## Words of a pad -/

/-- All words that a pad spells. -/
def spelling (pad : List UInt8) : List String :=
  spell pad maximumCount

theorem length_spelling (pad : List UInt8) : (spelling pad).length = maximumCount := by
  rw [spelling, spell, List.length_map, List.length_take, padDigest, Sha256.length_digest]
  rfl

theorem length_take_spelling (pad : List UInt8) {count : Nat} (fits : count ≤ maximumCount) :
    ((spelling pad).take count).length = count := by
  rw [List.length_take, length_spelling, Nat.min_eq_left fits]

/-- Fewer words are the first ones. -/
theorem generate_eq_ok {pad : List UInt8} {count : Nat} (positive : 0 < count)
    (fits : count ≤ maximumCount) :
    generate pad count = .ok ((spelling pad).take count) := by
  rw [generate, if_neg (by omega), spelling, spell, spell, ← List.map_take, List.take_take,
    Nat.min_eq_left fits]

/-- Spoken words fit a pad if they are a beginning of what it spells. -/
theorem verify_iff {pad : List UInt8} {spoken : List String} :
    verify pad spoken = true ↔
      spoken ≠ [] ∧ List.Forall₂ SpokenAs ((spelling pad).take spoken.length) spoken := by
  rw [← List.length_pos_iff]
  by_cases refused : spoken.length = 0 ∨ maximumCount < spoken.length
  · have unfit : verify pad spoken = false := by
      rw [verify, generate, if_pos refused]
    rw [unfit]
    constructor
    · intro fits
      cases fits
    · rintro ⟨positive, same⟩
      have lengths := same.length_eq
      rw [List.length_take, length_spelling] at lengths
      omega
  · have positive : 0 < spoken.length := by omega
    have fits : spoken.length ≤ maximumCount := by omega
    rw [verify, generate_eq_ok positive fits]
    change ((((spelling pad).take spoken.length).zip spoken).all
      fun pair => sameWord pair.1 pair.2) = true ↔ _
    rw [all_sameWord_iff (length_take_spelling pad fits)]
    exact ⟨fun same => ⟨positive, same⟩, fun both => both.2⟩

/-! ## Words that are read out as they are -/

theorem notBlank_of_mem_words : ∀ word ∈ words, word.toList.all fun char => !Text.isBlank char := by
  decide +kernel

theorem spokenAs_self {word : String} (mem : word ∈ words) : SpokenAs word word := by
  have clear : ∀ char ∈ word.toList, Text.isBlank char = false := by
    intro char charMem
    have notBlank := List.all_eq_true.mp (notBlank_of_mem_words word mem) char charMem
    rwa [Bool.not_eq_true'] at notBlank
  refine ⟨word.toList, ⟨⟨[], [], by simp, rfl, rfl⟩, ?_, ?_⟩, ?_⟩
  · cases first : word.toList.head? with
    | none => rfl
    | some char => exact clear char (List.mem_of_mem_head? first)
  · cases last : word.toList.getLast? with
    | none => rfl
    | some char => exact clear char (List.mem_of_getLast? last)
  · exact List.forall₂_same.mpr fun char _ => .inl rfl

theorem mem_words_of_mem_spelling {pad : List UInt8} {word : String}
    (mem : word ∈ spelling pad) : word ∈ words := by
  rcases List.mem_map.mp mem with ⟨byte, -, rfl⟩
  exact List.get_mem _ _

/-- A pad fits every beginning of what it spells. -/
theorem verify_take {pad : List UInt8} {count : Nat} (positive : 0 < count)
    (fits : count ≤ maximumCount) : verify pad ((spelling pad).take count) = true := by
  have length := length_take_spelling pad fits
  rw [verify_iff, length]
  constructor
  · rw [← List.length_pos_iff, length]
    exact positive
  · apply List.forall₂_same.mpr
    intro word mem
    exact spokenAs_self (mem_words_of_mem_spelling (List.mem_of_mem_take mem))

end Mnemonic

end OneTimePad
