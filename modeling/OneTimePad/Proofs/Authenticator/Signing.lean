import OneTimePad.Authenticator.Basic

/-!
# Signing with octets

Frames are signed and verified with keys and tags that are given as octets.  Octets of
the right size are those of one key, and such a key signs everything that is short
enough to be a byte string.  A tag verifies exactly if it is the one that the key
signs with.
-/

namespace OneTimePad.Authenticator

/-! ## Keys -/

@[simp]
theorem Key.length_toBytes (key : Key) : key.toBytes.length = keySize := by
  simp [Key.toBytes, blockSize, keySize]

@[simp]
theorem Key.ofBytes?_toBytes (key : Key) : Key.ofBytes? key.toBytes = some key := by
  have cut : ∀ element rest, (store element ++ rest).take 16 = store element ∧
      (store element ++ rest).drop 16 = rest := fun element _ =>
    ⟨List.take_left' (length_store element), List.drop_left' (length_store element)⟩
  have whole : (store key.rightMask).take 16 = store key.rightMask :=
    List.take_of_length_le (Nat.le_of_eq (length_store _))
  have second : ∀ bytes : List UInt8, bytes.drop (16 + 16) = (bytes.drop 16).drop 16 := fun _ =>
    List.drop_drop.symm
  have third : ∀ bytes : List UInt8, bytes.drop (32 + 16) = (bytes.drop 32).drop 16 := fun _ =>
    List.drop_drop.symm
  rw [Key.ofBytes?, if_pos key.length_toBytes, Key.toBytes, List.append_assoc, List.append_assoc,
    third, second]
  simp only [cut, whole, load_store]

theorem Key.toBytes_injective {left right : Key} (same : left.toBytes = right.toBytes) :
    left = right := by
  have read := congrArg Key.ofBytes? same
  rwa [Key.ofBytes?_toBytes, Key.ofBytes?_toBytes, Option.some.injEq] at read

/-- Octets of the right size are a key. -/
theorem Key.exists_toBytes_eq {bytes : List UInt8} (size : bytes.length = keySize) :
    ∃ key : Key, key.toBytes = bytes := by
  have block : ∀ start, start + 16 ≤ 64 →
      store (load ((bytes.drop start).take 16)) = (bytes.drop start).take 16 := by
    intro start inside
    apply store_load
    rw [List.length_take, List.length_drop, size]
    unfold blockSize keySize
    omega
  have joined : ∀ start, (bytes.drop start).take 16 ++ bytes.drop (start + 16) =
      bytes.drop start := by
    intro start
    rw [← List.drop_drop, List.take_append_drop]
  have last : (bytes.drop 48).take 16 = bytes.drop 48 := by
    apply List.take_of_length_le
    rw [List.length_drop, size]
    decide
  refine ⟨⟨load ((bytes.drop 0).take 16), load ((bytes.drop 16).take 16),
    load ((bytes.drop 32).take 16), load ((bytes.drop 48).take 16)⟩, ?_⟩
  unfold Key.toBytes
  rw [block 0 (by decide), block 16 (by decide), block 32 (by decide), block 48 (by decide), last,
    List.append_assoc, List.append_assoc, joined 32, joined 16]
  exact joined 0

/-! ## Tags -/

theorem Tag.copy_toBytes (tag : Tag) : Tag.copy tag.toBytes = .ok tag := by
  rw [Tag.copy, Tag.ofBytes?_toBytes]

theorem Tag.exists_toBytes_eq {bytes : List UInt8} (size : bytes.length = tagSize) :
    ∃ tag : Tag, tag.toBytes = bytes :=
  ⟨_, Tag.toBytes_of_ofBytes? (if_pos size)⟩

theorem Tag.toBytes_injective {left right : Tag} (same : left.toBytes = right.toBytes) :
    left = right := by
  have read := congrArg Tag.ofBytes? same
  rwa [Tag.ofBytes?_toBytes, Tag.ofBytes?_toBytes, Option.some.injEq] at read

/-! ## Signing and verifying -/

/-- Only octets of the right size sign. -/
theorem length_eq_of_sign {key header ciphertext : List UInt8} {signed : Tag}
    (sign_eq : sign key header ciphertext = .ok signed) : key.length = keySize := by
  rcases Checked.bind_eq_ok_iff.mp sign_eq with ⟨read, copied, -⟩
  rw [Key.copy, Key.ofBytes?] at copied
  by_cases size : key.length = keySize
  · exact size
  · rw [if_neg size] at copied
    cases copied

/-- What is compared are the octets of two tags, and so the tags. -/
theorem verify_eq_ok {key header ciphertext : List UInt8} {actual : Tag}
    (size : key.length = keySize) (signed : sign key header ciphertext = .ok actual)
    (expected : Tag) :
    verify key header ciphertext expected.toBytes = .ok (decide (actual = expected)) := by
  have same : (actual.toBytes == expected.toBytes) = decide (actual = expected) := by
    by_cases equal : actual = expected
    · simp [equal]
    · have different := mt Tag.toBytes_injective equal
      simp [equal, different]
  simp [verify, size, signed, same]

section Signing

variable {header ciphertext : List UInt8}
  (fits : header.length + ciphertext.length < wordLimit)

include fits

/-- A key signs what it tags. -/
theorem sign_toBytes (key : Key) :
    sign key.toBytes header ciphertext = .ok (tag key header ciphertext) := by
  have copied : Key.copy key.toBytes = .ok key := by
    rw [Key.copy, Key.ofBytes?_toBytes]
  have sum : Size.add header.length ciphertext.length =
      .ok (header.length + ciphertext.length) :=
    Size.add_eq_ok_iff.mpr ⟨rfl, fits⟩
  simp [sign, copied, sum]

/-- Octets of the right size sign everything that is short enough to be a byte
string. -/
theorem exists_sign {key : List UInt8} (size : key.length = keySize) :
    ∃ tag, sign key header ciphertext = .ok tag := by
  rcases Key.exists_toBytes_eq size with ⟨key, rfl⟩
  exact ⟨_, sign_toBytes fits key⟩

/-- Verifying always answers, and it answers yes exactly to the tag that the key signs
with. -/
theorem exists_verify (key : List UInt8) (expected : Tag) :
    ∃ verified, verify key header ciphertext expected.toBytes = .ok verified ∧
      (verified = true ↔ sign key header ciphertext = .ok expected) := by
  by_cases size : key.length = keySize
  · rcases exists_sign fits size with ⟨actual, signed⟩
    refine ⟨_, verify_eq_ok size signed expected, ?_⟩
    rw [signed, Except.ok.injEq, decide_eq_true_eq]
  · have refused : verify key header ciphertext expected.toBytes = .ok false := by
      simp [verify, size]
    refine ⟨_, refused, ?_⟩
    constructor
    · rintro ⟨⟩
    · intro signed
      exact absurd (length_eq_of_sign signed) size

end Signing

end OneTimePad.Authenticator
