import Mathlib.Data.BitVec
import OneTimePad.Proofs.Authenticator.Hash
import OneTimePad.Proofs.Authenticator.Signing

/-!
# Counting the keys of a tag

The masks of a key hide the hashes completely: whatever the two points are,
exactly one pair of masks puts a given tag under header and ciphertext.  So
every tag has as many keys as there are pairs of points.

Who has seen one tag and wants to put a tag under another pair has to hit the
difference of the two hashes at both points, and few of the points do that.
-/

namespace OneTimePad.Authenticator

open BinaryField

variable {header ciphertext otherHeader otherCiphertext : List UInt8}

/-! ## The keys of one tag -/

/-- The keys, as octets, that put a tag under header and ciphertext. -/
def keysFor (header ciphertext tag : List UInt8) : Set (List UInt8) :=
  {key | key.length = keySize ∧
    ∃ signed, sign key header ciphertext = .ok signed ∧ signed.toBytes = tag}

/-- The key that puts a tag under header and ciphertext with given points. -/
def keyAt (header ciphertext : List UInt8) (tag : Tag) (points : Element × Element) : Key :=
  { leftPoint := points.1
    rightPoint := points.2
    leftMask := hash points.1 header ciphertext ^^^ tag.left
    rightMask := hash points.2 header ciphertext ^^^ tag.right }

theorem keyAt_toBytes_injective (header ciphertext : List UInt8) (tag : Tag) :
    Function.Injective fun points => (keyAt header ciphertext tag points).toBytes := by
  intro points others same
  have key := Key.toBytes_injective same
  exact Prod.ext (congrArg Key.leftPoint key) (congrArg Key.rightPoint key)

/-- A mask is what a hash and a half of a tag differ by. -/
theorem xor_eq_iff_mask_eq {hash mask half : Element} :
    hash ^^^ mask = half ↔ mask = hash ^^^ half := by
  constructor
  · rintro rfl
    rw [← BitVec.xor_assoc, BitVec.xor_self, BitVec.zero_xor]
  · rintro rfl
    rw [← BitVec.xor_assoc, BitVec.xor_self, BitVec.zero_xor]

theorem tag_eq_iff (key : Key) (header ciphertext : List UInt8) (expected : Tag) :
    tag key header ciphertext = expected ↔
      key = keyAt header ciphertext expected (key.leftPoint, key.rightPoint) := by
  rw [Tag.mk.injEq, Key.mk.injEq]
  simp [tag, keyAt, xor_eq_iff_mask_eq]

/-- Every pair of points belongs to exactly one key of a tag. -/
theorem keysFor_eq_range (header_short : Short header) (ciphertext_short : Short ciphertext)
    (expected : Tag) :
    keysFor header ciphertext expected.toBytes =
      Set.range fun points => (keyAt header ciphertext expected points).toBytes := by
  ext bytes
  constructor
  · rintro ⟨size, signed, sign_eq, same⟩
    rcases Key.exists_toBytes_eq size with ⟨key, rfl⟩
    rw [sign_toBytes (header_short.add_lt ciphertext_short)] at sign_eq
    cases sign_eq
    have key_eq := (tag_eq_iff key header ciphertext expected).mp (Tag.toBytes_injective same)
    exact ⟨_, congrArg Key.toBytes key_eq.symm⟩
  · rintro ⟨points, rfl⟩
    refine ⟨Key.length_toBytes _, expected, ?_, rfl⟩
    have tag_eq := (tag_eq_iff (keyAt header ciphertext expected points) header ciphertext
      expected).mpr rfl
    rw [sign_toBytes (header_short.add_lt ciphertext_short), tag_eq]

theorem encard_pairs : (Set.univ : Set (Element × Element)).encard = 2 ^ 256 := by
  have elements : ENat.card Element = 2 ^ 128 := by
    rw [ENat.card_congr BitVec.equivFin.toEquiv, ENat.card_eq_coe_fintype_card, Fintype.card_fin,
      Nat.cast_pow, Nat.cast_ofNat]
  rw [Set.encard_univ, ENat.card_prod, elements, ← pow_add]

theorem encard_keysFor (header_short : Short header) (ciphertext_short : Short ciphertext)
    (expected : Tag) : (keysFor header ciphertext expected.toBytes).encard = 2 ^ 256 := by
  rw [keysFor_eq_range header_short ciphertext_short, ← Set.image_univ,
    (keyAt_toBytes_injective header ciphertext expected).encard_image, encard_pairs]

/-! ## The keys of two tags -/

/-- Where one key puts two tags under two pairs, both points are collisions. -/
theorem keyAt_mem_keysFor (otherHeader_short : Short otherHeader)
    (otherCiphertext_short : Short otherCiphertext) {expected forged : Tag}
    {points : Element × Element}
    (forges : (keyAt header ciphertext expected points).toBytes ∈
      keysFor otherHeader otherCiphertext forged.toBytes) :
    points ∈ collisions header ciphertext otherHeader otherCiphertext
        (expected.left ^^^ forged.left) ×ˢ
      collisions header ciphertext otherHeader otherCiphertext
        (expected.right ^^^ forged.right) := by
  have differ : ∀ {hash half otherHash otherHalf : Element},
      otherHash ^^^ (hash ^^^ half) = otherHalf → hash ^^^ otherHash = half ^^^ otherHalf := by
    rintro hash half otherHash otherHalf rfl
    rw [BitVec.xor_comm hash otherHash, BitVec.xor_comm half, ← BitVec.xor_assoc, BitVec.xor_assoc,
      BitVec.xor_self, BitVec.xor_zero]
  rcases forges with ⟨-, signed, sign_eq, same⟩
  rw [sign_toBytes (otherHeader_short.add_lt otherCiphertext_short)] at sign_eq
  cases sign_eq
  have tags := Tag.toBytes_injective same
  exact ⟨differ (congrArg Tag.left tags), differ (congrArg Tag.right tags)⟩

theorem encard_keysFor_inter_le (header_short : Short header)
    (ciphertext_short : Short ciphertext) (otherHeader_short : Short otherHeader)
    (otherCiphertext_short : Short otherCiphertext)
    (distinct : (header, ciphertext) ≠ (otherHeader, otherCiphertext)) (expected forged : Tag) :
    (keysFor header ciphertext expected.toBytes ∩
        keysFor otherHeader otherCiphertext forged.toBytes).encard ≤
      ↑(1 + max (blocks (header ++ ciphertext)).length
        (blocks (otherHeader ++ otherCiphertext)).length) ^ 2 := by
  have bound := encard_collisions_le header_short ciphertext_short otherHeader_short
    otherCiphertext_short distinct
  have image : keysFor header ciphertext expected.toBytes ∩
      keysFor otherHeader otherCiphertext forged.toBytes ⊆
      (fun points => (keyAt header ciphertext expected points).toBytes) ''
        (collisions header ciphertext otherHeader otherCiphertext
            (expected.left ^^^ forged.left) ×ˢ
          collisions header ciphertext otherHeader otherCiphertext
            (expected.right ^^^ forged.right)) := by
    rintro key ⟨signs, forges⟩
    rw [keysFor_eq_range header_short ciphertext_short] at signs
    rcases signs with ⟨points, rfl⟩
    exact ⟨points, keyAt_mem_keysFor otherHeader_short otherCiphertext_short forges, rfl⟩
  refine (Set.encard_le_encard image).trans ((Set.encard_image_le _ _).trans ?_)
  rw [Set.encard_prod, pow_two]
  exact mul_le_mul' (bound _) (bound _)

/-- The forgery bound.  The hashes of two different pairs differ by a given
element at `n` points at most, `n` being the blocks of the longer pair with its
lengths.  So of the `2 ^ 256` keys that put one tag under one pair, at most
`n ^ 2` put another tag under the other pair. -/
theorem encard_forging_keys_le (header_short : Short header)
    (ciphertext_short : Short ciphertext) (otherHeader_short : Short otherHeader)
    (otherCiphertext_short : Short otherCiphertext)
    (distinct : (header, ciphertext) ≠ (otherHeader, otherCiphertext)) :
    let n := 1 + max (blocks (header ++ ciphertext)).length
      (blocks (otherHeader ++ otherCiphertext)).length
    (∀ difference : Element,
      {point | hash point header ciphertext ^^^ hash point otherHeader otherCiphertext =
        difference}.encard ≤ n) ∧
    ∀ expected forged : List UInt8, expected.length = tagSize → forged.length = tagSize →
      (keysFor header ciphertext expected).encard = 2 ^ 256 ∧
      (keysFor header ciphertext expected ∩
        keysFor otherHeader otherCiphertext forged).encard ≤ n ^ 2 := by
  refine ⟨encard_collisions_le header_short ciphertext_short otherHeader_short
    otherCiphertext_short distinct, ?_⟩
  intro expected forged expectedSize forgedSize
  rcases Tag.exists_toBytes_eq expectedSize with ⟨expected, rfl⟩
  rcases Tag.exists_toBytes_eq forgedSize with ⟨forged, rfl⟩
  exact ⟨encard_keysFor header_short ciphertext_short expected,
    encard_keysFor_inter_le header_short ciphertext_short otherHeader_short
      otherCiphertext_short distinct expected forged⟩

/-- One octet as a header and as a ciphertext: the hashed stream is the same,
and only the lengths differ. -/
theorem encard_forging_keys_le_moved_octet :
    (keysFor [7] [] (List.replicate 32 0)).encard = 2 ^ 256 ∧
      (keysFor [7] [] (List.replicate 32 0) ∩ keysFor [] [7] (List.replicate 32 1)).encard ≤
        2 ^ 2 := by
  have short : ∀ bytes : List UInt8, bytes.length ≤ 1 → Short bytes := by
    intro bytes small
    unfold Short
    omega
  have bound := encard_forging_keys_le (short [7] (by decide)) (short [] (by decide))
    (short [] (by decide)) (short [7] (by decide)) (by decide)
  exact bound.2 (List.replicate 32 0) (List.replicate 32 1) rfl rfl

end OneTimePad.Authenticator
