import OneTimePad.Bytes.Slice
import OneTimePad.Hash.Crc32

/-!
# The register of the CRC-32 checksum

The register takes in data linearly: what comes of a sum of registers and a sum of data is
the sum of what comes of each.  A word whose own lowest bit is taken in just moves down.
So instead of taking in the bits of a word one by one, it can be added to the register at
once, before the same number of steps without data.  For an octet these steps are what the
table holds, and the checksum is the one of the standard, bit by bit.
-/

namespace OneTimePad.Crc32

/-- The lowest bits of a word, the lowest one first. -/
def lowBits {width : Nat} (count : Nat) (word : BitVec width) : List Bool :=
  (List.range count).map word.getLsbD

/-- The bits of an octet, the lowest one first. -/
def bits (byte : UInt8) : List Bool :=
  lowBits 8 byte.toBitVec

/-- What the standard makes of its register and a bit of data: the register is shifted, and the
polynomial is added whenever the bit that is shifted out differs from the bit of data. -/
def serialStep (register : BitVec 32) (bit : Bool) : BitVec 32 :=
  if register.getLsbD 0 = bit then register >>> 1 else (register >>> 1) ^^^ 0xedb88320#32

/-- The checksum of the standard: from a register of ones all bits of the data are taken in,
and the result is complemented. -/
def serial (data : List UInt8) : BitVec 32 :=
  ~~~ (data.flatMap bits).foldl serialStep 0xffffffff#32

/-- Steps without data. -/
def shifts (count : Nat) (register : Register) : Register :=
  (List.replicate count false).foldl feed register

/-- An octet as a register. -/
def octet (byte : UInt8) : Register :=
  byte.toBitVec.setWidth 32

variable {left right : Register}

/-! ## Steps -/

theorem lowBits_succ {width : Nat} (count : Nat) (word : BitVec width) :
    lowBits (count + 1) word = word.getLsbD 0 :: lowBits count (word >>> 1) := by
  simp [lowBits, List.range_succ_eq_map, Nat.succ_eq_add_one, Nat.add_comm 1]

theorem shifts_succ (count : Nat) (register : Register) :
    shifts (count + 1) register = shifts count (feed register false) := by
  rw [shifts, List.replicate_succ, List.foldl_cons, shifts]

theorem feed_eq_serialStep : feed = serialStep := by
  funext register bit
  rw [feed, serialStep]
  cases register.getLsbD 0 <;> cases bit <;> rfl

/-- Registers and data are taken in linearly. -/
theorem feed_xor (left right : Register) (leftBit rightBit : Bool) :
    feed (left ^^^ right) (leftBit ^^ rightBit) = feed left leftBit ^^^ feed right rightBit := by
  have both : ∀ first second : Register,
      first ^^^ polynomial ^^^ (second ^^^ polynomial) = first ^^^ second := by
    intro first second
    rw [BitVec.xor_comm second, BitVec.xor_assoc, ← BitVec.xor_assoc polynomial, BitVec.xor_self,
      BitVec.zero_xor]
  simp only [feed, BitVec.getLsbD_xor, BitVec.ushiftRight_xor_distrib]
  cases left.getLsbD 0 <;> cases right.getLsbD 0 <;> cases leftBit <;> cases rightBit <;>
    simp [both, BitVec.xor_assoc, BitVec.xor_comm polynomial]

/-- A word whose own lowest bit is taken in moves down. -/
theorem feed_lowest (word : Register) : feed word (word.getLsbD 0) = word >>> 1 := by
  simp [feed]

theorem shifts_xor (count : Nat) (left right : Register) :
    shifts count (left ^^^ right) = shifts count left ^^^ shifts count right := by
  induction count generalizing left right with
  | zero => rfl
  | succ count inductionHypothesis =>
      have step := feed_xor left right false false
      rw [Bool.xor_false] at step
      rw [shifts_succ, shifts_succ, shifts_succ, step, inductionHypothesis]

/-- The bits of a word may be added to the register all at once.  What is left of the word has
moved down. -/
theorem shifts_xor_word (count : Nat) (register word : Register) :
    shifts count (register ^^^ word) =
      (lowBits count word).foldl feed register ^^^ (word >>> count) := by
  induction count generalizing register word with
  | zero => simp [shifts, lowBits]
  | succ count inductionHypothesis =>
      have step := feed_xor register word (word.getLsbD 0) (word.getLsbD 0)
      rw [Bool.xor_self, feed_lowest] at step
      rw [shifts_succ, step, inductionHypothesis, lowBits_succ, List.foldl_cons,
        Nat.add_comm count, BitVec.shiftRight_add]

/-! ## Octets -/

theorem octet_eq_ofNat (byte : UInt8) : octet byte = BitVec.ofNat 32 byte.toNat := by
  rw [octet, ← BitVec.ofNat_toNat, UInt8.toNat_toBitVec]

theorem octet_xor (left right : UInt8) : octet (left ^^^ right) = octet left ^^^ octet right := by
  rw [octet, UInt8.toBitVec_xor, BitVec.setWidth_xor, octet, octet]

theorem octet_shiftRight (byte : UInt8) : octet byte >>> 8 = 0#32 := by
  apply BitVec.eq_of_getLsbD_eq
  intro place _
  simp [octet]

theorem lowBits_octet (byte : UInt8) : lowBits 8 (octet byte) = bits byte := by
  apply List.map_congr_left
  intro place mem
  have inside := List.mem_range.mp mem
  rw [octet, BitVec.getLsbD_setWidth, decide_eq_true (by omega), Bool.true_and]

/-- Eight steps without data split into those of the lowest octet, which are in the table, and a
shift of the rest. -/
theorem shifts_eight (word : Register) :
    shifts 8 word = shifts 8 (BitVec.ofNat 32 (word.toNat % 256)) ^^^ (word >>> 8) := by
  have digit : ∀ place, (BitVec.ofNat 32 (word.toNat % 256)).getLsbD place =
      (decide (place < 8) && word.getLsbD place) := by
    intro place
    have power : word.toNat % 256 = word.toNat % 2 ^ 8 := rfl
    rw [BitVec.getLsbD_ofNat, power, Nat.testBit_mod_two_pow, BitVec.testBit_toNat]
    by_cases inside : place < 8
    · simp [inside, show place < 32 by omega]
    · simp [inside]
  generalize BitVec.ofNat 32 (word.toNat % 256) = low at digit
  have none : lowBits 8 (low ^^^ word) = List.replicate 8 false := by
    rw [lowBits, List.eq_replicate_iff]
    simp +contextual [digit]
  have moved : (low ^^^ word) >>> 8 = word >>> 8 := by
    apply BitVec.eq_of_getLsbD_eq
    intro place _
    have beyond : ¬ 8 + place < 8 := by omega
    simp [digit, beyond]
  have split := shifts_xor_word 8 low (low ^^^ word)
  rw [← BitVec.xor_assoc, BitVec.xor_self, BitVec.zero_xor, none, moved] at split
  exact split

/-- An octet is taken in with eight steps. -/
theorem feedOctet_eq (register : Register) (byte : UInt8) :
    feedOctet register byte = shifts 8 (register ^^^ octet byte) := by
  have moved : (register ^^^ octet byte) >>> 8 = register >>> 8 := by
    rw [BitVec.ushiftRight_xor_distrib, octet_shiftRight, BitVec.xor_zero]
  rw [shifts_eight, moved, feedOctet, table, Vector.getElem_ofFn, octet_eq_ofNat]
  rfl

/-- The table takes in the bits of an octet one by one. -/
theorem feedOctet_eq_foldl (register : Register) (byte : UInt8) :
    feedOctet register byte = (bits byte).foldl feed register := by
  rw [feedOctet_eq, shifts_xor_word, octet_shiftRight, BitVec.xor_zero, lowBits_octet]

theorem feedOctet_xor (left right : Register) (leftByte rightByte : UInt8) :
    feedOctet (left ^^^ right) (leftByte ^^^ rightByte) =
      feedOctet left leftByte ^^^ feedOctet right rightByte := by
  rw [feedOctet_eq, feedOctet_eq, feedOctet_eq, ← shifts_xor, octet_xor]
  ac_rfl

/-! ## Byte strings -/

theorem foldl_feedOctet_eq (data : List UInt8) (register : Register) :
    data.foldl feedOctet register = (data.flatMap bits).foldl feed register := by
  have same : feedOctet = fun register byte => (bits byte).foldl feed register := by
    funext register byte
    exact feedOctet_eq_foldl register byte
  rw [List.foldl_flatMap, same]

theorem foldl_feedOctet_xor {first second : List UInt8} (sameLength : first.length = second.length)
    (left right : Register) :
    (Bytes.xor first second).foldl feedOctet (left ^^^ right) =
      first.foldl feedOctet left ^^^ second.foldl feedOctet right := by
  induction first generalizing second left right with
  | nil =>
      cases second with
      | nil => rfl
      | cons => cases sameLength
  | cons firstByte first inductionHypothesis =>
      cases second with
      | nil => cases sameLength
      | cons secondByte second =>
          have rest := inductionHypothesis (Nat.succ.inj sameLength)
            (feedOctet left firstByte) (feedOctet right secondByte)
          rw [Bytes.xor, List.zipWith_cons_cons, List.foldl_cons, feedOctet_xor]
          exact rest

/-- The checksum is the one of the standard, and the checksum of a sum of three byte strings of
one length is the sum of their checksums. -/
theorem checksum_eq_serial (data : List UInt8) :
    checksum data = serial data ∧
      ∀ second third : List UInt8, second.length = data.length → third.length = data.length →
        checksum (Bytes.xor (Bytes.xor data second) third) =
          checksum data ^^^ checksum second ^^^ checksum third := by
  constructor
  · rw [checksum, serial, foldl_feedOctet_eq, feed_eq_serialStep, ← BitVec.xor_allOnes]
    rfl
  · intro second third sameSecond sameThird
    have sameLength : (Bytes.xor data second).length = third.length := by
      rw [Bytes.length_xor, sameSecond, sameThird, Nat.min_self]
    have starts : start = start ^^^ start ^^^ start := rfl
    rw [checksum]
    conv => lhs; rw [starts]
    rw [foldl_feedOctet_xor sameLength, foldl_feedOctet_xor sameSecond.symm]
    simp only [checksum]
    ac_rfl

end OneTimePad.Crc32
