import Mathlib.Data.List.GetD
import OneTimePad.Pad.Checksum
import OneTimePad.Proofs.Bytes.Agreement
import OneTimePad.Proofs.Hash.Crc32

/-!
# Accidents that a checksum finds

Steps of the CRC-32 register can be undone, so registers that differ once differ for good.
As many bits as the register has lead it to a different state for each of their values: to
take them in is to add them to the register, followed by steps that can be undone.  So a
change within four octets in a row always changes the checksum, wherever it is.
-/

namespace OneTimePad

namespace Crc32

variable {left right register : Register}

/-! ## Steps can be undone -/

/-- The highest bit of the polynomial is one, so it tells whether the polynomial was added. -/
theorem feed_false_inj : feed left false = feed right false ↔ left = right := by
  constructor
  · intro same
    have sum := feed_xor left right false false
    rw [same, BitVec.xor_self, Bool.xor_self] at sum
    rw [← BitVec.xor_eq_zero_iff]
    generalize left ^^^ right = difference at sum
    have lowest : difference.getLsbD 0 = false := by
      cases odd : difference.getLsbD 0 with
      | false => rfl
      | true =>
          have highest := congrArg (BitVec.getLsbD · 31) sum
          simp [feed, odd, polynomial] at highest
    have others := feed_lowest difference
    rw [lowest, sum] at others
    apply BitVec.eq_of_getLsbD_eq
    intro place _
    cases place with
    | zero => simpa using lowest
    | succ place =>
        have bit := congrArg (BitVec.getLsbD · place) others
        simpa [Nat.add_comm 1] using bit.symm
  · rintro rfl
    rfl

theorem shifts_inj {count : Nat} : shifts count left = shifts count right ↔ left = right := by
  induction count generalizing left right with
  | zero => rfl
  | succ count inductionHypothesis =>
      rw [shifts_succ, shifts_succ, inductionHypothesis, feed_false_inj]

/-- Registers that differ once differ for good. -/
theorem foldl_feedOctet_inj {data : List UInt8} :
    data.foldl feedOctet left = data.foldl feedOctet right ↔ left = right := by
  induction data generalizing left right with
  | nil => rfl
  | cons byte data inductionHypothesis =>
      rw [List.foldl_cons, List.foldl_cons, inductionHypothesis, feedOctet_eq, feedOctet_eq,
        shifts_inj, BitVec.xor_left_inj]

/-! ## As many bits as the register has -/

/-- Bits as a register, the lowest one first. -/
def ofBits (bits : List Bool) : Register :=
  (BitVec.ofBoolListLE bits).setWidth 32

theorem getLsbD_ofBits (bits : List Bool) (place : Nat) :
    (ofBits bits).getLsbD place = (decide (place < 32) && bits.getD place false) := by
  rw [ofBits, BitVec.getLsbD_setWidth, BitVec.getLsbD_ofBoolListLE]

theorem lowBits_ofBits {bits : List Bool} (short : bits.length ≤ 32) :
    lowBits bits.length (ofBits bits) = bits := by
  apply List.ext_getElem
  · simp [lowBits]
  · intro place _ inside
    have small : place < 32 := by omega
    simp only [lowBits, List.getElem_map, List.getElem_range, getLsbD_ofBits]
    rw [decide_eq_true small, Bool.true_and, List.getD_eq_getElem _ _ inside]

theorem ofBits_shiftRight (bits : List Bool) : ofBits bits >>> bits.length = 0#32 := by
  apply BitVec.eq_of_getLsbD_eq
  intro place _
  simp [getLsbD_ofBits]

theorem foldl_feed_eq_shifts {bits : List Bool} (short : bits.length ≤ 32) (register : Register) :
    bits.foldl feed register = shifts bits.length (register ^^^ ofBits bits) := by
  rw [shifts_xor_word, ofBits_shiftRight, BitVec.xor_zero, lowBits_ofBits short]

/-- From one register, different bits lead to different ones. -/
theorem foldl_feed_inj {first second : List Bool} (sameLength : first.length = second.length)
    (short : first.length ≤ 32) :
    first.foldl feed register = second.foldl feed register ↔ first = second := by
  constructor
  · intro same
    rw [foldl_feed_eq_shifts short, foldl_feed_eq_shifts (sameLength ▸ short), sameLength,
      shifts_inj, BitVec.xor_right_inj] at same
    rw [← lowBits_ofBits short, same, sameLength, lowBits_ofBits (sameLength ▸ short)]
  · rintro rfl
    rfl

theorem length_bits (byte : UInt8) : (bits byte).length = 8 := by
  simp [bits, lowBits]

theorem bits_inj {left right : UInt8} : bits left = bits right ↔ left = right := by
  constructor
  · intro same
    apply UInt8.toBitVec_inj.mp
    apply BitVec.eq_of_getLsbD_eq
    intro place inside
    exact List.map_inj_left.mp same place (List.mem_range.mpr inside)
  · rintro rfl
    rfl

theorem length_flatMap_bits (data : List UInt8) : (data.flatMap bits).length = 8 * data.length := by
  rw [List.length_flatMap, funext length_bits, List.map_const', List.sum_replicate_nat,
    Nat.mul_comm]

theorem flatMap_bits_inj {first second : List UInt8} (sameLength : first.length = second.length) :
    first.flatMap bits = second.flatMap bits ↔ first = second := by
  induction first generalizing second with
  | nil => simp [List.length_eq_zero_iff.mp sameLength.symm]
  | cons firstByte first inductionHypothesis =>
      cases second with
      | nil => cases sameLength
      | cons secondByte second =>
          have heads : (bits firstByte).length = (bits secondByte).length := by
            rw [length_bits, length_bits]
          rw [List.flatMap_cons, List.flatMap_cons, List.cons.injEq, ← bits_inj,
            ← inductionHypothesis (Nat.succ.inj sameLength)]
          constructor
          · intro same
            exact List.append_inj same heads
          · rintro ⟨head, tail⟩
            rw [head, tail]

/-- Up to four octets lead a register to a different one for each of their values. -/
theorem foldl_feedOctet_data_inj {first second : List UInt8}
    (sameLength : first.length = second.length) (short : first.length ≤ 4) :
    first.foldl feedOctet register = second.foldl feedOctet register ↔ first = second := by
  rw [foldl_feedOctet_eq, foldl_feedOctet_eq, foldl_feed_inj, flatMap_bits_inj sameLength]
  · rw [length_flatMap_bits, length_flatMap_bits, sameLength]
  · rw [length_flatMap_bits]
    omega

/-- Data that differs within a window of four octets has another checksum. -/
theorem checksum_ne_of_burst {data received : List UInt8} {start : ℕ}
    (agree : AgreeOutside (Set.Ico start (start + 4)) data received) (differs : received ≠ data) :
    checksum data ≠ checksum received := by
  have parts : ∀ bytes : List UInt8,
      bytes = bytes.take start ++ ((bytes.drop start).take 4 ++ bytes.drop (start + 4)) := by
    intro bytes
    rw [← List.drop_drop, List.take_append_drop, List.take_append_drop]
  have front : data.take start = received.take start := by
    have clear : Disjoint (Set.Ico 0 (0 + start)) (Set.Ico start (start + 4)) := by simp
    simpa using agree.slice_eq clear
  have back : data.drop (start + 4) = received.drop (start + 4) := by
    apply List.ext_getElem?
    intro place
    rw [List.getElem?_drop, List.getElem?_drop]
    apply agree.same
    simp
  have windows : ((data.drop start).take 4).length = ((received.drop start).take 4).length := by
    rw [List.length_take, List.length_take, List.length_drop, List.length_drop, agree.length_eq]
  intro same
  apply differs
  rw [parts data, parts received, front, back] at same ⊢
  rw [checksum, checksum, BitVec.xor_left_inj, List.foldl_append, List.foldl_append,
    List.foldl_append, List.foldl_append, foldl_feedOctet_inj,
    foldl_feedOctet_data_inj windows (List.length_take_le _ _)] at same
  rw [same]

end Crc32

namespace Checksum

/-- A checksum accepts data, and finds what can happen to it on the way: other octets within a
window of four, and another length.  Lengths are sizes. -/
structure Detects (data : List UInt8) (checksum : Checksum) : Prop where
  intact : checksum.accepts data = true
  burst : ∀ received start, AgreeOutside (Set.Ico start (start + 4)) data received →
    received ≠ data → checksum.accepts received = false
  length : ∀ received : List UInt8, data.length < wordLimit → received.length < wordLimit →
    received.length ≠ data.length → checksum.accepts received = false

theorem detects_compute (data : List UInt8) : Detects data (compute data) where
  intact := by simp [accepts, compute]
  burst := by
    intro received start agree differs
    have other := Crc32.checksum_ne_of_burst agree differs
    simp [accepts, compute, other.symm]
  length := by
    intro received dataFits receivedFits differs
    have other : UInt64.ofNat data.length ≠ UInt64.ofNat received.length := by
      intro same
      apply differs
      rw [← Word.toNat_ofNat dataFits, same, Word.toNat_ofNat receivedFits]
    simp [accepts, compute, other]

/-- A burst on the way changes the CRC-32, and the checksum of the data finds it, as it finds
another length.  So does the checksum that is read from its written form. -/
theorem burst_is_detected (data : List UInt8) :
    (∀ received start, AgreeOutside (Set.Ico start (start + 4)) data received →
      received ≠ data → Crc32.checksum data ≠ Crc32.checksum received) ∧
    Detects data (compute data) ∧
    ∃ read, ofBytes? (compute data).toBytes = some read ∧ Detects data read :=
  ⟨fun _ _ => Crc32.checksum_ne_of_burst, detects_compute data,
    compute data, ofBytes?_toBytes _, detects_compute data⟩

end Checksum

end OneTimePad
