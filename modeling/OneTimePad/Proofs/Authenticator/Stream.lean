import Mathlib.Algebra.BigOperators.Intervals
import Mathlib.Data.List.GetD
import OneTimePad.Proofs.Authenticator.Hash

/-!
# The hash as a sum over the stream

Header and ciphertext can be hashed without being joined first.  Octets are drawn from the
header and, when that is used up, from the ciphertext, sixteen for a block, until all of
them were drawn.  So a block may begin in the header and end in the ciphertext, and where
no octet is left for a place of the last block it keeps its zero.

There are as many rounds as the stream has blocks, wherever the header ends, and what they
take in are these blocks.  Written out, the hash is the sum of all blocks and the lengths,
each times its own power of the point: the lengths times the point itself, and every block
times a power by one higher than the block after it.
-/

namespace OneTimePad.Authenticator

open BinaryField

/-! ## Drawing octets -/

/-- The octets that are left: those of the header are drawn first. -/
structure Source where
  header : List UInt8
  ciphertext : List UInt8

namespace Source

/-- The octets in the order in which they are drawn. -/
def toList (source : Source) : List UInt8 :=
  source.header ++ source.ciphertext

/-- The next octet, and what is left after it. -/
def next? : Source → Option (UInt8 × Source)
  | ⟨byte :: header, ciphertext⟩ => some (byte, ⟨header, ciphertext⟩)
  | ⟨[], byte :: ciphertext⟩ => some (byte, ⟨[], ciphertext⟩)
  | ⟨[], []⟩ => none

/-- Draw an octet for each of several places, as long as there is one, and say what is left
after them. -/
def draw : (places : ℕ) → Source → List UInt8 × Source
  | 0, source => ([], source)
  | places + 1, source =>
      match source.next? with
      | none => ([], source)
      | some (byte, rest) => (byte :: (draw places rest).1, (draw places rest).2)

theorem toList_eq_next? (source : Source) :
    source.toList = source.next?.elim [] fun drawn => drawn.1 :: drawn.2.toList := by
  rcases source with ⟨_ | ⟨byte, header⟩, _ | ⟨other, ciphertext⟩⟩ <;> rfl

/-- What is drawn is the front of all octets, and the others are left. -/
theorem draw_spec (places : ℕ) (source : Source) :
    (source.draw places).1 = source.toList.take places ∧
      (source.draw places).2.toList = source.toList.drop places := by
  induction places generalizing source with
  | zero => exact ⟨rfl, rfl⟩
  | succ places inductionHypothesis =>
      have order := source.toList_eq_next?
      unfold draw
      cases next : source.next? with
      | none =>
          rw [next] at order
          change source.toList = [] at order
          exact ⟨by rw [order]; rfl, by rw [order]; rfl⟩
      | some drawn =>
          rcases drawn with ⟨byte, rest⟩
          rw [next] at order
          change source.toList = byte :: rest.toList at order
          rcases inductionHypothesis rest with ⟨front, left⟩
          exact ⟨by rw [order, List.take_succ_cons, ← front], by rw [order, List.drop_succ_cons, left]⟩

end Source

/-! ## Rounds -/

/-- What the rounds go on with. -/
structure Intake where
  source : Source
  /-- How many octets were drawn. -/
  drawn : ℕ
  hash : Element

namespace Intake

/-- Before the first round. -/
def start (header ciphertext : List UInt8) : Intake :=
  { source := ⟨header, ciphertext⟩, drawn := 0, hash := 0 }

/-- One round: draw the octets of a block and take the block in. -/
def round (point : Element) (intake : Intake) : Intake :=
  let block := intake.source.draw blockSize
  { source := block.2
    drawn := intake.drawn + block.1.length
    hash := absorb point intake.hash (loadBlock block.1) }

/-- From one intake to another with so many rounds, of which each was made because not
all octets were drawn before it, and no further one because all were drawn. -/
inductive Rounds (point : Element) (total : ℕ) : ℕ → Intake → Intake → Prop where
  | done {intake : Intake} (all : ¬ intake.drawn < total) :
      Rounds point total 0 intake intake
  | more {count : ℕ} {intake final : Intake} (left : intake.drawn < total)
      (others : Rounds point total count (intake.round point) final) :
      Rounds point total (count + 1) intake final

variable {point : Element} {total : ℕ}

/-- The octets say how many rounds there are. -/
theorem Rounds.count_eq {count otherCount : ℕ} {intake final otherFinal : Intake}
    (rounds : Rounds point total count intake final)
    (otherRounds : Rounds point total otherCount intake otherFinal) : otherCount = count := by
  induction rounds generalizing otherCount with
  | done all =>
      cases otherRounds with
      | done _ => rfl
      | more left _ => exact absurd left all
  | more left _ inductionHypothesis =>
      cases otherRounds with
      | done all => exact absurd left all
      | more _ others => rw [inductionHypothesis others]

/-- The drawn octets and those that are left are all octets. -/
def Counted (total : ℕ) (intake : Intake) : Prop :=
  intake.drawn + intake.source.toList.length = total

variable {intake : Intake}

theorem toList_round :
    (intake.round point).source.toList = intake.source.toList.drop blockSize :=
  (intake.source.draw_spec blockSize).2

theorem hash_round :
    (intake.round point).hash =
      absorb point intake.hash (loadBlock (intake.source.toList.take blockSize)) := by
  rw [round, (intake.source.draw_spec blockSize).1]

/-- A round loses no octet. -/
theorem Counted.round (counted : intake.Counted total) : (intake.round point).Counted total := by
  have drawn : (intake.round point).drawn =
      intake.drawn + min blockSize intake.source.toList.length := by
    rw [Intake.round, (intake.source.draw_spec blockSize).1, List.length_take]
  unfold Counted at counted ⊢
  rw [drawn, toList_round, List.length_drop]
  omega

/-- The rounds take in the blocks of the octets that are left, and then all are drawn. -/
theorem Counted.exists_rounds (counted : intake.Counted total) :
    ∃ final, Rounds point total (blockCount intake.source.toList.length) intake final ∧
      final.drawn = total ∧
      final.hash = (blocks intake.source.toList).foldl (absorb point) intake.hash := by
  rw [blocks]
  generalize size : blockCount intake.source.toList.length = count
  unfold blockCount blockSize at size
  induction count generalizing intake with
  | zero =>
      unfold Counted at counted
      have empty : intake.source.toList.length = 0 := by omega
      exact ⟨intake, .done (by omega), by omega, rfl⟩
  | succ count inductionHypothesis =>
      have fewer : ((intake.round point).source.toList.length + 15) / 16 = count := by
        rw [toList_round, List.length_drop, blockSize]
        omega
      rcases inductionHypothesis counted.round fewer with ⟨final, rounds, complete, taken⟩
      have left : intake.drawn < total := by
        unfold Counted at counted
        omega
      refine ⟨final, .more left rounds, complete, ?_⟩
      rw [taken, toList_round, hash_round, takeBlocks, List.foldl_cons]

end Intake

/-! ## Blocks as numbers -/

/-- The number of sixteen octets of a stream, from a place on, with zeros where the stream
has no octets: the first octet is the most significant one. -/
def numberAt (stream : List UInt8) (place : ℕ) : ℕ :=
  ∑ i ∈ Finset.range 16, (stream.getD (place + i) 0).toNat * 256 ^ (15 - i)

theorem capacity_eq_pow (width : ℕ) : Bytes.capacity width = 256 ^ width := by
  induction width with
  | zero => rfl
  | succ width inductionHypothesis => rw [Bytes.capacity, inductionHypothesis, pow_succ]

theorem toNat_eq_sum (bytes : List UInt8) :
    Bytes.toNat bytes =
      ∑ i ∈ Finset.range bytes.length, (bytes.getD i 0).toNat * 256 ^ (bytes.length - 1 - i) := by
  induction bytes with
  | nil => rfl
  | cons byte bytes inductionHypothesis =>
      have places : ∀ i, bytes.length + 1 - 1 - (i + 1) = bytes.length - 1 - i := by
        intro i
        omega
      rw [Bytes.toNat_cons, inductionHypothesis, List.length_cons, Finset.sum_range_succ',
        capacity_eq_pow, Nat.add_comm]
      simp only [places]
      rfl

/-- Filling octets up with zeros does not change what stands at a place. -/
theorem getD_append_zeros (bytes : List UInt8) (count i : ℕ) :
    (bytes ++ List.replicate count 0).getD i 0 = bytes.getD i 0 := by
  by_cases inside : i < bytes.length
  · rw [List.getD_append _ _ _ _ inside]
  · have outside := Nat.le_of_not_lt inside
    rw [List.getD_append_right _ _ _ _ outside, List.getD_eq_default _ _ outside]
    by_cases filled : i - bytes.length < count
    · exact List.getD_replicate _ filled
    · exact List.getD_eq_default _ _ (by rwa [List.length_replicate, ← Nat.not_lt])

/-- A block that is cut from a stream is the number at its place. -/
theorem loadBlock_eq_numberAt (stream : List UInt8) (place : ℕ) :
    loadBlock ((stream.drop place).take blockSize) = BitVec.ofNat 128 (numberAt stream place) := by
  have octet : ∀ i < 16,
      ((stream.drop place).take blockSize).getD i 0 = stream.getD (place + i) 0 := by
    intro i inside
    simp [List.getD, blockSize, inside]
  generalize cut : (stream.drop place).take blockSize = block at octet
  have short : block.length ≤ blockSize := cut ▸ List.length_take_le _ _
  have size : (block ++ List.replicate (blockSize - block.length) 0).length = 16 := by
    rw [List.length_append, List.length_replicate, Nat.add_sub_cancel' short]
    rfl
  have number : Bytes.toNat (block ++ List.replicate (blockSize - block.length) 0) =
      numberAt stream place := by
    rw [toNat_eq_sum, size, numberAt]
    apply Finset.sum_congr rfl
    intro i mem
    rw [getD_append_zeros, octet i (Finset.mem_range.mp mem)]
  rw [loadBlock, load, number]

/-- The lengths of short parts, in bits, are the two halves of one number. -/
theorem lengthBlock_eq_ofNat {header ciphertext : List UInt8} (header_short : Short header)
    (ciphertext_short : Short ciphertext) :
    lengthBlock header ciphertext =
      BitVec.ofNat 128 (8 * header.length * 2 ^ 64 + 8 * ciphertext.length) := by
  unfold Short at header_short ciphertext_short
  have high : header.length * 8 % 2 ^ 64 = 8 * header.length := by omega
  have low : ciphertext.length * 8 % 2 ^ 64 = 8 * ciphertext.length := by omega
  have small : 8 * ciphertext.length < 2 ^ 64 := by omega
  have fits : 8 * header.length * 2 ^ 64 + 8 * ciphertext.length < 2 ^ 128 := by omega
  apply BitVec.eq_of_toNat_eq
  rw [lengthBlock, BitVec.toNat_append, BitVec.toNat_ofNat, BitVec.toNat_ofNat, BitVec.toNat_ofNat,
    high, low, Nat.mod_eq_of_lt fits, ← Nat.shiftLeft_add_eq_or_of_lt small, Nat.shiftLeft_eq]

/-! ## The sum -/

/-- Taking blocks in is Horner's rule, from the first block on. -/
theorem residue_foldl_absorb (point hash : Element) (blocks : List Element) :
    residue (blocks.foldl (absorb point) hash) =
      residue hash * residue point ^ blocks.length +
        ∑ i ∈ Finset.range blocks.length,
          residue (blocks.getD i 0) * residue point ^ (blocks.length - i) := by
  induction blocks generalizing hash with
  | nil => simp
  | cons block later inductionHypothesis =>
      have powers : ∀ i, later.length + 1 - (i + 1) = later.length - i := by
        intro i
        omega
      rw [List.foldl_cons, inductionHypothesis, absorb, residue_mul, residue_xor, List.length_cons,
        Finset.sum_range_succ']
      simp only [List.getD_cons_succ, List.getD_cons_zero, powers, Nat.sub_zero]
      ring

/-- The sum over the blocks of a stream, the first one having the number one. -/
theorem residue_foldl_blocks (point : Element) (stream : List UInt8) :
    residue ((blocks stream).foldl (absorb point) 0) =
      ∑ i ∈ Finset.Icc 1 (blockCount stream.length),
        residue (BitVec.ofNat 128 (numberAt stream (16 * (i - 1)))) *
          residue point ^ (blockCount stream.length - i + 1) := by
  rw [residue_foldl_absorb, residue_zero, zero_mul, zero_add, length_blocks,
    ← Finset.Ico_add_one_right_eq_Icc, Finset.sum_Ico_eq_sum_range, Nat.add_sub_cancel]
  apply Finset.sum_congr rfl
  intro i mem
  have inside := Finset.mem_range.mp mem
  have block := getElem?_takeBlocks inside stream
  rw [loadBlock_eq_numberAt, Nat.mul_comm, blockSize] at block
  have power : blockCount stream.length - (1 + i) + 1 = blockCount stream.length - i := by omega
  rw [List.getD, blocks, block, Option.getD_some, Nat.add_sub_cancel_left, power]

/-- Drawing octets from the header and then from the ciphertext ends after as many rounds
as the stream of both has blocks, with all octets drawn, and what the rounds take in, with
the lengths after it, is the hash.  The hash is the sum of the blocks, each times a power of
the point by two higher than the number of blocks after it, and of the lengths in bits times
the point. -/
theorem hash_is_sum_of_blocks (point : Element) {header ciphertext : List UInt8}
    (header_short : Short header) (ciphertext_short : Short ciphertext) :
    (∃ total final, Size.add header.length ciphertext.length = .ok total ∧
      Intake.Rounds point total (blockCount total) (.start header ciphertext) final ∧
      (∀ count other, Intake.Rounds point total count (.start header ciphertext) other →
        count = blockCount total) ∧
      final.drawn = total ∧
      hash point header ciphertext = absorb point final.hash (lengthBlock header ciphertext)) ∧
    residue (hash point header ciphertext) =
      (∑ i ∈ Finset.Icc 1 (blockCount (header ++ ciphertext).length),
        residue (BitVec.ofNat 128 (numberAt (header ++ ciphertext) (16 * (i - 1)))) *
          residue point ^ (blockCount (header ++ ciphertext).length - i + 2)) +
      residue (BitVec.ofNat 128 (8 * header.length * 2 ^ 64 + 8 * ciphertext.length)) *
        residue point := by
  constructor
  · have counted : (Intake.start header ciphertext).Counted
        (header.length + ciphertext.length) := by
      change 0 + (header ++ ciphertext).length = _
      rw [Nat.zero_add, List.length_append]
    rcases counted.exists_rounds with ⟨final, rounds, drawn, taken⟩
    change Intake.Rounds _ _ (blockCount (header ++ ciphertext).length) _ _ at rounds
    rw [List.length_append] at rounds
    refine ⟨_, final, Size.add_eq_ok_iff.mpr ⟨rfl, header_short.add_lt ciphertext_short⟩, rounds,
      fun _ _ => rounds.count_eq, drawn, ?_⟩
    rw [taken]
    rfl
  · rw [hash, absorb, residue_mul, residue_xor, residue_foldl_blocks,
      lengthBlock_eq_ofNat header_short ciphertext_short, add_mul, Finset.sum_mul]
    refine congrArg (· + _) (Finset.sum_congr rfl ?_)
    intro i _
    rw [mul_assoc, ← pow_succ]

/-- A header of ten octets and a ciphertext of the smallest size: three rounds, of which the
first one draws from both, and a sum of three blocks and the lengths. -/
theorem hash_is_sum_of_blocks_straddling :
    Short (List.replicate 10 7) ∧ Short (List.replicate 32 9) ∧
      (∃ final, Intake.Rounds 5 42 3
          (.start (List.replicate 10 7) (List.replicate 32 9)) final ∧
        hash 5 (List.replicate 10 7) (List.replicate 32 9) =
          absorb 5 final.hash (lengthBlock (List.replicate 10 7) (List.replicate 32 9))) ∧
      residue (hash 5 (List.replicate 10 7) (List.replicate 32 9)) =
        (∑ i ∈ Finset.Icc 1 3,
          residue (BitVec.ofNat 128
              (numberAt (List.replicate 10 7 ++ List.replicate 32 9) (16 * (i - 1)))) *
            residue 5 ^ (3 - i + 2)) +
        residue (BitVec.ofNat 128 (8 * 10 * 2 ^ 64 + 8 * 32)) * residue 5 := by
  have header_short : Short (List.replicate 10 7) := by
    rw [Short, List.length_replicate]
    omega
  have ciphertext_short : Short (List.replicate 32 9) := by
    rw [Short, List.length_replicate]
    omega
  rcases hash_is_sum_of_blocks 5 header_short ciphertext_short with
    ⟨⟨total, final, sum, rounds, -, -, hashed⟩, written⟩
  obtain rfl : 42 = total := (Size.add_eq_ok_iff.mp sum).1
  have count : blockCount (List.replicate 10 (7 : UInt8) ++ List.replicate 32 9).length = 3 := rfl
  rw [count, List.length_replicate, List.length_replicate] at written
  exact ⟨header_short, ciphertext_short, ⟨final, rounds, hashed⟩, written⟩

end OneTimePad.Authenticator
