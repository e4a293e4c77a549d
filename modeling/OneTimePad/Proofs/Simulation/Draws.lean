import OneTimePad.Simulation.Generator

/-!
# What a generator draws

The facts about draws that hold whatever the stream of words is: sure and
impossible chances, numbers below a bound, and as many octets as were asked for.
-/

namespace OneTimePad.Generator

/-- A sure chance comes true. -/
theorem chance_of_sure {probability : Binary64} (sure : probability.magnitude = Binary64.one)
    (generator : Generator) : (generator.chance probability).1 = true := by
  rw [chance, if_pos sure]

/-- A chance of less than one in `2 ^ 64` never comes true. -/
theorem chance_of_never {probability : Binary64} (never : probability.timesWordRange = 0)
    (generator : Generator) : (generator.chance probability).1 = false := by
  have unsure : probability.magnitude ≠ Binary64.one := by
    intro sure
    have scaled : probability.scaled = ⟨Binary64.leadingOne, 1022⟩ := by
      simp [Binary64.scaled, sure, Binary64.one, Binary64.leadingOne]
    rw [Binary64.timesWordRange, scaled] at never
    revert never
    decide
  simp [chance, unsure, never]

/-- A number drawn below a positive bound is below it. -/
theorem below_lt {bound turns number : Nat} {generator after : Generator} (positive : 0 < bound)
    (drawn : below bound turns generator = some (number, after)) : number < bound := by
  induction turns generalizing generator with
  | zero => cases drawn
  | succ turns inductionHypothesis =>
      simp only [below] at drawn
      split at drawn
      · cases drawn
        apply Nat.div_lt_of_lt_mul
        exact Nat.mul_lt_mul_of_pos_right generator.double.1.toNat_lt positive
      · exact inductionHypothesis drawn

/-! ## Octets -/

theorem length_octets (word : UInt32) : (octets word).length = 4 := by
  rw [octets, List.length_reverse, Bytes.length_ofNat]

theorem length_words (count : Nat) (drawn : List UInt32) (generator : Generator) :
    (words count drawn generator).1.length = drawn.length + count := by
  induction count generalizing drawn generator with
  | zero => simp [words]
  | succ count inductionHypothesis =>
      rw [words, inductionHypothesis, List.length_cons]
      omega

/-- As many octets are drawn as were asked for. -/
theorem length_bytes (generator : Generator) (count : Nat) :
    (generator.bytes count).1.length = count := by
  have enough : count ≤ (count + 3) / 4 * 4 := by omega
  rw [bytes]
  simp only [List.length_take, List.length_flatMap, length_octets, List.map_const',
    List.sum_replicate_nat, length_words, List.length_nil, Nat.zero_add]
  omega

end OneTimePad.Generator
