import Mathlib.Data.Set.Image
import Mathlib.Order.CompletePartialOrder
import Mathlib.Order.Interval.Set.Disjoint
import OneTimePad.Bytes.Slice

/-!
# Byte strings that agree

Two byte strings agree outside a set of positions if they are of one length and differ at
most at these positions.  Then they agree wherever they are cut, outside the positions
that are left of the set.
-/

namespace OneTimePad

/-- Two byte strings of one length that differ at most at some positions. -/
structure AgreeOutside (positions : Set Nat) (left right : List UInt8) : Prop where
  length_eq : left.length = right.length
  same : ∀ position ∉ positions, left[position]? = right[position]?

namespace AgreeOutside

variable {positions : Set Nat} {left right : List UInt8} {start length : Nat}

theorem symm (agree : AgreeOutside positions left right) : AgreeOutside positions right left :=
  ⟨agree.length_eq.symm, fun position outside => (agree.same position outside).symm⟩

/-- Changing one octet changes nothing elsewhere. -/
theorem set (bytes : List UInt8) {position : Nat} (mem : position ∈ positions) (byte : UInt8) :
    AgreeOutside positions bytes (bytes.set position byte) := by
  constructor
  · rw [List.length_set]
  · intro other outside
    have ne : position ≠ other := by
      rintro rfl
      exact outside mem
    rw [List.getElem?_set_ne ne]

/-- What is left after the first octets agrees as well. -/
theorem drop (count : Nat) (agree : AgreeOutside ((count + ·) '' positions) left right) :
    AgreeOutside positions (left.drop count) (right.drop count) := by
  constructor
  · rw [List.length_drop, List.length_drop, agree.length_eq]
  · intro position outside
    rw [List.getElem?_drop, List.getElem?_drop]
    apply agree.same
    rintro ⟨other, mem, same⟩
    obtain rfl := Nat.add_left_cancel same
    exact outside mem

/-- Slices elsewhere are the same. -/
theorem slice_eq (agree : AgreeOutside positions left right)
    (clear : Disjoint (Set.Ico start (start + length)) positions) :
    (left.drop start).take length = (right.drop start).take length := by
  apply List.ext_getElem?
  intro index
  rw [List.getElem?_take, List.getElem?_take, List.getElem?_drop, List.getElem?_drop]
  by_cases inside : index < length
  · rw [if_pos inside, if_pos inside]
    apply agree.same
    exact Set.disjoint_left.mp clear ⟨Nat.le_add_right _ _, Nat.add_lt_add_left inside _⟩
  · rw [if_neg inside, if_neg inside]

end AgreeOutside

end OneTimePad
