import Mathlib.Algebra.GroupWithZero.Nat
import OneTimePad.Proofs.Ledger.Geometry

/-!
# Tilings

The spans that a role takes one after the other tile its side: they begin at
its end of the region, each one follows the one before it, and together they
have as many positions as were taken.
-/

namespace OneTimePad

/-- How many positions a span has, as a number. -/
def Span.size (span : Span) : Nat :=
  span.stop.toNat - span.start.toNat

namespace Role

/-- The spans, the latest one first, are those of a role that took them one
after the other, and have `taken` positions together. -/
inductive Tiles (role : Role) (total : Nat) : List Span → Nat → Prop where
  | nil : Tiles role total [] 0
  | cons {spans : List Span} {taken length : Nat} {span : Span}
      (earlier : Tiles role total spans taken) (nonempty : 0 < length)
      (fits : taken + length ≤ total)
      (start : span.start.toNat = role.nextStart total taken length)
      (stop : span.stop.toNat = role.nextStart total taken length + length) :
      Tiles role total (span :: spans) (taken + length)

variable {role : Role} {total taken : Nat} {spans : List Span} {span : Span}

theorem Tiles.start_lt_stop (tiles : role.Tiles total spans taken) :
    ∀ span ∈ spans, span.start.toNat < span.stop.toNat := by
  induction tiles with
  | nil => simp
  | cons _ nonempty _ start stop inductionHypothesis =>
      rw [List.forall_mem_cons]
      exact ⟨by omega, inductionHypothesis⟩

/-- The positions that are taken belong to the side of the role. -/
theorem Tiles.positions_subset_side (tiles : role.Tiles total spans taken) :
    ∀ span ∈ spans, span.positions ⊆ role.side total taken := by
  induction tiles with
  | nil => simp
  | @cons spans taken length span _ _ fits start stop inductionHypothesis =>
      rw [List.forall_mem_cons]
      constructor
      · rw [Span.positions, start, stop]
        exact next_subset_side fits
      · intro other mem
        exact (inductionHypothesis other mem).trans (side_mono (Nat.le_add_right _ _))

/-- No position is taken twice. -/
theorem Tiles.pairwise_disjoint (tiles : role.Tiles total spans taken) :
    (spans.map Span.positions).Pairwise Disjoint := by
  induction tiles with
  | nil => exact .nil
  | cons earlier _ fits start stop inductionHypothesis =>
      rw [List.map_cons, List.pairwise_cons]
      constructor
      · intro positions mem
        rcases List.mem_map.mp mem with ⟨other, otherMem, rfl⟩
        rw [Span.positions, start, stop]
        exact (disjoint_next_side fits).mono_right (earlier.positions_subset_side other otherMem)
      · exact inductionHypothesis

/-- Nothing between the spans is left out. -/
theorem Tiles.sum_size (tiles : role.Tiles total spans taken) :
    (spans.map Span.size).sum = taken := by
  induction tiles with
  | nil => rfl
  | @cons spans taken length span _ _ _ start stop inductionHypothesis =>
      have size : span.size = length := by
        rw [Span.size, start, stop, Nat.add_sub_cancel_left]
      rw [List.map_cons, List.sum_cons, inductionHypothesis, size, Nat.add_comm]

end Role

end OneTimePad
