import Mathlib.Data.Set.Card
import Mathlib.Order.Interval.Finset.Nat
import OneTimePad.Proofs.Ledger.Tiling

/-!
# Coverage

The positions of several spans, and how many of them there are.
-/

namespace OneTimePad.Span

/-- All positions of some spans. -/
def covered (spans : List Span) : Set Nat :=
  ⋃ span ∈ spans, span.positions

theorem ncard_positions (span : Span) : span.positions.ncard = span.size := by
  rw [positions, ← Finset.coe_Ico, Set.ncard_coe_finset, Nat.card_Ico, size]

theorem covered_cons (span : Span) (spans : List Span) :
    covered (span :: spans) = span.positions ∪ covered spans := by
  simp [covered, Set.iUnion_or, Set.iUnion_union_distrib]

theorem finite_covered (spans : List Span) : (covered spans).Finite := by
  induction spans with
  | nil => simp [covered]
  | cons span spans inductionHypothesis =>
      rw [covered_cons]
      exact (Set.finite_Ico _ _).union inductionHypothesis

/-- Spans that lie in the region do not cover more positions than it has. -/
theorem ncard_covered_le {spans : List Span} {total : Nat}
    (inside : ∀ span ∈ spans, span.stop.toNat ≤ total) : (covered spans).ncard ≤ total := by
  have subset : covered spans ⊆ Finset.Ico 0 total := by
    rw [Finset.coe_Ico]
    apply Set.iUnion₂_subset
    intro span mem
    exact Set.Ico_subset_Ico (Nat.zero_le _) (inside span mem)
  have le := Set.ncard_le_ncard subset (Finset.finite_toSet _)
  rwa [Set.ncard_coe_finset, Nat.card_Ico] at le

theorem covered_congr {spans others : List Span} (perm : spans.Perm others) :
    covered spans = covered others := by
  simp only [covered, perm.mem_iff]

/-- Spans that do not meet have as many positions together as they cover. -/
theorem sum_size_eq_ncard {spans : List Span}
    (apart : spans.Pairwise fun left right => Disjoint left.positions right.positions) :
    (spans.map size).sum = (covered spans).ncard := by
  induction spans with
  | nil => simp [covered]
  | cons span spans inductionHypothesis =>
      rcases List.pairwise_cons.mp apart with ⟨clear, others⟩
      have disjoint : Disjoint span.positions (covered spans) :=
        Set.disjoint_iUnion₂_right.mpr clear
      rw [List.map_cons, List.sum_cons, inductionHypothesis others, covered_cons,
        Set.ncard_union_eq disjoint (Set.finite_Ico _ _) (finite_covered spans), ncard_positions]

end OneTimePad.Span
