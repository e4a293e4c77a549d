import OneTimePad.Proofs.Ledger.Run

/-!
# Origins of frames

Where a frame comes from is read off the position that it begins at: it is one of
ours if we were given this position, one that was processed if the position is
among the processed ones, and new otherwise.

The books keep no list of the positions that they gave out.  A role compares the
offset with one end of its side instead, since the region ends at the other one.
For an initiator the comparison is exact at every offset.  A responder does not
look for the end of the region, and so takes every offset behind it for one of
its own, even if it was never given anything.
-/

namespace OneTimePad

/-- The origin of a frame, given whether its first position is one that we were
given, and whether it is one of the processed ones. -/
def Origin.Tells (origin : Origin) (ours processed : Prop) : Prop :=
  match origin with
  | own => ours
  | duplicate => ¬ ours ∧ processed
  | fresh => ¬ ours ∧ ¬ processed

/-- No two origins tell the same. -/
theorem Origin.Tells.eq_iff {origin other : Origin} {ours processed : Prop}
    (tells : origin.Tells ours processed) : origin = other ↔ other.Tells ours processed := by
  constructor
  · rintro rfl
    exact tells
  · intro otherTells
    cases origin with
    | own =>
        cases other with
        | own => rfl
        | duplicate => exact absurd tells otherTells.1
        | fresh => exact absurd tells otherTells.1
    | duplicate =>
        cases other with
        | own => exact absurd otherTells tells.1
        | duplicate => rfl
        | fresh => exact absurd tells.2 otherTells.2
    | fresh =>
        cases other with
        | own => exact absurd otherTells tells.1
        | duplicate => exact absurd otherTells.2 tells.2
        | fresh => rfl

namespace Role

variable {role : Role} {total sent offset : UInt64}

/-- The positions of an initiator are those below its mark, inside the region or
not. -/
theorem owns_initiator_iff :
    initiator.owns total sent offset = true ↔
      offset.toNat ∈ initiator.side total.toNat sent.toNat := by
  simp [owns, side, UInt64.lt_iff_toNat_lt]

/-- A responder owns whatever lies behind the region. -/
theorem owns_responder_of_total_le (outside : total.toNat ≤ offset.toNat) :
    responder.owns total sent offset = true := by
  simp only [owns, decide_eq_true_eq, UInt64.le_iff_toNat_le, Word.toNat_subSaturating]
  omega

/-- The side of a responder ends with the region. -/
theorem notMem_side_responder_of_total_le {amount : Nat} (outside : total.toNat ≤ offset.toNat) :
    offset.toNat ∉ responder.side total.toNat amount := by
  rw [side, Set.mem_Ico]
  omega

end Role

namespace Ledger

variable {ledger : Ledger} {offset : UInt64}

/-- The end of the region is behind the offset, and the party does not look for
it. -/
structure Overlooks (ledger : Ledger) (offset : UInt64) : Prop where
  role_eq : ledger.role = .responder
  outside : ledger.total.toNat ≤ offset.toNat

theorem overlooks_iff :
    ledger.Overlooks offset ↔ ledger.role = .responder ∧ ledger.total ≤ offset := by
  rw [UInt64.le_iff_toNat_le]
  constructor
  · intro overlooks
    exact ⟨overlooks.role_eq, overlooks.outside⟩
  · rintro ⟨role, outside⟩
    exact ⟨role, outside⟩

theorem classify_of_overlooks (overlooks : ledger.Overlooks offset) :
    ledger.classify offset = .own := by
  have owned : ledger.role.owns ledger.total ledger.sent offset = true := by
    rw [overlooks.role_eq]
    exact Role.owns_responder_of_total_le overlooks.outside
  rw [classify, if_pos owned]

theorem notMem_own_of_overlooks (overlooks : ledger.Overlooks offset) :
    offset.toNat ∉ ledger.own := by
  rw [own, overlooks.role_eq]
  exact Role.notMem_side_responder_of_total_le overlooks.outside

/-- Unless the end of the region is overlooked, the offsets that the role owns
are those of its side. -/
theorem owns_iff_mem_own (sees : ¬ ledger.Overlooks offset) :
    ledger.role.owns ledger.total ledger.sent offset = true ↔ offset.toNat ∈ ledger.own := by
  unfold own
  cases role : ledger.role with
  | initiator => exact Role.owns_initiator_iff
  | responder =>
      have inside : offset.toNat < ledger.total.toNat := by
        by_contra outside
        exact sees ⟨role, Nat.le_of_not_lt outside⟩
      exact Role.owns_iff_mem_side inside

/-- A classification tells whose position it is, unless the end of the region is
overlooked. -/
theorem classify_tells_iff :
    (ledger.classify offset).Tells (offset.toNat ∈ ledger.own) (offset.toNat ∈ ledger.foreign) ↔
      ¬ ledger.Overlooks offset := by
  constructor
  · intro tells overlooks
    rw [classify_of_overlooks overlooks] at tells
    exact notMem_own_of_overlooks overlooks tells
  · intro sees
    have ours := owns_iff_mem_own sees
    have processed : ledger.isDuplicate offset = true ↔ offset.toNat ∈ ledger.foreign :=
      Role.hasProcessed_iff_mem_side
    unfold classify
    by_cases owned : ledger.role.owns ledger.total ledger.sent offset = true
    · rw [if_pos owned]
      exact ours.mp owned
    · rw [if_neg owned]
      by_cases known : ledger.isDuplicate offset = true
      · rw [if_pos known]
        exact ⟨mt ours.mpr owned, processed.mp known⟩
      · rw [if_neg known]
        exact ⟨mt ours.mpr owned, mt processed.mpr known⟩

/-! ## What was given out -/

/-- The spans that a run of fresh books has given out fill the side of the
role. -/
theorem Kept.exists_filled {role : Role} {total : UInt64} {settings : Settings}
    {answers : List Answer} {final : Ledger} (kept : Kept (fresh role total settings) answers final) :
    ∃ spans, GivenOut answers spans ∧ ⋃ span ∈ spans, span.positions = final.own := by
  rcases kept.tiles [] .nil with ⟨spans, givenOut, tiles⟩
  rw [List.append_nil] at tiles
  refine ⟨spans, givenOut, ?_⟩
  have filled := tiles.iUnion_positions
  simp only [List.mem_reverse] at filled
  rw [filled, own, kept.follows.role, kept.follows.total]

theorem exists_contains_iff {spans : List Span} {positions : Set Nat}
    (filled : ⋃ span ∈ spans, span.positions = positions) :
    (∃ span ∈ spans, span.contains offset = true) ↔ offset.toNat ∈ positions := by
  rw [← filled, Set.mem_iUnion₂]
  simp only [Span.contains_iff, Span.positions, Set.mem_Ico, exists_prop]

/-- What the classification of an offset says after any run of calls to fresh
books.  It is the origin that the spans given out in this run and the processed
positions tell, at every offset but those behind the region of a responder.  Such
an offset is always taken for one of ours, although no span contains it. -/
theorem classify_of_run_iff (role : Role) (total : UInt64) (settings : Settings)
    (calls : List Call) :
    ∃ answers ledger spans, (fresh role total settings).run calls = .ok (answers, ledger) ∧
      GivenOut answers spans ∧
      ∀ offset,
        ((∀ origin, ledger.classify offset = origin ↔
            origin.Tells (∃ span ∈ spans, span.contains offset = true)
              ((role.processed total ledger.seen).contains offset = true)) ↔
          ¬ (role = .responder ∧ total ≤ offset)) ∧
        (role = .responder → total ≤ offset →
          ledger.classify offset = .own ∧ ∀ span ∈ spans, span.contains offset = false) := by
  have balanced := (Begun.fresh role total settings).balanced
  rcases balanced.exists_run calls with ⟨answers, ledger, ran, kept⟩
  rcases kept.exists_filled with ⟨spans, givenOut, filled⟩
  refine ⟨answers, ledger, spans, ran, givenOut, ?_⟩
  intro offset
  have roleEq : ledger.role = role := kept.follows.role
  have totalEq : ledger.total = total := kept.follows.total
  have ours : (∃ span ∈ spans, span.contains offset = true) ↔ offset.toNat ∈ ledger.own :=
    exists_contains_iff filled
  have processed : (role.processed total ledger.seen).contains offset = true ↔
      offset.toNat ∈ ledger.foreign := by
    rw [foreign, roleEq, totalEq]
    exact Role.hasProcessed_iff_mem_side
  have overlooks : ledger.Overlooks offset ↔ role = .responder ∧ total ≤ offset := by
    rw [overlooks_iff, roleEq, totalEq]
  rw [ours, processed, ← overlooks]
  constructor
  · rw [← classify_tells_iff]
    exact ⟨fun law => (law _).mp rfl, fun tells origin => tells.eq_iff⟩
  · intro responder outside
    have behind := overlooks.mpr ⟨responder, outside⟩
    refine ⟨classify_of_overlooks behind, ?_⟩
    intro span mem
    rw [Bool.eq_false_iff]
    intro contains
    exact notMem_own_of_overlooks behind (ours.mp ⟨span, mem, contains⟩)

/-- A responder that was never given anything takes the first offset behind its
region for one of its own. -/
theorem classify_of_run_iff_untouched_responder :
    ∃ answers ledger spans, (fresh .responder 1000).run [] = .ok (answers, ledger) ∧
      GivenOut answers spans ∧ ledger.classify 1000 = .own ∧
      ¬ ∀ origin, ledger.classify 1000 = origin ↔
        origin.Tells (∃ span ∈ spans, span.contains 1000 = true)
          ((Role.responder.processed 1000 ledger.seen).contains 1000 = true) := by
  rcases classify_of_run_iff .responder 1000 {} [] with
    ⟨answers, ledger, spans, ran, givenOut, origins⟩
  rcases origins 1000 with ⟨law, overlooked⟩
  have outside : (1000 : UInt64) ≤ 1000 := UInt64.le_refl _
  exact ⟨answers, ledger, spans, ran, givenOut, (overlooked rfl outside).1,
    fun tells => law.mp tells ⟨rfl, outside⟩⟩

end Ledger

end OneTimePad
