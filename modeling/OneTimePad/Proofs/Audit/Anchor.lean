import OneTimePad.Proofs.Audit.Check
import OneTimePad.Proofs.Ledger.Coverage

/-!
# What the checks of one party say

A party that passes the checks of its own has spans that follow each other in
the direction of its role and have as many positions together as its counter
says.  So they leave no gap, and cover one stretch of the region that begins
with the first span.  Where this span lies is not looked at.  The stretch is the
side of the role exactly when the first span begins at the end of the region that
the role begins at; if it does not, the whole stretch is displaced, and the checks
pass all the same.
-/

namespace OneTimePad

namespace Role

/-- The span begins where a role begins to take positions of its region. -/
def Anchors (role : Role) (total : Nat) (first : Span) : Prop :=
  match role with
  | initiator => first.start.toNat = 0
  | responder => first.stop.toNat = total

/-- The `amount` positions that a role takes one after the other, the first of
them at the beginning of a span. -/
def stretch (role : Role) (first : Span) (amount : Nat) : Set Nat :=
  match role with
  | initiator => Set.Ico first.start.toNat (first.start.toNat + amount)
  | responder => Set.Ico (first.stop.toNat - amount) first.stop.toNat

variable {role : Role} {total taken : Nat} {spans : List Span}

/-- The first one of the spans that tile a side is anchored. -/
theorem Tiles.anchors (tiles : role.Tiles total spans taken) {first : Span}
    (isFirst : spans.getLast? = some first) : role.Anchors total first := by
  induction tiles with
  | nil => cases isFirst
  | @cons spans taken length span earlier _ fits start stop inductionHypothesis =>
      cases earlier with
      | nil =>
          rcases Option.some.inj isFirst with rfl
          cases role with
          | initiator => exact start
          | responder =>
              rw [nextStart] at stop
              change span.stop.toNat = total
              omega
      | cons _ _ _ _ _ =>
          rw [List.getLast?_cons_cons] at isFirst
          exact inductionHypothesis isFirst

end Role

namespace Check

section Follows

variable {role : Role} {total taken : Nat} {spans : List Span} {next : Span}

/-- An anchored span begins where the role takes its first positions. -/
theorem start_eq_of_anchors (nonempty : next.start.toNat < next.stop.toNat)
    (anchors : role.Anchors total next) :
    next.start.toNat = role.nextStart total 0 next.size := by
  cases role with
  | initiator => exact anchors
  | responder =>
      have stop : next.stop.toNat = total := anchors
      rw [Role.nextStart, Span.size]
      omega

/-- Spans that follow each other from an anchored one on tile the side. -/
theorem tiles_of_follows (chain : spans.IsChain fun next last => follows role next last = true)
    (nonempty : ∀ span ∈ spans, span.start.toNat < span.stop.toNat)
    (anchored : ∀ first, spans.getLast? = some first → role.Anchors total first)
    (fits : (spans.map Span.size).sum ≤ total) :
    role.Tiles total spans (spans.map Span.size).sum := by
  induction spans with
  | nil => exact .nil
  | cons next spans inductionHypothesis =>
      rcases List.forall_mem_cons.mp nonempty with ⟨nextNonempty, othersNonempty⟩
      rw [List.map_cons, List.sum_cons, Nat.add_comm] at fits ⊢
      have size : next.size = next.stop.toNat - next.start.toNat := rfl
      have earlier : role.Tiles total spans (spans.map Span.size).sum := by
        apply inductionHypothesis chain.tail othersNonempty
        · intro first isFirst
          exact anchored first (by rw [List.getLast?_cons, isFirst, Option.getD_some])
        · omega
      have start : next.start.toNat =
          role.nextStart total (spans.map Span.size).sum next.size := by
        cases spans with
        | nil => exact start_eq_of_anchors nextNonempty (anchored next rfl)
        | cons last spans =>
            have after := (List.isChain_cons_cons.mp chain).1
            exact (follows_iff_of_tiles earlier nextNonempty fits).mp after
      exact .cons earlier (by omega) fits start (by omega)

theorem stretch_size {first : Span} (nonempty : first.start.toNat < first.stop.toNat) :
    role.stretch first first.size = first.positions := by
  have upward : first.start.toNat + first.size = first.stop.toNat := by
    rw [Span.size]
    omega
  have downward : first.stop.toNat - first.size = first.start.toNat := by
    rw [Span.size]
    omega
  cases role with
  | initiator => rw [Role.stretch, upward, Span.positions]
  | responder => rw [Role.stretch, downward, Span.positions]

/-- The span before a stretch makes it longer. -/
theorem positions_union_stretch {last : Span} (nonempty : last.start.toNat < last.stop.toNat)
    (after : follows role next last = true) (amount : Nat) :
    last.positions ∪ role.stretch next amount = role.stretch last (last.size + amount) := by
  cases role with
  | initiator =>
      rw [follows_initiator_iff] at after
      have stop : last.start.toNat + (last.size + amount) = last.stop.toNat + amount := by
        rw [Span.size]
        omega
      rw [Role.stretch, Role.stretch, Span.positions, after, stop,
        Set.Ico_union_Ico_eq_Ico nonempty.le (Nat.le_add_right _ _)]
  | responder =>
      rw [follows_responder_iff] at after
      have start : last.stop.toNat - (last.size + amount) = last.start.toNat - amount := by
        rw [Span.size]
        omega
      rw [Role.stretch, Role.stretch, Span.positions, after, start, Set.union_comm,
        Set.Ico_union_Ico_eq_Ico (Nat.sub_le _ _) nonempty.le]

/-- Spans that follow each other cover the stretch that begins with the first
one. -/
theorem covered_eq_stretch {first : Span} {others : List Span}
    (chain : (first :: others).IsChain fun last next => follows role next last = true)
    (nonempty : ∀ span ∈ first :: others, span.start.toNat < span.stop.toNat) :
    Span.covered (first :: others) =
      role.stretch first ((first :: others).map Span.size).sum := by
  induction others generalizing first with
  | nil => simp [Span.covered, stretch_size (nonempty first List.mem_cons_self)]
  | cons second others inductionHypothesis =>
      rcases List.isChain_cons_cons.mp chain with ⟨after, rest⟩
      rcases List.forall_mem_cons.mp nonempty with ⟨firstNonempty, othersNonempty⟩
      rw [Span.covered_cons, inductionHypothesis rest othersNonempty,
        positions_union_stretch firstNonempty after]
      simp only [List.map_cons, List.sum_cons]

end Follows

/-! ## What the checks find -/

theorem firstOf_eq_ok_none_iff {α : Type} {inspect : α → Checked (Option String)}
    {items : List α} :
    firstOf inspect items = .ok none ↔ ∀ item ∈ items, inspect item = .ok none := by
  induction items with
  | nil => simp [firstOf]
  | cons item items inductionHypothesis =>
      rw [firstOf, Checked.bind_eq_ok_iff, List.forall_mem_cons, ← inductionHypothesis]
      constructor
      · rintro ⟨found, inspected, rest⟩
        cases found with
        | none => exact ⟨inspected, rest⟩
        | some message => cases rest
      · rintro ⟨inspected, rest⟩
        exact ⟨none, inspected, rest⟩

/-- A fault aside, lengths are added as they are. -/
theorem toNat_of_foldlM_length {spans : List Span} {sum result : UInt64}
    (summed : spans.foldlM (fun sum span => do Word.add sum (← span.length)) sum =
      (.ok result : Checked UInt64)) :
    result.toNat = sum.toNat + (spans.map Span.size).sum := by
  induction spans generalizing sum with
  | nil =>
      rcases Except.ok.inj summed with rfl
      simp
  | cons span spans inductionHypothesis =>
      rw [List.foldlM_cons] at summed
      rcases Checked.bind_eq_ok_iff.mp summed with ⟨next, added, rest⟩
      rcases Checked.bind_eq_ok_iff.mp added with ⟨length, measured, grown⟩
      have lengthEq := Word.sub_eq_ok_iff.mp measured
      have nextEq := Word.add_eq_ok_iff.mp grown
      have size : span.size = length.toNat := by
        rw [Span.size]
        omega
      rw [inductionHypothesis rest, List.map_cons, List.sum_cons]
      omega

/-- A party that passes does not claim more than there is, and its spans have as
many positions as it has sent. -/
theorem of_inspectCapacity {party : PartyView} (passes : inspectCapacity party = .ok none) :
    party.counters.sent.toNat + party.counters.seen.toNat ≤ party.counters.total.toNat ∧
      (party.spans ≠ [] → (party.spans.map Span.size).sum = party.counters.sent.toNat) := by
  unfold inspectCapacity at passes
  rcases Checked.bind_eq_ok_iff.mp passes with ⟨used, added, rest⟩
  have usedEq := Word.add_eq_ok_iff.mp added
  by_cases exceeds : party.counters.total < used
  · simp [exceeds] at rest
  · simp only [if_neg exceeds] at rest
    rcases Checked.bind_eq_ok_iff.mp rest with ⟨reserved, summed, compared⟩
    rw [UInt64.lt_iff_toNat_lt] at exceeds
    refine ⟨by omega, ?_⟩
    intro listed
    have covers : reserved = party.counters.sent := by
      by_contra differs
      simp [listed, differs] at compared
    have total := toNat_of_foldlM_length summed
    have zero : (0 : UInt64).toNat = 0 := rfl
    rw [← covers]
    omega

theorem of_monotonicity {system : SystemView} (passes : monotonicity.run system = .ok none)
    {party : PartyView} (mem : party ∈ system) :
    party.spans.IsChain fun last next => follows party.counters.role next last = true := by
  have inspected := Except.ok.inj (run_eq_ok_none_iff.mp passes)
  have found := List.findSome?_eq_none_iff.mp inspected party mem
  cases gap : firstGap party.counters.role party.spans with
  | none => exact firstGap_eq_none_iff.mp gap
  | some message => simp [gap] at found

theorem of_capacity {system : SystemView} (passes : capacity.run system = .ok none)
    {party : PartyView} (mem : party ∈ system) : inspectCapacity party = .ok none :=
  firstOf_eq_ok_none_iff.mp (run_eq_ok_none_iff.mp passes) party mem

/-- A party with spans that passes the checks of its own has consumed one stretch
of the region, in the direction of its role and without a gap.  It is the side of
the role, and the spans tile it, exactly when the first span is anchored. -/
theorem tiles_iff_anchors {system : SystemView} (monotone : monotonicity.run system = .ok none)
    (bounded : capacity.run system = .ok none) {party : PartyView} (mem : party ∈ system)
    {first : Span} {others : List Span} (listed : party.spans = first :: others)
    (nonempty : ∀ span ∈ party.spans, span.start < span.stop) :
    Span.covered party.spans =
        party.counters.role.stretch first party.counters.sent.toNat ∧
      (party.counters.role.Tiles party.counters.total.toNat party.spans.reverse
          party.counters.sent.toNat ↔
        party.counters.role.Anchors party.counters.total.toNat first) := by
  simp only [UInt64.lt_iff_toNat_lt] at nonempty
  have chain := of_monotonicity monotone mem
  rcases of_inspectCapacity (of_capacity bounded mem) with ⟨balanced, sum⟩
  have sum := sum (by simp [listed])
  constructor
  · rw [listed] at chain nonempty sum ⊢
    rw [covered_eq_stretch chain nonempty, sum]
  · constructor
    · intro tiles
      exact tiles.anchors (by simp [listed])
    · intro anchors
      have backwards := List.isChain_reverse.mpr chain
      have sumBackwards : (party.spans.reverse.map Span.size).sum =
          party.counters.sent.toNat := by
        rw [List.map_reverse, List.sum_reverse, sum]
      rw [← sumBackwards]
      apply tiles_of_follows backwards
      · intro span spanMem
        exact nonempty span (List.mem_reverse.mp spanMem)
      · intro span isFirst
        rw [listed, List.getLast?_reverse, List.head?_cons] at isFirst
        rwa [← Option.some.inj isFirst]
      · omega

/-- An initiator that has left out the first hundred positions. -/
def displaced : PartyView where
  counters := ⟨.initiator, 1000, 200, 0, false⟩
  spans := [⟨100, 196⟩, ⟨196, 300⟩]

/-- It passes both checks, although its spans tile no side. -/
theorem tiles_iff_anchors_displaced :
    monotonicity.run [displaced] = .ok none ∧ capacity.run [displaced] = .ok none ∧
      (∀ span ∈ displaced.spans, span.start < span.stop) ∧
      ¬ Role.initiator.Tiles 1000 displaced.spans.reverse 200 := by
  have monotone : monotonicity.run [displaced] = .ok none := rfl
  have bounded : capacity.run [displaced] = .ok none := rfl
  have nonempty : ∀ span ∈ displaced.spans, span.start < span.stop := by decide
  have exact := (tiles_iff_anchors monotone bounded List.mem_cons_self rfl nonempty).2
  have shifted : ¬ Role.initiator.Anchors 1000 ⟨100, 196⟩ := by
    change ¬ (100 : UInt64).toNat = 0
    decide
  exact ⟨monotone, bounded, nonempty, fun tiles => shifted (exact.mp tiles)⟩

end Check

end OneTimePad
