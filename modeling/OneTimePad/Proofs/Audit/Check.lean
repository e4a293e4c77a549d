import Mathlib.Data.List.Chain
import OneTimePad.Audit.Check
import OneTimePad.Proofs.Audit.Reuse
import OneTimePad.Proofs.Ledger.Tiling

/-!
# The standard checks

Three of the checks walk over a list and compare neighbours; they find nothing
exactly when the list is a chain.  A party whose spans tile its side, whose
counters are balanced and whose views never fall passes all checks of its own,
and two such parties pass the others when their sides do not meet.
-/

namespace OneTimePad.Check

/-- A check passes if it finds nothing to say. -/
theorem run_eq_ok_none_iff {check : Check} {system : SystemView} :
    check.run system = .ok none ↔ check.inspect system = .ok none := by
  unfold run
  rw [Checked.bind_eq_ok_iff]
  simp

/-! ## Walks over neighbours -/

theorem firstOverlap_eq_none_iff {spans : List (Role × Span)} :
    firstOverlap spans = none ↔ spans.IsChain fun left right => ¬ right.2.start < left.2.stop := by
  induction spans with
  | nil => simp [firstOverlap]
  | cons left spans inductionHypothesis =>
      cases spans with
      | nil => simp [firstOverlap]
      | cons right spans =>
          rw [List.isChain_cons_cons, ← inductionHypothesis, firstOverlap]
          by_cases overlap : right.2.start < left.2.stop
          · simp [overlap]
          · simp [overlap]

theorem firstGap_eq_none_iff {role : Role} {spans : List Span} :
    firstGap role spans = none ↔ spans.IsChain fun last next => follows role next last = true := by
  induction spans with
  | nil => simp [firstGap]
  | cons last spans inductionHypothesis =>
      cases spans with
      | nil => simp [firstGap]
      | cons next spans =>
          rw [List.isChain_cons_cons, ← inductionHypothesis, firstGap]
          cases follows role next last with
          | false => simp
          | true => simp

theorem firstDecrease_eq_none_iff {role : Role} {history : List UInt64} :
    firstDecrease role history = none ↔ history.IsChain fun last next => ¬ next < last := by
  induction history with
  | nil => simp [firstDecrease]
  | cons last history inductionHypothesis =>
      cases history with
      | nil => simp [firstDecrease]
      | cons next history =>
          rw [List.isChain_cons_cons, ← inductionHypothesis, firstDecrease]
          by_cases falls : next < last
          · simp [falls]
          · simp [falls]

/-! ## Spans of all parties -/

/-- All spans with the roles of their parties. -/
def allSpans (system : SystemView) : List (Role × Span) :=
  system.flatMap fun party => party.spans.map fun span => (party.counters.role, span)

theorem sortedSpans_perm (system : SystemView) : (sortedSpans system).Perm (allSpans system) :=
  List.mergeSort_perm _ _

theorem sortedSpans_pairwise (system : SystemView) :
    (sortedSpans system).Pairwise fun left right =>
      left.2.start.toNat ≤ right.2.start.toNat := by
  have transitive : ∀ first second third : Role × Span,
      decide (first.2.start ≤ second.2.start) = true →
        decide (second.2.start ≤ third.2.start) = true →
          decide (first.2.start ≤ third.2.start) = true := by
    simp only [decide_eq_true_eq, UInt64.le_iff_toNat_le]
    omega
  have total : ∀ first second : Role × Span,
      (decide (first.2.start ≤ second.2.start) || decide (second.2.start ≤ first.2.start)) =
        true := by
    simp only [Bool.or_eq_true, decide_eq_true_eq, UInt64.le_iff_toNat_le]
    omega
  apply (List.pairwise_mergeSort transitive total (allSpans system)).imp
  intro left right ordered
  rwa [decide_eq_true_eq, UInt64.le_iff_toNat_le] at ordered

/-- Spans with positions pass if no two of them meet. -/
theorem noOverlap_passes {system : SystemView}
    (nonempty : ∀ entry ∈ allSpans system, entry.2.start.toNat < entry.2.stop.toNat)
    (apart : (allSpans system).Pairwise fun left right =>
      Disjoint left.2.positions right.2.positions) :
    noOverlap.inspect system = .ok none := by
  have perm := sortedSpans_perm system
  have sortedApart := perm.symm.pairwise apart fun disjoint => disjoint.symm
  have ordered := (sortedSpans_pairwise system).and sortedApart
  apply congrArg Except.ok
  rw [firstOverlap_eq_none_iff]
  apply List.Pairwise.isChain
  apply ordered.imp_of_mem
  intro left right leftMem rightMem both
  have leftNonempty := nonempty left (perm.mem_iff.mp leftMem)
  have rightNonempty := nonempty right (perm.mem_iff.mp rightMem)
  have disjoint := (Span.disjoint_positions_iff leftNonempty rightNonempty).mp both.2
  rw [UInt64.lt_iff_toNat_lt]
  omega

/-! ## One party -/

/-- The spans of a party tile its side, its counters are balanced, and its
views of the other party never fall. -/
structure Regular (party : PartyView) : Prop where
  balanced : party.counters.sent.toNat + party.counters.seen.toNat ≤ party.counters.total.toNat
  tiles : party.counters.role.Tiles party.counters.total.toNat party.spans.reverse
    party.counters.sent.toNat
  rising : party.history.Pairwise fun last next => last.toNat ≤ next.toNat

theorem follows_initiator_iff {next last : Span} :
    follows .initiator next last = true ↔ next.start.toNat = last.stop.toNat := by
  simp only [follows, decide_eq_true_eq, ← UInt64.toNat_inj]

theorem follows_responder_iff {next last : Span} :
    follows .responder next last = true ↔ next.stop.toNat = last.start.toNat := by
  simp only [follows, decide_eq_true_eq, ← UInt64.toNat_inj]

/-- A span follows the last one of a tiling if it begins where the role takes its
next positions. -/
theorem follows_iff_of_tiles {role : Role} {total taken : Nat} {spans : List Span}
    {next last : Span} (tiles : role.Tiles total (last :: spans) taken)
    (nonempty : next.start.toNat < next.stop.toNat) (fits : taken + next.size ≤ total) :
    follows role next last = true ↔
      next.start.toNat = role.nextStart total taken next.size := by
  have size : next.size = next.stop.toNat - next.start.toNat := rfl
  cases tiles with
  | cons _ _ _ lastStart lastStop =>
      cases role with
      | initiator =>
          rw [Role.nextStart] at lastStop
          rw [follows_initiator_iff, Role.nextStart, lastStop]
      | responder =>
          rw [Role.nextStart] at lastStart
          rw [follows_responder_iff, Role.nextStart, lastStart]
          omega

theorem follows_of_tiles {role : Role} {total taken : Nat} {spans : List Span}
    (tiles : role.Tiles total spans taken) :
    spans.IsChain fun next last => follows role next last = true := by
  induction tiles with
  | nil => exact .nil
  | @cons spans taken length next earlier nonempty fits start stop inductionHypothesis =>
      have nextNonempty : next.start.toNat < next.stop.toNat := by omega
      have size : length = next.size := by
        rw [Span.size]
        omega
      subst size
      cases spans with
      | nil => exact .singleton _
      | cons last spans =>
          have after := follows_iff_of_tiles earlier nextNonempty fits
          exact List.isChain_cons_cons.mpr ⟨after.mpr start, inductionHypothesis⟩

theorem Regular.firstGap_eq_none {party : PartyView} (regular : Regular party) :
    firstGap party.counters.role party.spans = none := by
  have chain := follows_of_tiles regular.tiles
  rw [List.isChain_reverse] at chain
  exact firstGap_eq_none_iff.mpr chain

theorem Regular.firstDecrease_eq_none {party : PartyView} (regular : Regular party) :
    firstDecrease party.counters.role party.history = none := by
  rw [firstDecrease_eq_none_iff]
  apply List.Pairwise.isChain
  apply regular.rising.imp
  intro last next rises
  rw [UInt64.lt_iff_toNat_lt]
  omega

theorem length_eq_ok {span : Span} (ordered : span.start.toNat ≤ span.stop.toNat) :
    span.length = .ok (UInt64.ofNat span.size) :=
  Word.sub_eq_ok ordered

/-- Lengths that fit a word together are summed without a fault. -/
theorem foldlM_length_eq_ok {spans : List Span} {sum : UInt64}
    (ordered : ∀ span ∈ spans, span.start.toNat ≤ span.stop.toNat)
    (fits : sum.toNat + (spans.map Span.size).sum < wordLimit) :
    spans.foldlM (fun sum span => do Word.add sum (← span.length)) sum =
      (.ok (UInt64.ofNat (sum.toNat + (spans.map Span.size).sum)) : Checked UInt64) := by
  induction spans generalizing sum with
  | nil => simp
  | cons span spans inductionHypothesis =>
      rcases List.forall_mem_cons.mp ordered with ⟨first, others⟩
      rw [List.map_cons, List.sum_cons] at fits ⊢
      have size : (UInt64.ofNat span.size).toNat = span.size := Word.toNat_ofNat (by omega)
      have added : Word.add sum (UInt64.ofNat span.size) =
          .ok (UInt64.ofNat (sum.toNat + span.size)) := by
        rw [Word.add_eq_ok (by omega), size]
      have next : (UInt64.ofNat (sum.toNat + span.size)).toNat = sum.toNat + span.size :=
        Word.toNat_ofNat (by omega)
      rw [List.foldlM_cons, length_eq_ok first, Checked.ok_bind, added, Checked.ok_bind,
        inductionHypothesis others (by omega), next, Nat.add_assoc]

theorem totalLength_of_tiles {role : Role} {total sent : UInt64} {spans : List Span}
    (tiles : role.Tiles total.toNat spans.reverse sent.toNat) :
    ReuseAudit.totalLength spans = .ok sent := by
  have ordered : ∀ span ∈ spans, span.start.toNat ≤ span.stop.toNat := by
    intro span mem
    exact (tiles.start_lt_stop span (List.mem_reverse.mpr mem)).le
  have sum : (spans.map Span.size).sum = sent.toNat := by
    rw [← tiles.sum_size, List.map_reverse, List.sum_reverse]
  have fits : (0 : UInt64).toNat + (spans.map Span.size).sum < wordLimit := by
    rw [sum]
    simpa using Word.toNat_lt sent
  rw [ReuseAudit.totalLength, foldlM_length_eq_ok ordered fits, sum]
  simp

theorem Regular.inspectCapacity_eq {party : PartyView} (regular : Regular party) :
    inspectCapacity party = .ok none := by
  have balanced := regular.balanced
  have totalLt := Word.toNat_lt party.counters.total
  obtain ⟨used, usedEq, usedNat⟩ : ∃ used,
      Word.add party.counters.sent party.counters.seen = .ok used ∧
        used.toNat = party.counters.sent.toNat + party.counters.seen.toNat :=
    ⟨_, Word.add_eq_ok (by omega), Word.toNat_ofNat (by omega)⟩
  have enough : ¬ party.counters.total < used := by
    rw [UInt64.lt_iff_toNat_lt]
    omega
  simp [inspectCapacity, usedEq, enough, totalLength_of_tiles regular.tiles]

theorem Regular.nonempty {party : PartyView} (regular : Regular party) :
    ∀ span ∈ party.spans, span.start.toNat < span.stop.toNat := by
  intro span mem
  exact regular.tiles.start_lt_stop span (List.mem_reverse.mpr mem)

theorem Regular.positions_subset_side {party : PartyView} (regular : Regular party) :
    ∀ span ∈ party.spans,
      span.positions ⊆
        party.counters.role.side party.counters.total.toNat party.counters.sent.toNat := by
  intro span mem
  exact regular.tiles.positions_subset_side span (List.mem_reverse.mpr mem)

theorem Regular.apart {party : PartyView} (regular : Regular party) :
    party.spans.Pairwise fun left right => Disjoint left.positions right.positions := by
  have apart := regular.tiles.pairwise_disjoint
  rw [List.pairwise_map, List.pairwise_reverse] at apart
  exact apart.imp fun disjoint => disjoint.symm

theorem inspectView_eq_none {viewer peer : PartyView}
    (bounded : viewer.counters.seen.toNat ≤ peer.counters.sent.toNat) :
    inspectView viewer peer = none := by
  have notOver : ¬ peer.counters.sent < viewer.counters.seen := by
    rw [UInt64.lt_iff_toNat_lt]
    omega
  exact if_neg notOver

/-! ## Two parties -/

section Parties

variable {initiator responder : PartyView} (initiatorRegular : Regular initiator)
  (responderRegular : Regular responder)

include initiatorRegular responderRegular

theorem monotonicity_passes : monotonicity.inspect [initiator, responder] = .ok none := by
  simp [monotonicity, initiatorRegular.firstGap_eq_none, initiatorRegular.firstDecrease_eq_none,
    responderRegular.firstGap_eq_none, responderRegular.firstDecrease_eq_none]

theorem capacity_passes : capacity.inspect [initiator, responder] = .ok none := by
  simp [capacity, firstOf, initiatorRegular.inspectCapacity_eq,
    responderRegular.inspectCapacity_eq]

variable (roles : initiator.counters.role = .initiator ∧ responder.counters.role = .responder)
  (sameTotal : initiator.counters.total = responder.counters.total)
  (fits : initiator.counters.sent.toNat + responder.counters.sent.toNat ≤
    initiator.counters.total.toNat)

include roles sameTotal fits

/-- The sides of the parties do not meet, and on its own side each of them has
no position twice. -/
theorem noOverlap_passes_of_regular : noOverlap.inspect [initiator, responder] = .ok none := by
  have members : allSpans [initiator, responder] =
      initiator.spans.map (fun span => (initiator.counters.role, span)) ++
        responder.spans.map (fun span => (responder.counters.role, span)) := by
    simp [allSpans]
  apply noOverlap_passes
  · rw [members]
    intro entry mem
    rcases List.mem_append.mp mem with mem | mem
    · rcases List.mem_map.mp mem with ⟨span, spanMem, rfl⟩
      exact initiatorRegular.nonempty span spanMem
    · rcases List.mem_map.mp mem with ⟨span, spanMem, rfl⟩
      exact responderRegular.nonempty span spanMem
  · rw [members, List.pairwise_append, List.pairwise_map, List.pairwise_map]
    refine ⟨initiatorRegular.apart, responderRegular.apart, ?_⟩
    intro left leftMem right rightMem
    rcases List.mem_map.mp leftMem with ⟨leftSpan, leftSpanMem, rfl⟩
    rcases List.mem_map.mp rightMem with ⟨rightSpan, rightSpanMem, rfl⟩
    have leftInside := initiatorRegular.positions_subset_side leftSpan leftSpanMem
    have rightInside := responderRegular.positions_subset_side rightSpan rightSpanMem
    rw [roles.1] at leftInside
    rw [roles.2, ← sameTotal] at rightInside
    exact (Role.disjoint_side_peer fits).mono leftInside rightInside

/-- Two parties that keep to their sides pass all standard checks, if neither
believes more of the other than is true. -/
theorem runAll_standard_eq_nil
    (initiatorBounded : initiator.counters.seen.toNat ≤ responder.counters.sent.toNat)
    (responderBounded : responder.counters.seen.toNat ≤ initiator.counters.sent.toNat) :
    runAll standard [initiator, responder] = .ok [] := by
  have overlap := noOverlap_passes_of_regular initiatorRegular responderRegular roles sameTotal fits
  have monotone := monotonicity_passes initiatorRegular responderRegular
  have bound := capacity_passes initiatorRegular responderRegular
  have view : peerView.inspect [initiator, responder] = .ok none := by
    simp [peerView, SystemView.party?, roles.1, roles.2, inspectView_eq_none initiatorBounded,
      inspectView_eq_none responderBounded]
  simp [runAll, standard, run, overlap, monotone, bound, view]

end Parties

end OneTimePad.Check
