import OneTimePad.Proofs.Audit.Check

/-!
# The two views of reuse

Reuse is looked for in two ways.  The check of a system sorts all spans and
compares neighbours, and the audit is told of the spans one after the other and
compares each of them with what it holds.  On spans that can be consumed at all,
both find reuse exactly when two of them share a position.  For the audit it
makes no difference in which order and from which party the spans come.
-/

namespace OneTimePad

namespace ReuseAudit

/-- Record several spans, up to the first one that is refused. -/
def recordAll (audit : ReuseAudit) (calls : List (Role × Span)) : Except Violation ReuseAudit :=
  calls.foldlM (fun audit call => audit.record call.1 call.2) audit

variable {audit : ReuseAudit}

/-- All spans are accepted if they touch neither the entries nor each other. -/
theorem Orderly.recordAll_iff (orderly : audit.Orderly) {calls : List (Role × Span)}
    (nonempty : ∀ call ∈ calls, call.2.start.toNat < call.2.stop.toNat)
    (inside : ∀ call ∈ calls, call.2.stop.toNat ≤ audit.total.toNat) :
    (∃ final, audit.recordAll calls = .ok final) ↔
      (∀ call ∈ calls, ∀ entry ∈ audit.entries, Disjoint call.2.positions entry.1.positions) ∧
        calls.Pairwise fun left right => Disjoint left.2.positions right.2.positions := by
  induction calls generalizing audit with
  | nil => simp [recordAll, pure, Except.pure]
  | cons call calls inductionHypothesis =>
      rcases List.forall_mem_cons.mp nonempty with ⟨callNonempty, othersNonempty⟩
      rcases List.forall_mem_cons.mp inside with ⟨callInside, othersInside⟩
      have judges := orderly.judges call.1 call.2
      rw [recordAll, List.foldlM_cons]
      generalize audit.record call.1 call.2 = answer at judges
      cases judges with
      | invalid impossible => exact absurd ⟨callNonempty, callInside⟩ impossible
      | overlaps mem meets =>
          constructor
          · rintro ⟨final, refused⟩
            cases refused
          · rintro ⟨clear, -⟩
            exact absurd (clear call List.mem_cons_self _ mem) meets
      | accepts _ _ clear =>
          have accepted := orderly.accept callNonempty clear callInside call.1
          have rest := inductionHypothesis accepted othersNonempty othersInside
          change (∃ final, (audit.accept call.1 call.2).recordAll calls = .ok final) ↔ _
          rw [rest, List.forall_mem_cons, List.pairwise_cons]
          constructor
          · rintro ⟨apart, pairwise⟩
            refine ⟨⟨clear, ?_⟩, ?_, pairwise⟩
            · intro other mem entry entryMem
              exact apart other mem entry (mem_accept_iff.mpr (.inr entryMem))
            · intro other mem
              exact (apart other mem _ (mem_accept_iff.mpr (.inl rfl))).symm
          · rintro ⟨⟨-, apart⟩, clearOfCall, pairwise⟩
            refine ⟨?_, pairwise⟩
            intro other mem entry entryMem
            rcases mem_accept_iff.mp entryMem with rfl | entryMem
            · exact (clearOfCall other mem).symm
            · exact apart other mem entry entryMem

/-- A fresh audit accepts all of some spans exactly if no two of them meet. -/
theorem recordAll_fresh_iff {total : UInt64} {calls : List (Role × Span)}
    (nonempty : ∀ call ∈ calls, call.2.start.toNat < call.2.stop.toNat)
    (inside : ∀ call ∈ calls, call.2.stop.toNat ≤ total.toNat) :
    (∃ final, recordAll { total } calls = .ok final) ↔
      (calls.map (·.2)).Pairwise fun left right => Disjoint left.positions right.positions := by
  rw [(orderly_empty total).recordAll_iff nonempty inside, List.pairwise_map]
  simp

end ReuseAudit

namespace Check

/-- Of spans with positions, neighbours that do not meet are enough. -/
theorem pairwise_of_isChain {spans : List (Role × Span)}
    (nonempty : ∀ entry ∈ spans, entry.2.start.toNat < entry.2.stop.toNat)
    (chain : spans.IsChain fun left right => ¬ right.2.start < left.2.stop) :
    spans.Pairwise fun left right => left.2.stop.toNat ≤ right.2.start.toNat := by
  induction spans with
  | nil => exact .nil
  | cons left spans inductionHypothesis =>
      cases spans with
      | nil => exact List.pairwise_singleton _ _
      | cons right spans =>
          rcases List.isChain_cons_cons.mp chain with ⟨follows, rest⟩
          rcases List.forall_mem_cons.mp nonempty with ⟨-, others⟩
          have pairwise := inductionHypothesis others rest
          rw [UInt64.lt_iff_toNat_lt] at follows
          refine List.pairwise_cons.mpr ⟨?_, pairwise⟩
          intro entry mem
          have rightNonempty := others right List.mem_cons_self
          rcases List.mem_cons.mp mem with rfl | mem
          · omega
          · have later := (List.pairwise_cons.mp pairwise).1 entry mem
            omega

/-- Comparing neighbours finds every two spans that meet. -/
theorem noOverlap_passes_iff {system : SystemView}
    (nonempty : ∀ entry ∈ allSpans system, entry.2.start.toNat < entry.2.stop.toNat) :
    noOverlap.run system = .ok none ↔
      (allSpans system).Pairwise fun left right =>
        Disjoint left.2.positions right.2.positions := by
  rw [run_eq_ok_none_iff]
  constructor
  · intro passes
    have perm := sortedSpans_perm system
    have sortedNonempty : ∀ entry ∈ sortedSpans system,
        entry.2.start.toNat < entry.2.stop.toNat := by
      intro entry mem
      exact nonempty entry (perm.mem_iff.mp mem)
    have chain := firstOverlap_eq_none_iff.mp (Except.ok.inj passes)
    apply perm.pairwise _ fun disjoint => disjoint.symm
    apply (pairwise_of_isChain sortedNonempty chain).imp_of_mem
    intro left right leftMem rightMem ordered
    rw [Span.disjoint_positions_iff (sortedNonempty left leftMem) (sortedNonempty right rightMem)]
    exact .inl ordered
  · exact noOverlap_passes nonempty

/-- On spans that have positions and lie in the region, the check and the audit
find the same.  The check passes if no two spans share a position, and then the
audit accepts all of them, in whatever order and from whichever party it is told
of them; otherwise neither does. -/
theorem noOverlap_agrees_with_audit {system : SystemView} {total : UInt64}
    (possible : ∀ entry ∈ allSpans system, entry.2.start < entry.2.stop ∧ entry.2.stop ≤ total) :
    (noOverlap.run system = .ok none ↔
      ((allSpans system).map (·.2)).Pairwise fun left right =>
        Disjoint left.positions right.positions) ∧
    ∀ calls : List (Role × Span), (calls.map (·.2)).Perm ((allSpans system).map (·.2)) →
      (noOverlap.run system = .ok none ↔
        ∃ final, ReuseAudit.recordAll { total } calls = .ok final) := by
  simp only [UInt64.lt_iff_toNat_lt, UInt64.le_iff_toNat_le] at possible
  have passes := noOverlap_passes_iff fun entry mem => (possible entry mem).1
  rw [← List.pairwise_map (R := fun left right : Span =>
    Disjoint left.positions right.positions)] at passes
  refine ⟨passes, ?_⟩
  intro calls perm
  have known : ∀ call ∈ calls, call.2.start.toNat < call.2.stop.toNat ∧
      call.2.stop.toNat ≤ total.toNat := by
    intro call mem
    have spanMem := perm.mem_iff.mp (List.mem_map_of_mem mem)
    rcases List.mem_map.mp spanMem with ⟨entry, entryMem, same⟩
    rw [← same]
    exact possible entry entryMem
  rw [passes, ReuseAudit.recordAll_fresh_iff (fun call mem => (known call mem).1)
    fun call mem => (known call mem).2]
  exact (perm.pairwise_iff fun disjoint => disjoint.symm).symm

/-- Two parties that have consumed 296 of 1000 positions. -/
def twoParties : SystemView :=
  [{ counters := ⟨.initiator, 1000, 200, 96, false⟩, spans := [⟨0, 96⟩, ⟨96, 200⟩] },
    { counters := ⟨.responder, 1000, 96, 200, false⟩, spans := [⟨904, 1000⟩] }]

/-- Their spans in another order, each of them from the other party. -/
def twoPartiesMixedUp : List (Role × Span) :=
  [(.initiator, ⟨904, 1000⟩), (.responder, ⟨96, 200⟩), (.responder, ⟨0, 96⟩)]

theorem noOverlap_agrees_with_audit_two_parties :
    (∀ entry ∈ allSpans twoParties, entry.2.start < entry.2.stop ∧ entry.2.stop ≤ 1000) ∧
      (twoPartiesMixedUp.map (·.2)).Perm ((allSpans twoParties).map (·.2)) ∧
      (∃ final, ReuseAudit.recordAll { total := 1000 } twoPartiesMixedUp = .ok final) ∧
      noOverlap.run twoParties = .ok none := by
  have possible : ∀ entry ∈ allSpans twoParties,
      entry.2.start < entry.2.stop ∧ entry.2.stop ≤ 1000 := by decide
  have perm : (twoPartiesMixedUp.map (·.2)).Perm ((allSpans twoParties).map (·.2)) := by decide
  have accepted : ∃ final, ReuseAudit.recordAll { total := 1000 } twoPartiesMixedUp = .ok final :=
    ⟨_, rfl⟩
  exact ⟨possible, perm, accepted,
    ((noOverlap_agrees_with_audit possible).2 twoPartiesMixedUp perm).mpr accepted⟩

end Check

end OneTimePad
