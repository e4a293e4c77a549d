import OneTimePad.Proofs.Ledger.Coverage
import OneTimePad.Proofs.Audit.Check

/-!
# Exact detection of reuse

Whatever the audit is told, by either party and in any order, it accepts exactly
the spans that a list of all accepted spans would let through: those that have
positions, lie in the region and touch none of the earlier ones.  The entries
are always the accepted spans, put in order.  So they never meet, their lengths
add up to the number of positions that they cover, and the spans of a party are
those that were accepted from it.
-/

namespace OneTimePad

/-- A span that may be consumed after others: it has positions, all of them
belong to the region, and none was consumed before. -/
structure Span.Admissible (total : UInt64) (taken : List Span) (span : Span) : Prop where
  nonempty : span.start < span.stop
  inside : span.stop ≤ total
  apart : ∀ earlier ∈ taken, Disjoint span.positions earlier.positions

namespace ReuseAudit

variable {audit : ReuseAudit}

section Orderly

variable (orderly : audit.Orderly)

include orderly

theorem Orderly.pairwise_disjoint :
    audit.entries.Pairwise fun left right => Disjoint left.1.positions right.1.positions := by
  apply orderly.ordered.imp_of_mem
  intro left right leftMem rightMem ordered
  rw [Span.disjoint_positions_iff (orderly.nonempty left leftMem) (orderly.nonempty right rightMem)]
  exact .inl ordered

/-- The lengths of the entries fit a word together, since no position of the
region is counted twice. -/
theorem Orderly.consumed_eq_ok :
    ∃ amount, audit.consumed = .ok amount ∧
      amount.toNat = (Span.covered (audit.entries.map (·.1))).ncard ∧
      amount.toNat ≤ audit.total.toNat := by
  let spans := audit.entries.map (·.1)
  have nonempty : ∀ span ∈ spans, span.start.toNat < span.stop.toNat :=
    List.forall_mem_map.mpr orderly.nonempty
  have inside : ∀ span ∈ spans, span.stop.toNat ≤ audit.total.toNat :=
    List.forall_mem_map.mpr orderly.inside
  have sum : (spans.map Span.size).sum = (Span.covered spans).ncard :=
    Span.sum_size_eq_ncard (List.pairwise_map.mpr orderly.pairwise_disjoint)
  have bounded := Span.ncard_covered_le inside
  have totalLt := Word.toNat_lt audit.total
  have zero : (0 : UInt64).toNat = 0 := rfl
  have fits : (0 : UInt64).toNat + (spans.map Span.size).sum < wordLimit := by omega
  refine ⟨_, Check.foldlM_length_eq_ok (fun span mem => (nonempty span mem).le) fits, ?_⟩
  rw [Word.toNat_ofNat fits, zero, Nat.zero_add, sum]
  exact ⟨rfl, bounded⟩

end Orderly

/-- An audit, and what it has accepted in the order of the calls. -/
structure Journal where
  audit : ReuseAudit
  accepted : List (Role × Span) := []

namespace Journal

/-- The spans that were accepted, from either party. -/
def spans (journal : Journal) : List Span :=
  journal.accepted.map (·.2)

/-- The spans that were accepted from one party. -/
def spansFrom (journal : Journal) (role : Role) : List Span :=
  (journal.accepted.filter fun call => call.1 = role).map (·.2)

/-- Tell the audit of one more span.  If it is refused, nothing changes. -/
def next (journal : Journal) (call : Role × Span) : Journal :=
  match journal.audit.record call.1 call.2 with
  | .error _ => journal
  | .ok audit => { audit, accepted := journal.accepted ++ [call] }

/-- Tell a fresh audit of several spans, one after the other. -/
def ofCalls (total : UInt64) (calls : List (Role × Span)) : Journal :=
  calls.foldl next { audit := { total } }

/-- The entries of the audit are what it has accepted, and nothing else. -/
structure Faithful (journal : Journal) (total : UInt64) : Prop where
  orderly : journal.audit.Orderly
  total_eq : journal.audit.total = total
  entries_perm : journal.audit.entries.Perm (journal.accepted.map Prod.swap)

/-- What the audit tells of the spans that it has accepted. -/
structure Detects (journal : Journal) (total : UInt64) : Prop where
  /-- A span is accepted exactly if it has positions, lies in the region and
  touches no accepted one. -/
  record_iff : ∀ role span, (∃ after, journal.audit.record role span = .ok after) ↔
    span.Admissible total journal.spans
  /-- An accepted span is one more. -/
  accepted_next : ∀ call, call.2.Admissible total journal.spans →
    (journal.next call).accepted = journal.accepted ++ [call]
  /-- A refused span changes nothing. -/
  next_eq_self : ∀ call, ¬ call.2.Admissible total journal.spans → journal.next call = journal
  /-- No two entries share a position. -/
  apart : journal.audit.entries.Pairwise fun left right =>
    Disjoint left.1.positions right.1.positions
  /-- Every position is counted once. -/
  consumed : ∃ amount, journal.audit.consumed = .ok amount ∧
    amount.toNat = (Span.covered journal.spans).ncard ∧ amount ≤ total
  /-- The spans of a party are those that were accepted from it. -/
  spansOf_perm : ∀ role, (journal.audit.spansOf role).Perm (journal.spansFrom role)
  /-- They are in increasing order. -/
  spansOf_increasing : ∀ role, (journal.audit.spansOf role).Pairwise fun left right =>
    left.start < right.start

variable {journal : Journal} {total : UInt64}

theorem faithful_fresh (total : UInt64) : Faithful { audit := { total } } total :=
  ⟨orderly_empty total, rfl, .nil⟩

section Faithful

variable (faithful : journal.Faithful total)

include faithful

theorem Faithful.spans_perm : (journal.audit.entries.map (·.1)).Perm journal.spans := by
  have perm := faithful.entries_perm.map (·.1)
  rwa [List.map_map] at perm

theorem Faithful.spansOf_perm (role : Role) :
    (journal.audit.spansOf role).Perm (journal.spansFrom role) := by
  have perm := (faithful.entries_perm.filter fun entry => entry.2 = role).map (·.1)
  rwa [List.filter_map, List.map_map] at perm

theorem Faithful.spansOf_increasing (role : Role) :
    (journal.audit.spansOf role).Pairwise fun left right => left.start < right.start := by
  rw [spansOf, List.pairwise_map]
  apply List.Pairwise.filter
  apply faithful.orderly.ordered.imp_of_mem
  intro left right leftMem _ follows
  have nonempty := faithful.orderly.nonempty left leftMem
  rw [UInt64.lt_iff_toNat_lt]
  omega

theorem Faithful.apart_iff {span : Span} :
    (∀ entry ∈ journal.audit.entries, Disjoint span.positions entry.1.positions) ↔
      ∀ earlier ∈ journal.spans, Disjoint span.positions earlier.positions := by
  simp only [← faithful.spans_perm.mem_iff, List.forall_mem_map]

/-- What was accepted before decides about the next call. -/
theorem Faithful.next_cases (call : Role × Span) :
    (call.2.Admissible total journal.spans ∧
        journal.audit.record call.1 call.2 = .ok (journal.audit.accept call.1 call.2) ∧
        journal.next call =
          ⟨journal.audit.accept call.1 call.2, journal.accepted ++ [call]⟩) ∨
      ¬ call.2.Admissible total journal.spans ∧
        (∃ violation, journal.audit.record call.1 call.2 = .error violation) ∧
        journal.next call = journal := by
  unfold Journal.next
  have judges := faithful.orderly.judges call.1 call.2
  have total_eq := faithful.total_eq
  generalize journal.audit.record call.1 call.2 = answer at judges
  cases judges with
  | invalid impossible =>
      refine .inr ⟨?_, ⟨_, rfl⟩, rfl⟩
      intro admissible
      apply impossible
      rw [total_eq, ← UInt64.lt_iff_toNat_lt, ← UInt64.le_iff_toNat_le]
      exact ⟨admissible.nonempty, admissible.inside⟩
  | overlaps mem meets =>
      refine .inr ⟨?_, ⟨_, rfl⟩, rfl⟩
      intro admissible
      exact meets (faithful.apart_iff.mpr admissible.apart _ mem)
  | accepts nonempty inside clear =>
      rw [total_eq] at inside
      exact .inl ⟨⟨UInt64.lt_iff_toNat_lt.mpr nonempty, UInt64.le_iff_toNat_le.mpr inside,
        faithful.apart_iff.mp clear⟩, rfl, rfl⟩

theorem Faithful.next (call : Role × Span) : (journal.next call).Faithful total := by
  rcases faithful.next_cases call with ⟨admissible, -, next⟩ | ⟨-, -, next⟩
  · have nonempty := UInt64.lt_iff_toNat_lt.mp admissible.nonempty
    have inside := UInt64.le_iff_toNat_le.mp admissible.inside
    have clear := faithful.apart_iff.mpr admissible.apart
    rw [← faithful.total_eq] at inside
    rw [next]
    refine ⟨faithful.orderly.accept nonempty clear inside call.1, faithful.total_eq, ?_⟩
    rw [List.map_append]
    calc
      (journal.audit.accept call.1 call.2).entries.Perm (call.swap :: journal.audit.entries) :=
        entries_accept_perm journal.audit call.1 call.2
      _ |>.Perm (call.swap :: journal.accepted.map Prod.swap) := faithful.entries_perm.cons _
      _ |>.Perm (journal.accepted.map Prod.swap ++ [call.swap]) :=
        (List.perm_append_singleton _ _).symm
  · rw [next]
    exact faithful

theorem Faithful.record_iff (role : Role) (span : Span) :
    (∃ after, journal.audit.record role span = .ok after) ↔
      span.Admissible total journal.spans := by
  rcases faithful.next_cases (role, span) with ⟨admissible, accepted, -⟩ | ⟨not, refusal, -⟩
  · exact ⟨fun _ => admissible, fun _ => ⟨_, accepted⟩⟩
  · rcases refusal with ⟨violation, refused⟩
    constructor
    · rintro ⟨after, accepted⟩
      cases refused.symm.trans accepted
    · intro admissible
      exact absurd admissible not

theorem Faithful.accepted_next {call : Role × Span}
    (admissible : call.2.Admissible total journal.spans) :
    (journal.next call).accepted = journal.accepted ++ [call] := by
  rcases faithful.next_cases call with ⟨-, -, next⟩ | ⟨not, -, -⟩
  · rw [next]
  · exact absurd admissible not

theorem Faithful.next_eq_self {call : Role × Span}
    (not : ¬ call.2.Admissible total journal.spans) : journal.next call = journal := by
  rcases faithful.next_cases call with ⟨admissible, -, -⟩ | ⟨-, -, next⟩
  · exact absurd admissible not
  · exact next

/-- Every position that was accepted is counted, and none of them twice. -/
theorem Faithful.consumed_eq_ok :
    ∃ amount, journal.audit.consumed = .ok amount ∧
      amount.toNat = (Span.covered journal.spans).ncard ∧ amount ≤ total := by
  rcases faithful.orderly.consumed_eq_ok with ⟨amount, consumed, exact, bounded⟩
  rw [Span.covered_congr faithful.spans_perm] at exact
  rw [faithful.total_eq] at bounded
  exact ⟨amount, consumed, exact, UInt64.le_iff_toNat_le.mpr bounded⟩

end Faithful

theorem Faithful.foldl (faithful : journal.Faithful total) (calls : List (Role × Span)) :
    (calls.foldl Journal.next journal).Faithful total := by
  induction calls generalizing journal with
  | nil => exact faithful
  | cons call calls inductionHypothesis => exact inductionHypothesis (faithful.next call)

/-- A fresh audit that was told of any spans, by either party and in any order,
detects exactly the reuse of what it has accepted. -/
theorem detects_ofCalls (total : UInt64) (calls : List (Role × Span)) :
    (ofCalls total calls).Detects total :=
  have faithful := (faithful_fresh total).foldl calls
  { record_iff := faithful.record_iff
    accepted_next := fun _ => faithful.accepted_next
    next_eq_self := fun _ => faithful.next_eq_self
    apart := faithful.orderly.pairwise_disjoint
    consumed := faithful.consumed_eq_ok
    spansOf_perm := faithful.spansOf_perm
    spansOf_increasing := faithful.spansOf_increasing }

end Journal

end ReuseAudit

end OneTimePad
