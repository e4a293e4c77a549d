import Mathlib.Data.List.TakeWhile
import OneTimePad.Audit.Reuse
import OneTimePad.Proofs.Ledger.Geometry

/-!
# The reuse audit

The entries of the audit are in the order of their starts, and each of them
ends before the next one starts.  So a span that touches any entry touches one
of its two neighbours, which are all that is looked at: it is refused if it does,
and accepted if it does not.
-/

namespace OneTimePad

/-- Spans with positions are disjoint when one of them ends before the other
one starts. -/
theorem Span.disjoint_positions_iff {left right : Span}
    (leftNonempty : left.start.toNat < left.stop.toNat)
    (rightNonempty : right.start.toNat < right.stop.toNat) :
    Disjoint left.positions right.positions ↔
      left.stop.toNat ≤ right.start.toNat ∨ right.stop.toNat ≤ left.start.toNat := by
  rw [positions, positions, Set.Ico_disjoint_Ico]
  omega

namespace ReuseAudit

/-- The entries lie in the region one after the other. -/
structure Orderly (audit : ReuseAudit) : Prop where
  ordered : audit.entries.Pairwise fun left right => left.1.stop.toNat ≤ right.1.start.toNat
  nonempty : ∀ entry ∈ audit.entries, entry.1.start.toNat < entry.1.stop.toNat
  inside : ∀ entry ∈ audit.entries, entry.1.stop.toNat ≤ audit.total.toNat

/-- The audit once it has accepted a span. -/
def accept (audit : ReuseAudit) (role : Role) (span : Span) : ReuseAudit :=
  { audit with entries := audit.upTo span.start ++ (span, role) :: audit.beyond span.start }

/-- What the audit answers to a span, and why. -/
inductive Judges (audit : ReuseAudit) (role : Role) (span : Span) :
    Except Violation ReuseAudit → Prop where
  | invalid
      (impossible : ¬ (span.start.toNat < span.stop.toNat ∧
        span.stop.toNat ≤ audit.total.toNat)) :
      Judges audit role span (.error (audit.invalid role span))
  | overlaps {entry : Span × Role} (mem : entry ∈ audit.entries)
      (meets : ¬ Disjoint span.positions entry.1.positions) :
      Judges audit role span (.error (overlap role span entry))
  | accepts (nonempty : span.start.toNat < span.stop.toNat)
      (inside : span.stop.toNat ≤ audit.total.toNat)
      (clear : ∀ entry ∈ audit.entries, Disjoint span.positions entry.1.positions) :
      Judges audit role span (.ok (audit.accept role span))

variable {audit : ReuseAudit} {role : Role} {span : Span} {position : UInt64}

theorem orderly_empty (total : UInt64) : Orderly { total } :=
  ⟨.nil, by simp, by simp⟩

theorem upTo_append_beyond (audit : ReuseAudit) (position : UInt64) :
    audit.upTo position ++ audit.beyond position = audit.entries :=
  List.takeWhile_append_dropWhile

theorem mem_of_mem_upTo {entry : Span × Role} (mem : entry ∈ audit.upTo position) :
    entry ∈ audit.entries := by
  rw [← audit.upTo_append_beyond position]
  exact List.mem_append_left _ mem

theorem mem_of_mem_beyond {entry : Span × Role} (mem : entry ∈ audit.beyond position) :
    entry ∈ audit.entries := by
  rw [← audit.upTo_append_beyond position]
  exact List.mem_append_right _ mem

theorem start_le_of_mem_upTo {entry : Span × Role} (mem : entry ∈ audit.upTo position) :
    entry.1.start.toNat ≤ position.toNat := by
  have starts := List.mem_takeWhile_imp mem
  rwa [decide_eq_true_eq, UInt64.le_iff_toNat_le] at starts

theorem lt_start_of_head?_beyond {entry : Span × Role}
    (first : (audit.beyond position).head? = some entry) :
    position.toNat < entry.1.start.toNat := by
  have fails := List.head?_dropWhile_not
    (fun entry : Span × Role => decide (entry.1.start ≤ position)) audit.entries
  rw [beyond] at first
  rw [first] at fails
  simpa [UInt64.le_iff_toNat_le] using fails

/-- An accepted span is one more entry. -/
theorem entries_accept_perm (audit : ReuseAudit) (role : Role) (span : Span) :
    (audit.accept role span).entries.Perm ((span, role) :: audit.entries) := by
  rw [accept, ← audit.upTo_append_beyond span.start]
  exact List.perm_middle

theorem mem_accept_iff {entry : Span × Role} :
    entry ∈ (audit.accept role span).entries ↔ entry = (span, role) ∨ entry ∈ audit.entries :=
  (entries_accept_perm audit role span).mem_iff.trans List.mem_cons

section Orderly

variable (orderly : audit.Orderly)

include orderly

/-- When the first of the later entries starts in time, all of them do. -/
theorem Orderly.le_start_of_first_beyond {bound : Nat}
    (begins : ∀ entry, (audit.beyond position).head? = some entry →
      bound ≤ entry.1.start.toNat)
    {entry : Span × Role} (mem : entry ∈ audit.beyond position) :
    bound ≤ entry.1.start.toNat := by
  have ordered := orderly.ordered
  rw [← audit.upTo_append_beyond position, List.pairwise_append] at ordered
  cases rest : audit.beyond position with
  | nil =>
      rw [rest] at mem
      cases mem
  | cons first others =>
      have firstStart := begins first (by rw [rest, List.head?_cons])
      have firstNonempty := orderly.nonempty first (mem_of_mem_beyond (rest ▸ List.mem_cons_self))
      rw [rest] at mem ordered
      rcases List.mem_cons.mp mem with rfl | mem
      · exact firstStart
      · have follows := (List.pairwise_cons.mp ordered.2.1).1 entry mem
        omega

/-- The entries that are not at the front start later: the first one does, and
the others follow it. -/
theorem Orderly.lt_start_of_mem_beyond {entry : Span × Role}
    (mem : entry ∈ audit.beyond position) : position.toNat < entry.1.start.toNat := by
  have begins : ∀ first, (audit.beyond position).head? = some first →
      position.toNat + 1 ≤ first.1.start.toNat := fun _ => lt_start_of_head?_beyond
  exact orderly.le_start_of_first_beyond begins mem

/-- When the last of the entries at the front ends in time, all of them do. -/
theorem Orderly.stop_le_of_last_upTo
    (ends : ∀ entry, (audit.upTo position).getLast? = some entry →
      entry.1.stop.toNat ≤ position.toNat)
    {entry : Span × Role} (mem : entry ∈ audit.upTo position) :
    entry.1.stop.toNat ≤ position.toNat := by
  have ordered := orderly.ordered
  rw [← audit.upTo_append_beyond position, List.pairwise_append] at ordered
  cases isLast : (audit.upTo position).getLast? with
  | none =>
      rw [List.getLast?_eq_none_iff.mp isLast] at mem
      cases mem
  | some last =>
      have lastStop := ends last isLast
      have lastStart := start_le_of_mem_upTo (List.mem_of_getLast? isLast)
      rcases List.getLast?_eq_some_iff.mp isLast with ⟨front, split⟩
      rw [split, List.pairwise_append] at ordered
      rw [split, List.mem_append, List.mem_singleton] at mem
      rcases mem with mem | rfl
      · have follows := ordered.1.2.2 entry mem last List.mem_cons_self
        omega
      · exact lastStop

variable (nonempty : span.start.toNat < span.stop.toNat)

include nonempty

/-- An entry at the front can only be touched at its end. -/
theorem Orderly.disjoint_iff_of_mem_upTo {entry : Span × Role}
    (mem : entry ∈ audit.upTo span.start) :
    Disjoint span.positions entry.1.positions ↔ entry.1.stop.toNat ≤ span.start.toNat := by
  have starts := start_le_of_mem_upTo mem
  have entryNonempty := orderly.nonempty entry (mem_of_mem_upTo mem)
  rw [Span.disjoint_positions_iff nonempty entryNonempty]
  omega

/-- A later entry can only be touched at its start. -/
theorem Orderly.disjoint_iff_of_mem_beyond {entry : Span × Role}
    (mem : entry ∈ audit.beyond span.start) :
    Disjoint span.positions entry.1.positions ↔ span.stop.toNat ≤ entry.1.start.toNat := by
  have starts := orderly.lt_start_of_mem_beyond mem
  have entryNonempty := orderly.nonempty entry (mem_of_mem_beyond mem)
  rw [Span.disjoint_positions_iff nonempty entryNonempty]
  omega

/-- The two neighbours of a span speak for all entries. -/
theorem Orderly.clear_of_neighbours
    (ends : ∀ entry, (audit.upTo span.start).getLast? = some entry →
      entry.1.stop.toNat ≤ span.start.toNat)
    (begins : ∀ entry, (audit.beyond span.start).head? = some entry →
      span.stop.toNat ≤ entry.1.start.toNat) :
    ∀ entry ∈ audit.entries, Disjoint span.positions entry.1.positions := by
  intro entry mem
  rw [← audit.upTo_append_beyond span.start, List.mem_append] at mem
  rcases mem with mem | mem
  · exact (orderly.disjoint_iff_of_mem_upTo nonempty mem).mpr
      (orderly.stop_le_of_last_upTo ends mem)
  · exact (orderly.disjoint_iff_of_mem_beyond nonempty mem).mpr
      (orderly.le_start_of_first_beyond begins mem)

omit nonempty in
/-- Whatever touches an entry is refused, and of what lies in the region
nothing else is. -/
theorem Orderly.judges (role : Role) (span : Span) :
    audit.Judges role span (audit.record role span) := by
  unfold record
  by_cases impossible : span.stop ≤ span.start ∨ audit.total < span.stop
  · rw [if_pos impossible]
    apply Judges.invalid
    rw [UInt64.le_iff_toNat_le, UInt64.lt_iff_toNat_lt] at impossible
    omega
  · rw [if_neg impossible]
    rw [UInt64.le_iff_toNat_le, UInt64.lt_iff_toNat_lt, not_or] at impossible
    have nonempty : span.start.toNat < span.stop.toNat := by omega
    have inside : span.stop.toNat ≤ audit.total.toNat := by omega
    simp only
    split
    · rename_i entry before
      rcases Option.filter_eq_some_iff.mp before with ⟨last, reaches⟩
      have mem := List.mem_of_getLast? last
      apply Judges.overlaps (mem_of_mem_upTo mem)
      rw [orderly.disjoint_iff_of_mem_upTo nonempty mem]
      simpa [UInt64.lt_iff_toNat_lt] using reaches
    · rename_i before
      split
      · rename_i entry after
        rcases Option.filter_eq_some_iff.mp after with ⟨first, reaches⟩
        have mem := List.mem_of_mem_head? first
        apply Judges.overlaps (mem_of_mem_beyond mem)
        rw [orderly.disjoint_iff_of_mem_beyond nonempty mem]
        simpa [UInt64.lt_iff_toNat_lt] using reaches
      · rename_i after
        apply Judges.accepts nonempty inside
        apply orderly.clear_of_neighbours nonempty
        · intro entry last
          simpa [UInt64.lt_iff_toNat_lt] using Option.filter_eq_none_iff.mp before entry last
        · intro entry first
          simpa [UInt64.lt_iff_toNat_lt] using Option.filter_eq_none_iff.mp after entry first

variable (clear : ∀ entry ∈ audit.entries, Disjoint span.positions entry.1.positions)
  (inside : span.stop.toNat ≤ audit.total.toNat)

include clear inside

/-- A span inside the region that touches no entry is accepted. -/
theorem Orderly.record_eq_ok (role : Role) :
    audit.record role span = .ok (audit.accept role span) := by
  have judges := orderly.judges role span
  generalize audit.record role span = answer at judges
  cases judges with
  | invalid impossible => exact absurd ⟨nonempty, inside⟩ impossible
  | overlaps mem meets => exact absurd (clear _ mem) meets
  | accepts _ _ _ => rfl

theorem Orderly.accept (role : Role) : (audit.accept role span).Orderly where
  ordered := by
    have ordered := orderly.ordered
    rw [← audit.upTo_append_beyond span.start, List.pairwise_append] at ordered
    rcases ordered with ⟨before, after, across⟩
    rw [ReuseAudit.accept, List.pairwise_append, List.pairwise_cons]
    refine ⟨before, ⟨?_, after⟩, ?_⟩
    · intro entry mem
      exact (orderly.disjoint_iff_of_mem_beyond nonempty mem).mp
        (clear entry (mem_of_mem_beyond mem))
    · intro left leftMem right rightMem
      rcases List.mem_cons.mp rightMem with rfl | rightMem
      · exact (orderly.disjoint_iff_of_mem_upTo nonempty leftMem).mp
          (clear left (mem_of_mem_upTo leftMem))
      · exact across left leftMem right rightMem
  nonempty := by
    intro entry mem
    rcases mem_accept_iff.mp mem with rfl | mem
    · exact nonempty
    · exact orderly.nonempty entry mem
  inside := by
    intro entry mem
    rcases mem_accept_iff.mp mem with rfl | mem
    · exact inside
    · exact orderly.inside entry mem

end Orderly

end ReuseAudit

end OneTimePad
