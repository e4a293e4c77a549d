import OneTimePad.Proofs.Audit.Anchor

/-!
# Parties that claim too much

A party claims too much when its counters exceed the region together, or when its spans do
not have as many positions as it has sent.  The check of the capacity adds up these numbers
in words.  So it answers only as long as the sums are words, and the larger a claim is, the
sooner they are not.

Parties that do not claim too much can always be counted.  The first one that does decides:
if it can be counted, it is reported, and if it cannot, there is no verdict on any party.
-/

namespace OneTimePad.Check

/-- A party claims more than its region has, or not what its spans have. -/
def Overclaims (party : PartyView) : Prop :=
  party.counters.total.toNat < party.counters.sent.toNat + party.counters.seen.toNat ∨
    (party.spans ≠ [] ∧ (party.spans.map Span.size).sum ≠ party.counters.sent.toNat)

instance (party : PartyView) : Decidable (Overclaims party) :=
  inferInstanceAs (Decidable (_ ∨ _))

/-- The sums that the check of the capacity looks at are words.  The spans are added up only if
the counters fit the region. -/
structure Countable (party : PartyView) : Prop where
  used : party.counters.sent.toNat + party.counters.seen.toNat < wordLimit
  reserved :
    party.counters.sent.toNat + party.counters.seen.toNat ≤ party.counters.total.toNat →
      (party.spans.map Span.size).sum < wordLimit

/-- What the check of the capacity answers to a party, and why. -/
inductive Weighs (party : PartyView) : Checked (Option String) → Prop where
  | faults (uncountable : ¬ Countable party) : Weighs party (.error .addOverflow)
  | reports (message : String) (countable : Countable party) (overclaims : Overclaims party) :
      Weighs party (.ok (some message))
  | passes (honest : ¬ Overclaims party) : Weighs party (.ok none)

variable {party : PartyView} {system : SystemView}

/-- A party that does not claim too much can be counted. -/
theorem countable_of_not_overclaims (honest : ¬ Overclaims party) : Countable party := by
  have totalLt := Word.toNat_lt party.counters.total
  have sentLt := Word.toNat_lt party.counters.sent
  rw [Overclaims, not_or, not_and_not_right] at honest
  constructor
  case used => omega
  case reserved =>
    intro _
    cases listed : party.spans with
    | nil => simp [wordLimit]
    | cons span spans =>
        have sum := honest.2 (by simp [listed])
        rw [← listed, sum]
        exact sentLt

/-- Lengths that do not fit a word together are not summed. -/
theorem foldlM_length_eq_error {spans : List Span} {sum : UInt64}
    (ordered : ∀ span ∈ spans, span.start.toNat ≤ span.stop.toNat)
    (exceeds : wordLimit ≤ sum.toNat + (spans.map Span.size).sum) :
    spans.foldlM (fun sum span => do Word.add sum (← span.length)) sum =
      (.error .addOverflow : Checked UInt64) := by
  induction spans generalizing sum with
  | nil =>
      have sumLt := Word.toNat_lt sum
      rw [List.map_nil, List.sum_nil] at exceeds
      omega
  | cons span spans inductionHypothesis =>
      rcases List.forall_mem_cons.mp ordered with ⟨first, others⟩
      have stopLt := Word.toNat_lt span.stop
      have size : (UInt64.ofNat span.size).toNat = span.size :=
        Word.toNat_ofNat ((Nat.sub_le _ _).trans_lt stopLt)
      rw [List.map_cons, List.sum_cons] at exceeds
      rw [List.foldlM_cons, length_eq_ok first, Checked.ok_bind]
      by_cases fits : sum.toNat + span.size < wordLimit
      · have next := Word.toNat_ofNat fits
        rw [Word.add_eq_ok (by omega), size, Checked.ok_bind]
        exact inductionHypothesis others (by omega)
      · rw [Word.add, size, if_neg fits, Checked.error_bind]

/-- Spans are added up as long as their lengths fit a word together. -/
theorem totalLength_eq {spans : List Span}
    (ordered : ∀ span ∈ spans, span.start.toNat ≤ span.stop.toNat) :
    ReuseAudit.totalLength spans =
      if (spans.map Span.size).sum < wordLimit then
        .ok (UInt64.ofNat (spans.map Span.size).sum)
      else .error .addOverflow := by
  have fromZero : (0 : UInt64).toNat + (spans.map Span.size).sum = (spans.map Span.size).sum := by
    rw [UInt64.toNat_zero, Nat.zero_add]
  rw [ReuseAudit.totalLength]
  split
  · rename_i fits
    rw [foldlM_length_eq_ok ordered (by rwa [fromZero]), fromZero]
  · rename_i exceeds
    rw [foldlM_length_eq_error ordered (by rw [fromZero]; exact Nat.not_lt.mp exceeds)]

/-- The check of the capacity finds that a party claims too much, as far as it can count. -/
theorem weighs (ordered : ∀ span ∈ party.spans, span.start.toNat ≤ span.stop.toNat) :
    Weighs party (inspectCapacity party) := by
  simp only [inspectCapacity, totalLength_eq ordered]
  by_cases used : party.counters.sent.toNat + party.counters.seen.toNat < wordLimit
  · have exceeds_iff : party.counters.total <
        UInt64.ofNat (party.counters.sent.toNat + party.counters.seen.toNat) ↔
          party.counters.total.toNat <
            party.counters.sent.toNat + party.counters.seen.toNat := by
      rw [UInt64.lt_iff_toNat_lt, Word.toNat_ofNat used]
    rw [Word.add_eq_ok used, Checked.ok_bind]
    split
    · rename_i exceeds
      have exceeds := exceeds_iff.mp exceeds
      exact .reports _ ⟨used, fun within => absurd exceeds (Nat.not_lt.mpr within)⟩ (.inl exceeds)
    · rename_i within
      have within := Nat.not_lt.mp (mt exceeds_iff.mpr within)
      by_cases reserved : (party.spans.map Span.size).sum < wordLimit
      · have differs_iff : UInt64.ofNat (party.spans.map Span.size).sum ≠ party.counters.sent ↔
            (party.spans.map Span.size).sum ≠ party.counters.sent.toNat := by
          rw [ne_eq, ← UInt64.toNat_inj, Word.toNat_ofNat reserved]
        rw [if_pos reserved, Checked.ok_bind]
        split
        · rename_i differs
          exact .reports _ ⟨used, fun _ => reserved⟩ (.inr ⟨differs.1, differs_iff.mp differs.2⟩)
        · rename_i same
          refine .passes (not_or.mpr ⟨Nat.not_lt.mpr within, ?_⟩)
          rintro ⟨listed, differs⟩
          exact same ⟨listed, differs_iff.mpr differs⟩
      · rw [if_neg reserved, Checked.error_bind]
        exact .faults fun countable => reserved (countable.reserved within)
  · rw [Word.add, if_neg used, Checked.error_bind]
    exact .faults fun countable => used countable.used

/-- The first party that claims too much decides what the check answers. -/
theorem capacity_eq_of_first
    (ordered : ∀ party ∈ system, ∀ span ∈ party.spans, span.start.toNat ≤ span.stop.toNat) :
    capacity.inspect system =
      match system.find? (Overclaims ·) with
      | none => .ok none
      | some first => inspectCapacity first := by
  change firstOf inspectCapacity system = _
  induction system with
  | nil => rfl
  | cons party others inductionHypothesis =>
      rcases List.forall_mem_cons.mp ordered with ⟨partyOrdered, othersOrdered⟩
      have weighed := weighs partyOrdered
      rw [firstOf, List.find?_cons]
      generalize answered : inspectCapacity party = answer at weighed
      cases weighed with
      | faults uncountable =>
          have overclaims := mt countable_of_not_overclaims uncountable
          simp only [not_not] at overclaims
          simp [overclaims, answered]
      | reports message countable overclaims => simp [overclaims, answered]
      | passes honest => simp [honest, inductionHypothesis othersOrdered]

/-! ## Suites -/

/-- A suite answers if all of its checks do. -/
theorem exists_runAll_iff {checks : List Check} :
    (∃ violations, runAll checks system = .ok violations) ↔
      ∀ check ∈ checks, ∃ found, check.inspect system = .ok found := by
  induction checks with
  | nil => simp [runAll]
  | cons check checks inductionHypothesis =>
      rw [List.forall_mem_cons, ← inductionHypothesis, runAll, run]
      cases check.inspect system with
      | error fault => simp
      | ok found =>
          cases runAll checks system with
          | error fault => simp
          | ok others => simp

/-- What a suite reports are the findings of its checks, under their names. -/
theorem mem_runAll_iff {checks : List Check} {violations : List Violation}
    (answered : runAll checks system = .ok violations) {violation : Violation} :
    violation ∈ violations ↔
      ∃ check ∈ checks, ∃ message, check.inspect system = .ok (some message) ∧
        violation = ⟨check.name, message⟩ := by
  induction checks generalizing violations with
  | nil =>
      obtain rfl := Except.ok.inj answered
      simp
  | cons check checks inductionHypothesis =>
      rw [runAll, run] at answered
      rcases Checked.bind_eq_ok_iff.mp answered with ⟨first, inspected, rest⟩
      rcases Checked.bind_eq_ok_iff.mp inspected with ⟨found, foundEq, mapped⟩
      rcases Checked.bind_eq_ok_iff.mp rest with ⟨others, othersEq, joined⟩
      obtain rfl := Except.ok.inj mapped
      obtain rfl := Except.ok.inj joined
      rw [List.mem_append, inductionHypothesis othersEq]
      cases found with
      | none => simp [foundEq]
      | some message => simp [foundEq]

/-- Of the standard checks, only the capacity can leave a system without an answer. -/
theorem exists_runAll_standard_iff :
    (∃ violations, runAll standard system = .ok violations) ↔
      ∃ found, capacity.inspect system = .ok found := by
  have overlap : ∃ found, noOverlap.inspect system = .ok found := ⟨_, rfl⟩
  have monotone : ∃ found, monotonicity.inspect system = .ok found := ⟨_, rfl⟩
  have view : ∃ found, peerView.inspect system = .ok found := by
    simp only [peerView]
    split <;> exact ⟨_, rfl⟩
  rw [exists_runAll_iff]
  simp [standard, overlap, monotone, view]

/-- The name of the capacity stands for its findings alone. -/
theorem exists_capacity_violation_iff {violations : List Violation}
    (answered : runAll standard system = .ok violations) :
    (∃ violation ∈ violations, violation.invariant = "CapacityBound") ↔
      ∃ message, capacity.inspect system = .ok (some message) := by
  simp only [mem_runAll_iff answered]
  constructor
  · rintro ⟨_, ⟨check, mem, message, inspected, rfl⟩, name⟩
    simp only [standard, List.mem_cons, List.not_mem_nil, or_false] at mem
    rcases mem with rfl | rfl | rfl | rfl
    · simp [noOverlap] at name
    · simp [monotonicity] at name
    · exact ⟨message, inspected⟩
    · simp [peerView] at name
  · rintro ⟨message, inspected⟩
    exact ⟨_, ⟨capacity, by simp [standard], message, inspected, rfl⟩, rfl⟩

/-- The standard checks answer, and report the capacity exactly if a party claims too much. -/
def ReportsOverclaims (system : SystemView) : Prop :=
  ∃ violations, runAll standard system = .ok violations ∧
    ((∃ violation ∈ violations, violation.invariant = "CapacityBound") ↔
      ∃ party ∈ system, Overclaims party)

/-- The standard checks report that some party claims too much exactly as long as the first one
of these parties can be counted.  If it cannot, an addition overflows, and nothing is reported
at all. -/
theorem reports_overclaims_iff
    (ordered : ∀ party ∈ system, ∀ span ∈ party.spans, span.start ≤ span.stop) :
    (ReportsOverclaims system ↔
      ∀ first, system.find? (Overclaims ·) = some first → Countable first) ∧
    (∀ first, system.find? (Overclaims ·) = some first → ¬ Countable first →
      runAll standard system = .error .addOverflow) := by
  simp only [UInt64.le_iff_toNat_le] at ordered
  have decides := capacity_eq_of_first ordered
  cases found : system.find? (Overclaims ·) with
  | none =>
      rw [found] at decides
      have honest : ¬ ∃ party ∈ system, Overclaims party := by
        simpa using List.find?_eq_none.mp found
      rcases exists_runAll_standard_iff.mpr ⟨_, decides⟩ with ⟨violations, answered⟩
      have silent : ¬ ∃ message, capacity.inspect system = .ok (some message) := by
        simp [decides]
      rw [← exists_capacity_violation_iff answered] at silent
      have reports : ReportsOverclaims system :=
        ⟨violations, answered, iff_of_false silent honest⟩
      simp [reports]
  | some first =>
      have mem := List.mem_of_find?_eq_some found
      have weighed := weighs (ordered first mem)
      have overclaims : Overclaims first := by simpa using List.find?_some found
      replace decides : capacity.inspect system = inspectCapacity first := by rw [decides, found]
      simp only [Option.some.injEq, forall_eq']
      generalize inspectCapacity first = answer at weighed decides
      cases weighed with
      | passes honest => exact absurd overclaims honest
      | faults uncountable =>
          have faulted : runAll standard system = .error .addOverflow := by
            simp [runAll, standard, run, noOverlap, monotonicity, decides]
          refine ⟨iff_of_false ?_ uncountable, fun _ => faulted⟩
          rintro ⟨violations, answered, -⟩
          cases faulted.symm.trans answered
      | reports message countable _ =>
          rcases exists_runAll_standard_iff.mpr ⟨_, decides⟩ with ⟨violations, answered⟩
          have reported := (exists_capacity_violation_iff answered).mpr ⟨message, decides⟩
          have reports : ReportsOverclaims system :=
            ⟨violations, answered, iff_of_true reported ⟨first, mem, overclaims⟩⟩
          exact ⟨iff_of_true reports countable, fun uncountable => absurd countable uncountable⟩

/-- An initiator whose counters do not fit a word together. -/
def overdrawn : PartyView where
  counters := ⟨.initiator, 1000, 18446744073709551615, 1, false⟩

/-- There is no verdict on it. -/
theorem reports_overclaims_iff_overdrawn :
    Overclaims overdrawn ∧ ¬ ReportsOverclaims [overdrawn] ∧
      runAll standard [overdrawn] = .error .addOverflow := by
  have overclaims : Overclaims overdrawn := by decide
  have uncountable : ¬ Countable overdrawn := by
    intro countable
    exact absurd countable.used (by decide)
  have ordered : ∀ party ∈ [overdrawn], ∀ span ∈ party.spans,
      span.start.toNat ≤ span.stop.toNat := by simp [overdrawn]
  have exact := reports_overclaims_iff ordered
  have first : [overdrawn].find? (Overclaims ·) = some overdrawn := by simp [overclaims]
  exact ⟨overclaims, fun reports => uncountable (exact.1.mp reports _ first),
    exact.2 _ first uncountable⟩

end OneTimePad.Check
