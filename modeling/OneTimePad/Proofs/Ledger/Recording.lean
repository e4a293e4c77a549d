import OneTimePad.Proofs.Ledger.Stored

/-!
# Recording a frame

A frame is looked at twice: it is classified before it is opened, and recorded
after it was.  The two looks should agree, and the mark of the other party should
move over positions only that exist and that nobody had used.

Both hold with one exception each.  A frame of an initiator may begin among the
processed positions and run past them: it is classified as a duplicate, and yet
its record moves the mark of the responder.  And the mark that a frame of a
responder stands for is found from its first position, so that an initiator who has
not yet seen any frame does not look where this one ends.
-/

namespace OneTimePad

namespace Role

variable {role : Role} {total seen offset length : UInt64}

/-- A frame that begins among the processed positions does not run into them. -/
theorem runsIntoProcessed_of_hasProcessed (processed : role.hasProcessed total seen offset = true) :
    role.runsIntoProcessed total seen offset length = false := by
  rw [Bool.eq_false_iff]
  intro runs
  exact (runsIntoProcessed_iff.mp runs).1 (hasProcessed_iff_mem_side.mp processed)

/-- There is nothing to run into as long as nothing was seen. -/
theorem runsIntoProcessed_of_unseen (unseen : seen = 0) :
    role.runsIntoProcessed total seen offset length = false := by
  rw [Bool.eq_false_iff]
  intro runs
  apply (runsIntoProcessed_iff.mp runs).2
  rw [unseen, UInt64.toNat_zero, side_zero]
  exact Set.disjoint_empty _

/-- Once an initiator has seen something, a frame that does not run into it ends
before it. -/
theorem add_le_of_runsIntoProcessed_eq_false (some : 0 < seen.toNat)
    (before : offset.toNat < total.toNat - seen.toNat)
    (clear : initiator.runsIntoProcessed total seen offset length = false) :
    offset.toNat + length.toNat ≤ total.toNat - seen.toNat := by
  have outside : offset.toNat ∉ initiator.peer.side total.toNat seen.toNat :=
    fun mem => absurd mem.1 (Nat.not_le_of_lt before)
  rw [runsIntoProcessed_eq_false_iff outside, peer, side, Set.Ico_disjoint_Ico] at clear
  omega

end Role

namespace Ledger

variable {ledger after : Ledger} {offset length mark : UInt64}

/-! ## The record -/

theorem record_of_owned (live : ledger.burned = false)
    (owned : ledger.role.owns ledger.total ledger.sent offset = true) :
    ledger.record offset length = ⟨.ok .ownMessage, ledger⟩ := by
  simp [record, live, owned]

/-- A frame that has a mark and runs into nothing is recorded by its mark. -/
theorem record_of_marked (live : ledger.burned = false)
    (unowned : ledger.role.owns ledger.total ledger.sent offset = false)
    (marked : ledger.role.peerMark ledger.total offset length = some mark)
    (clear : ledger.role.runsIntoProcessed ledger.total ledger.seen offset length = false) :
    ledger.record offset length =
      if mark.toNat ≤ ledger.seen.toNat then ⟨.ok .stale, ledger⟩
      else if ledger.total.toNat < ledger.sent.toNat + mark.toNat then
        .refuse ledger (.invalidFormat "peer range overlaps own sends")
      else ⟨.ok (.advanced mark), { ledger with seen := mark }⟩ := by
  simp [record, live, unowned, marked, clear, UInt64.le_iff_toNat_le]

theorem record_of_running (live : ledger.burned = false)
    (unowned : ledger.role.owns ledger.total ledger.sent offset = false)
    (marked : ledger.role.peerMark ledger.total offset length = some mark)
    (runs : ledger.role.runsIntoProcessed ledger.total ledger.seen offset length = true) :
    ledger.record offset length =
      .refuse ledger (.invalidFormat "peer range overlaps processed frames") := by
  simp [record, live, unowned, marked, runs]

/-- What was checked of a frame whose record moves the mark. -/
theorem of_record_advanced
    (recorded : ledger.record offset length = ⟨.ok (.advanced mark), after⟩) :
    ledger.role.owns ledger.total ledger.sent offset = false ∧
      ledger.role.peerMark ledger.total offset length = some mark ∧
      ledger.role.runsIntoProcessed ledger.total ledger.seen offset length = false ∧
      ledger.seen.toNat < mark.toNat ∧
      ledger.sent.toNat + mark.toNat ≤ ledger.total.toNat ∧
      after = { ledger with seen := mark } := by
  have live : ledger.burned = false := by
    rw [Bool.eq_false_iff]
    intro burned
    simp [record, burned, Reply.refuse] at recorded
  have unowned : ledger.role.owns ledger.total ledger.sent offset = false := by
    rw [Bool.eq_false_iff]
    intro owned
    rw [record_of_owned live owned] at recorded
    cases recorded
  cases marked : ledger.role.peerMark ledger.total offset length with
  | none => simp [record, live, unowned, marked, Reply.refuse] at recorded
  | some found =>
      have clear :
          ledger.role.runsIntoProcessed ledger.total ledger.seen offset length = false := by
        rw [Bool.eq_false_iff]
        intro runs
        rw [record_of_running live unowned marked runs] at recorded
        cases recorded
      rw [record_of_marked live unowned marked clear] at recorded
      split at recorded
      · cases recorded
      · rename_i later
        split at recorded
        · cases recorded
        · rename_i fits
          cases recorded
          exact ⟨unowned, rfl, clear, Nat.lt_of_not_le later, Nat.le_of_not_lt fits, rfl⟩

/-! ## The verdict and the record -/

/-- A frame of an initiator begins among the processed positions and runs past
them. -/
structure Outruns (ledger : Ledger) (offset length : UInt64) : Prop where
  role_eq : ledger.role = .responder
  begins : offset.toNat < ledger.seen.toNat
  ends : ledger.seen.toNat < offset.toNat + length.toNat

/-- The record of a frame goes by its verdict. -/
def Heeds (ledger : Ledger) (verdict : Except LedgerError Origin) (reply : Reply Ledger Progress) :
    Prop :=
  match verdict with
  | .ok .own => reply = ⟨.ok .ownMessage, ledger⟩
  | .ok .duplicate => reply = ⟨.ok .stale, ledger⟩
  | .ok .fresh =>
      (∃ mark, reply = ⟨.ok (.advanced mark), { ledger with seen := mark }⟩) ∨
        reply = .refuse ledger (.invalidFormat "peer range overlaps own sends")
  | .error error => reply = .refuse ledger error

/-- A record that goes by its verdict changes the books for a new frame only. -/
theorem Heeds.eq_fresh_of_changed {verdict : Except LedgerError Origin}
    {reply : Reply Ledger Progress} (heeds : ledger.Heeds verdict reply)
    (changed : reply.after ≠ ledger) : verdict = .ok .fresh := by
  cases verdict with
  | error error => exact absurd (congrArg Reply.after heeds) changed
  | ok origin =>
      cases origin with
      | own => exact absurd (congrArg Reply.after heeds) changed
      | duplicate => exact absurd (congrArg Reply.after heeds) changed
      | fresh => rfl

theorem Outruns.unowned (outruns : ledger.Outruns offset length) (balanced : ledger.Balanced) :
    ledger.role.owns ledger.total ledger.sent offset = false := by
  have begins := outruns.begins
  unfold Balanced at balanced
  rw [outruns.role_eq, Role.owns, decide_eq_false_iff_not, UInt64.le_iff_toNat_le,
    Word.toNat_subSaturating]
  omega

theorem Outruns.processed (outruns : ledger.Outruns offset length) :
    ledger.role.hasProcessed ledger.total ledger.seen offset = true := by
  rw [Role.hasProcessed_iff_mem_side, outruns.role_eq]
  exact ⟨Nat.zero_le _, outruns.begins⟩

theorem Outruns.classifyFrame_eq (outruns : ledger.Outruns offset length)
    (balanced : ledger.Balanced) : ledger.classifyFrame offset length = .ok .duplicate := by
  have unowned := outruns.unowned balanced
  have processed := outruns.processed
  simp [classifyFrame, classify, isDuplicate, unowned, processed]

/-- The mark of a frame that begins among the processed positions was seen already,
unless the frame runs past them. -/
theorem markOf_le_seen_iff
    (processed : ledger.role.hasProcessed ledger.total ledger.seen offset = true) :
    ledger.markOf offset length ≤ ledger.seen.toNat ↔ ¬ ledger.Outruns offset length := by
  rw [Role.hasProcessed_iff_mem_side] at processed
  unfold markOf
  cases role : ledger.role with
  | initiator =>
      rw [role, Role.peer, Role.side, Set.mem_Ico] at processed
      have notOutruns : ¬ ledger.Outruns offset length := by
        intro outruns
        rw [outruns.role_eq] at role
        cases role
      simp only [notOutruns, not_false_eq_true, iff_true]
      omega
  | responder =>
      rw [role, Role.peer, Role.side, Set.mem_Ico] at processed
      constructor
      · intro le outruns
        exact absurd outruns.ends (Nat.not_lt_of_le le)
      · intro notOutruns
        by_contra later
        exact notOutruns ⟨role, processed.2, Nat.lt_of_not_le later⟩

section Inside

variable (inside : offset.toNat + length.toNat ≤ ledger.total.toNat)

include inside

/-- What the record of a frame that begins among the processed positions comes
to. -/
theorem record_of_processed (live : ledger.burned = false)
    (unowned : ledger.role.owns ledger.total ledger.sent offset = false)
    (processed : ledger.role.hasProcessed ledger.total ledger.seen offset = true) :
    ledger.record offset length =
      if ledger.markOf offset length ≤ ledger.seen.toNat then ⟨.ok .stale, ledger⟩
      else if ledger.total.toNat < ledger.sent.toNat + ledger.markOf offset length then
        .refuse ledger (.invalidFormat "peer range overlaps own sends")
      else
        ⟨.ok (.advanced (UInt64.ofNat (ledger.markOf offset length))),
          ledger.observe (ledger.markOf offset length)⟩ := by
  rw [record_of_marked live unowned (peerMark_eq_of_inside inside)
    (Role.runsIntoProcessed_of_hasProcessed processed), toNat_markOf inside]
  rfl

/-- The record of a frame inside the region goes by its verdict, unless the frame
begins among the processed positions and runs past them. -/
theorem heeds_iff (balanced : ledger.Balanced) (live : ledger.burned = false)
    (nonempty : 0 < length.toNat) :
    ledger.Heeds (ledger.classifyFrame offset length) (ledger.record offset length) ↔
      ¬ ledger.Outruns offset length := by
  constructor
  · intro heeds outruns
    have processed := outruns.processed
    have later := mt (markOf_le_seen_iff processed).mp (not_not_intro outruns)
    rw [outruns.classifyFrame_eq balanced,
      record_of_processed inside live (outruns.unowned balanced) processed, if_neg later] at heeds
    split at heeds
    · cases heeds
    · cases heeds
  · intro keeps
    rcases ledger.classifyFrame_cases offset length with
      ⟨verdict, owned⟩ | ⟨verdict, unowned, processed⟩ | ⟨verdict, unowned, -, runs⟩ | ⟨verdict, -⟩
    · rw [verdict]
      exact record_of_owned live owned
    · rw [verdict, record_of_processed inside live unowned processed,
        if_pos ((markOf_le_seen_iff processed).mpr keeps)]
      exact rfl
    · rw [verdict]
      exact record_of_running live unowned (peerMark_eq_of_inside inside) runs
    · rcases (classifyFrame_eq_fresh_iff nonempty inside).mp verdict with ⟨unowned, clear⟩
      have fresh : ledger.Fresh offset length := ⟨nonempty, inside, unowned, clear⟩
      rw [verdict, fresh.record_eq live]
      split
      · exact .inr rfl
      · exact .inl ⟨_, rfl⟩

end Inside

/-- The two looks at a frame inside the region agree, and only a new frame that
meets none of the processed positions moves the mark, exactly as long as the frame
does not begin among the processed positions and run past them.  Such a frame is
classified as a duplicate, and its record moves the mark to its end, unless it
meets the positions of this party. -/
theorem record_heeds_iff {settings : Settings} (reachable : ledger.Reachable settings)
    (live : ledger.burned = false) (nonempty : 0 < length.toNat)
    (inside : offset.toNat + length.toNat ≤ ledger.total.toNat) :
    (ledger.Heeds (ledger.classifyFrame offset length) (ledger.record offset length) ∧
        ((ledger.record offset length).after ≠ ledger →
          ledger.classifyFrame offset length = .ok .fresh ∧
            Disjoint (claim offset length)
              (ledger.role.processed ledger.total ledger.seen).positions) ↔
      ¬ ledger.Outruns offset length) ∧
    (ledger.Outruns offset length →
      ledger.classifyFrame offset length = .ok .duplicate ∧
        ledger.record offset length =
          if ledger.total.toNat < ledger.sent.toNat + (offset.toNat + length.toNat) then
            .refuse ledger (.invalidFormat "peer range overlaps own sends")
          else ⟨.ok (.advanced (offset + length)), { ledger with seen := offset + length }⟩) := by
  have balanced := reachable.balanced_and_threshold.1
  have heeds := heeds_iff inside balanced live nonempty
  refine ⟨⟨fun law => heeds.mp law.1, ?_⟩, ?_⟩
  · intro keeps
    refine ⟨heeds.mpr keeps, ?_⟩
    intro changed
    have verdict := (heeds.mpr keeps).eq_fresh_of_changed changed
    rw [Role.positions_processed]
    exact ⟨verdict, ((classifyFrame_eq_fresh_iff nonempty inside).mp verdict).2⟩
  · intro outruns
    have processed := outruns.processed
    have later := mt (markOf_le_seen_iff processed).mp (not_not_intro outruns)
    have mark : ledger.markOf offset length = offset.toNat + length.toNat := by
      rw [markOf, outruns.role_eq]
    have sum : UInt64.ofNat (offset.toNat + length.toNat) = offset + length := by
      rw [UInt64.ofNat_add, UInt64.ofNat_toNat, UInt64.ofNat_toNat]
    refine ⟨outruns.classifyFrame_eq balanced, ?_⟩
    rw [record_of_processed inside live (outruns.unowned balanced) processed, if_neg later,
      mark, observe, sum]

/-- A responder has processed the first 96 positions.  A frame at position 50 is a
duplicate to it, and yet its record moves the mark. -/
theorem record_heeds_iff_outrunning_frame :
    ∃ ledger : Ledger, ledger.Reachable {} ∧ ledger.seen = 96 ∧
      ledger.classifyFrame 50 96 = .ok .duplicate ∧
      ledger.record 50 96 = ⟨.ok (.advanced 146), { ledger with seen := 146 }⟩ ∧
      ¬ ledger.Heeds (ledger.classifyFrame 50 96) (ledger.record 50 96) := by
  have recorded : (fresh .responder 1000).perform (.record 0 96) =
      .ok (.recorded (.ok (.advanced 96)), { fresh .responder 1000 with seen := 96 }) := rfl
  have reachable : Reachable {} { fresh .responder 1000 with seen := 96 } :=
    .performed (.fresh .responder 1000) recorded
  have outruns : Outruns { fresh .responder 1000 with seen := 96 } 50 96 :=
    ⟨rfl, by decide, by decide⟩
  have nonempty : 0 < (96 : UInt64).toNat := by decide
  have inside : (50 : UInt64).toNat + (96 : UInt64).toNat ≤ (1000 : UInt64).toNat := by decide
  rcases record_heeds_iff reachable rfl nonempty inside with ⟨-, moved⟩
  rcases moved outruns with ⟨verdict, record⟩
  refine ⟨_, reachable, rfl, verdict, record, ?_⟩
  intro heeds
  rw [verdict, record] at heeds
  cases heeds

/-! ## Where the mark moves -/

/-- An initiator that has free positions and has not seen any frame. -/
structure Unguarded (ledger : Ledger) : Prop where
  role_eq : ledger.role = .initiator
  seen_eq : ledger.seen = 0
  room : ledger.sent.toNat < ledger.total.toNat

/-- The mark does not depend on where the frame ends. -/
theorem Unguarded.record_eq (unguarded : ledger.Unguarded) (live : ledger.burned = false)
    (unowned : ledger.sent.toNat ≤ offset.toNat)
    (marked : mark.toNat + offset.toNat = ledger.total.toNat) (positive : 0 < mark.toNat) :
    ledger.record offset length = ⟨.ok (.advanced mark), { ledger with seen := mark }⟩ := by
  have zero : ledger.seen.toNat = 0 := by
    rw [unguarded.seen_eq]
    rfl
  have notOwned : ledger.role.owns ledger.total ledger.sent offset = false := by
    rw [unguarded.role_eq, Role.owns, decide_eq_false_iff_not, UInt64.lt_iff_toNat_lt]
    exact Nat.not_lt_of_le unowned
  have hasMark : ledger.role.peerMark ledger.total offset length = some mark := by
    rw [unguarded.role_eq, Role.peerMark, Word.sub?_eq_some_iff]
    exact marked
  have later : ¬ mark.toNat ≤ ledger.seen.toNat := by omega
  have fits : ¬ ledger.total.toNat < ledger.sent.toNat + mark.toNat := by omega
  rw [record_of_marked live notOwned hasMark (Role.runsIntoProcessed_of_unseen unguarded.seen_eq),
    if_neg later, if_neg fits]

/-- A frame that moves the mark ends in the region, unless it is the first one that
an initiator sees. -/
theorem within_or_unguarded
    (recorded : ledger.record offset length = ⟨.ok (.advanced mark), after⟩) :
    offset.toNat + length.toNat ≤ ledger.total.toNat ∨ ledger.Unguarded := by
  rcases of_record_advanced recorded with ⟨unowned, marked, clear, later, fits, -⟩
  cases role : ledger.role with
  | initiator =>
      rw [role, Role.owns, decide_eq_false_iff_not, UInt64.lt_iff_toNat_lt] at unowned
      rw [role, Role.peerMark, Word.sub?_eq_some_iff] at marked
      by_cases seen : 0 < ledger.seen.toNat
      · rw [role] at clear
        have ends := Role.add_le_of_runsIntoProcessed_eq_false seen (by omega) clear
        exact .inl (ends.trans (Nat.sub_le _ _))
      · have unseen : ledger.seen = 0 := by
          rw [← UInt64.toNat_inj]
          exact Nat.eq_zero_of_not_pos seen
        exact .inr ⟨role, unseen, by omega⟩
  | responder =>
      rw [role, Role.peerMark, Word.add?_eq_some_iff] at marked
      exact .inl (by omega)

/-- A frame that moves the mark meets none of the positions of this party. -/
theorem disjoint_own_of_advanced
    (recorded : ledger.record offset length = ⟨.ok (.advanced mark), after⟩) :
    Disjoint (claim offset length) ledger.own := by
  rcases of_record_advanced recorded with ⟨unowned, marked, -, -, fits, -⟩
  unfold claim own
  cases role : ledger.role with
  | initiator =>
      rw [role, Role.owns, decide_eq_false_iff_not, UInt64.lt_iff_toNat_lt] at unowned
      rw [Role.side, Set.Ico_disjoint_Ico]
      omega
  | responder =>
      rw [role, Role.peerMark, Word.add?_eq_some_iff] at marked
      rw [Role.side, Set.Ico_disjoint_Ico]
      omega

/-- A frame that moves the mark is covered by it exactly when it ends in the
region. -/
theorem claim_subset_processed_iff
    (recorded : ledger.record offset length = ⟨.ok (.advanced mark), after⟩) :
    claim offset length ⊆ (ledger.role.processed ledger.total mark).positions ↔
      offset.toNat + length.toNat ≤ ledger.total.toNat := by
  rcases of_record_advanced recorded with ⟨-, marked, -, later, fits, -⟩
  rw [Role.positions_processed, claim]
  cases role : ledger.role with
  | initiator =>
      rw [role, Role.peerMark, Word.sub?_eq_some_iff] at marked
      have start : ledger.total.toNat - mark.toNat = offset.toNat := by omega
      rw [Role.peer, Role.side, start]
      constructor
      · intro subset
        by_contra exceeds
        have last : offset.toNat + length.toNat - 1 ∈
            Set.Ico offset.toNat (offset.toNat + length.toNat) := ⟨by omega, by omega⟩
        have inside := (subset last).2
        omega
      · exact Set.Ico_subset_Ico_right
  | responder =>
      rw [role, Role.peerMark, Word.add?_eq_some_iff] at marked
      have within : offset.toNat + length.toNat ≤ ledger.total.toNat := by omega
      rw [Role.peer, Role.side, ← marked]
      exact ⟨fun _ => within, fun _ => Set.Ico_subset_Ico_left (Nat.zero_le _)⟩

/-- A record that moves the mark moves it forward and nothing else, as far as both
marks fit the region, for a frame that meets none of the positions of this party;
and the new mark covers the frame if this ends in the region.  It always does,
exactly as long as the ledger is not that of an initiator that has free positions
and has not seen any frame. -/
theorem advanced_within_iff (live : ledger.burned = false) :
    (∀ offset length mark after, ledger.record offset length = ⟨.ok (.advanced mark), after⟩ →
      Disjoint (claim offset length) ledger.own ∧ ledger.seen < mark ∧
        ledger.sent.toNat + mark.toNat ≤ ledger.total.toNat ∧
        after = { ledger with seen := mark } ∧
        (claim offset length ⊆ (ledger.role.processed ledger.total mark).positions ↔
          offset.toNat + length.toNat ≤ ledger.total.toNat)) ∧
    ((∀ offset length mark after, ledger.record offset length = ⟨.ok (.advanced mark), after⟩ →
      offset.toNat + length.toNat ≤ ledger.total.toNat) ↔ ¬ ledger.Unguarded) := by
  refine ⟨?_, ?_, ?_⟩
  · intro offset length mark after recorded
    rcases of_record_advanced recorded with ⟨-, -, -, later, fits, same⟩
    exact ⟨disjoint_own_of_advanced recorded, UInt64.lt_iff_toNat_lt.mpr later, fits, same,
      claim_subset_processed_iff recorded⟩
  · intro law unguarded
    -- A frame of two octets at the last position.
    have totalLt := Word.toNat_lt ledger.total
    have room := unguarded.room
    have offset : (UInt64.ofNat (ledger.total.toNat - 1)).toNat = ledger.total.toNat - 1 :=
      Word.toNat_ofNat (by omega)
    have one : (1 : UInt64).toNat = 1 := rfl
    have two : (2 : UInt64).toNat = 2 := rfl
    have recorded : ledger.record (UInt64.ofNat (ledger.total.toNat - 1)) 2 =
        ⟨.ok (.advanced 1), { ledger with seen := 1 }⟩ :=
      unguarded.record_eq live (by omega) (by omega) Nat.one_pos
    have within := law _ _ _ _ recorded
    omega
  · intro guarded offset length mark after recorded
    rcases within_or_unguarded recorded with within | unguarded
    · exact within
    · exact absurd unguarded guarded

/-- An initiator that has just begun records a frame that claims one octet behind
the region. -/
theorem advanced_within_iff_first_frame :
    (fresh .initiator 1000).Unguarded ∧
      (fresh .initiator 1000).record 904 97 =
        ⟨.ok (.advanced 96), { fresh .initiator 1000 with seen := 96 }⟩ ∧
      ¬ (claim 904 97 ⊆ (Role.initiator.processed 1000 96).positions) ∧
      ¬ ∀ offset length mark after,
        (fresh .initiator 1000).record offset length = ⟨.ok (.advanced mark), after⟩ →
          offset.toNat + length.toNat ≤ 1000 := by
  have unguarded : (fresh .initiator 1000).Unguarded := ⟨rfl, rfl, by decide⟩
  have recorded : (fresh .initiator 1000).record 904 97 =
      ⟨.ok (.advanced 96), { fresh .initiator 1000 with seen := 96 }⟩ := rfl
  have live : (fresh .initiator 1000).burned = false := rfl
  rcases advanced_within_iff live with ⟨moved, within⟩
  refine ⟨unguarded, recorded, ?_, fun law => within.mp law unguarded⟩
  rcases moved _ _ _ _ recorded with ⟨-, -, -, -, covered⟩
  exact mt covered.mp (by decide)

end Ledger

end OneTimePad
