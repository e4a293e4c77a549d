import OneTimePad.Proofs.Ledger.Geometry

/-!
# Both views of a span

A span is taken by one party and found again by the other, and neither of them asks
the other one.  The party that takes it goes by its own counter, the party that finds
it by the place of the frame and by the mark it has noted, and the formulas of the two
are not the same.

Both are about the side of the role that takes.  What it takes next is what its side
grows by, the mark that the other party reads off is the size of the side by then, and
the positions it calls processed are the side up to the mark.  So the two parties agree
on every position, from the empty side up to the whole region.
-/

namespace OneTimePad.Role

/-- The span is what a role takes after `sent` positions, and the other party comes to
the same positions and to the same counter. -/
structure Matched (role : Role) (total sent length : UInt64) (span : Span) (after : UInt64) :
    Prop where
  /-- As many positions are taken as were asked for. -/
  length_eq : span.length = .ok length
  /-- All of them exist. -/
  within : span.positions ⊆ Set.Ico 0 total.toNat
  /-- From the place of the span the other party reads off what is taken by then. -/
  marked : role.peer.peerMark total span.start length = some after
  /-- With this mark noted, it has processed the span besides what it had processed before. -/
  grown : (role.peer.processed total after).positions =
    span.positions ∪ (role.peer.processed total sent).positions
  /-- No position of the span had been processed before. -/
  unprocessed : Disjoint span.positions (role.peer.processed total sent).positions
  /-- Frames that are missing before the span are no reason to refuse it. -/
  clear : ∀ seen ≤ sent, role.peer.runsIntoProcessed total seen span.start length = false
  /-- The offsets that one party owns are those that the other one has processed. -/
  shared : ∀ offset < total, role.owns total sent offset = role.peer.hasProcessed total sent offset

variable {role : Role} {total sent length offset : UInt64}

/-- What one party has processed is the side of the other one. -/
theorem positions_processed_peer :
    (role.peer.processed total sent).positions = role.side total.toNat sent.toNat := by
  rw [positions_processed, peer_peer]

/-- Inside the region, one party owns what the other one has processed. -/
theorem owns_eq_hasProcessed_peer (inside : offset.toNat < total.toNat) :
    role.owns total sent offset = role.peer.hasProcessed total sent offset := by
  rw [Bool.eq_iff_iff, owns_iff_mem_side inside, hasProcessed_iff_mem_side, peer_peer]

section Taken

variable (fits : sent.toNat + length.toNat ≤ total.toNat)

include fits

/-- The mark that the next positions stand for is the counter after they are taken. -/
theorem peerMark_next {start after : UInt64}
    (start_eq : start.toNat = role.nextStart total.toNat sent.toNat length.toNat)
    (after_eq : after.toNat = sent.toNat + length.toNat) :
    role.peer.peerMark total start length = some after := by
  cases role with
  | initiator => rw [peer, peerMark, Word.add?_eq_some_iff, start_eq, after_eq, nextStart]
  | responder =>
      rw [nextStart] at start_eq
      rw [peer, peerMark, Word.sub?_eq_some_iff]
      omega

/-- The next positions do not run into any that were processed up to now. -/
theorem runsIntoProcessed_next {start seen : UInt64}
    (start_eq : start.toNat = role.nextStart total.toNat sent.toNat length.toNat)
    (le : seen ≤ sent) : role.peer.runsIntoProcessed total seen start length = false := by
  rw [Bool.eq_false_iff]
  intro runs
  apply (runsIntoProcessed_iff.mp runs).2
  rw [start_eq, peer_peer]
  exact (disjoint_next_side fits).mono_right (side_mono (UInt64.le_iff_toNat_le.mp le))

end Taken

/-- Whatever a role takes next, as long as it is there to be taken, the other party
matches it, whichever end of the region the role began at and however much of the
region was taken before. -/
theorem nextSpan_is_matched (role : Role) {total sent length : UInt64}
    (fits : sent.toNat + length.toNat ≤ total.toNat) :
    ∃ span after, role.nextSpan total sent length = .ok span ∧
      Word.add sent length = .ok after ∧ role.Matched total sent length span after := by
  rcases role.exists_nextSpan fits with ⟨span, taken, start, stop⟩
  rcases Word.exists_add sent length (fits.trans_lt (Word.toNat_lt total)) with
    ⟨after, sum, after_eq⟩
  have positions : span.positions =
      Set.Ico (role.nextStart total.toNat sent.toNat length.toNat)
        (role.nextStart total.toNat sent.toNat length.toNat + length.toNat) := by
    rw [Span.positions, start, stop]
  refine ⟨span, after, taken, sum, ?_⟩
  constructor
  case length_eq =>
    rw [Span.length, Word.sub_eq_ok_iff, start, stop, Nat.add_comm]
  case within =>
    rw [positions]
    exact (next_subset_side fits).trans (side_subset_region fits)
  case marked => exact peerMark_next fits start after_eq
  case grown =>
    rw [positions_processed_peer, positions_processed_peer, after_eq, positions]
    exact side_add fits
  case unprocessed =>
    rw [positions_processed_peer, positions]
    exact disjoint_next_side fits
  case clear =>
    intro seen le
    exact runsIntoProcessed_next fits start le
  case shared =>
    intro offset inside
    exact owns_eq_hasProcessed_peer (UInt64.lt_iff_toNat_lt.mp inside)

/-- A responder who has taken the last position of the largest region may take all the
others at once. -/
theorem nextSpan_is_matched_largest_region :
    (1 : UInt64).toNat + (Word.top - 1).toNat ≤ Word.top.toNat ∧
      responder.nextSpan Word.top 1 (Word.top - 1) = .ok ⟨0, Word.top - 1⟩ ∧
      Word.add 1 (Word.top - 1) = .ok Word.top ∧
      responder.Matched Word.top 1 (Word.top - 1) ⟨0, Word.top - 1⟩ Word.top := by
  have fits : (1 : UInt64).toNat + (Word.top - 1).toNat ≤ Word.top.toNat := by decide
  have next : responder.nextSpan Word.top 1 (Word.top - 1) = .ok ⟨0, Word.top - 1⟩ := rfl
  have top : Word.add 1 (Word.top - 1) = .ok Word.top := rfl
  rcases nextSpan_is_matched responder fits with ⟨span, after, taken, sum, matched⟩
  obtain rfl : span = ⟨0, Word.top - 1⟩ := Except.ok.inj (taken.symm.trans next)
  obtain rfl : after = Word.top := Except.ok.inj (sum.symm.trans top)
  exact ⟨fits, next, top, matched⟩

end OneTimePad.Role
