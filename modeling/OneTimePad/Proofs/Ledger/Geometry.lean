import Mathlib.Order.CompletePartialOrder
import Mathlib.Order.Interval.Set.Disjoint
import OneTimePad.Ledger.Role

/-!
# The two sides of the region

Seen as sets of positions, all the formulas of a role come down to one notion:
its *side*, the first so many positions from the end that it begins at.  The
positions of the other party are the side of the other role.  As long as both
amounts fit the region together, the two sides do not meet, and what a role
takes next belongs to neither.
-/

namespace OneTimePad

/-- The positions of a span. -/
def Span.positions (span : Span) : Set Nat :=
  Set.Ico span.start.toNat span.stop.toNat

/-- Runs of positions are disjoint when one of them ends before the other one
begins. -/
theorem disjoint_ico_iff {start length first last : Nat} (nonempty : 0 < length) :
    Disjoint (Set.Ico start (start + length)) (Set.Ico first last) ↔
      start + length ≤ first ∨ last ≤ start ∨ last ≤ first := by
  rw [Set.Ico_disjoint_Ico]
  omega

namespace Role

/-- The first `amount` positions from the end of the region that a role begins
at. -/
def side (role : Role) (total amount : Nat) : Set Nat :=
  match role with
  | initiator => Set.Ico 0 amount
  | responder => Set.Ico (total - amount) total

/-- Where the next `length` positions of a role begin, after it has taken
`amount` positions. -/
def nextStart (role : Role) (total amount length : Nat) : Nat :=
  match role with
  | initiator => amount
  | responder => total - amount - length

variable {role : Role} {total amount length : Nat}

theorem eq_or_eq_peer (role other : Role) : other = role ∨ other = role.peer := by
  cases role <;> cases other <;> simp [peer]

theorem peer_ne (role : Role) : role.peer ≠ role := by
  cases role <;> simp [peer]

/-! ## Sides -/

theorem side_zero : role.side total 0 = ∅ := by
  cases role with
  | initiator => exact Set.Ico_self 0
  | responder => exact Set.Ico_self total

theorem side_subset_region (fits : amount ≤ total) :
    role.side total amount ⊆ Set.Ico 0 total := by
  cases role with
  | initiator => exact Set.Ico_subset_Ico_right fits
  | responder => exact Set.Ico_subset_Ico_left (Nat.zero_le _)

theorem side_mono {more : Nat} (le : amount ≤ more) :
    role.side total amount ⊆ role.side total more := by
  cases role with
  | initiator => exact Set.Ico_subset_Ico_right le
  | responder => exact Set.Ico_subset_Ico_left (Nat.sub_le_sub_left le total)

/-- The sides of both roles do not meet as long as they fit the region
together. -/
theorem disjoint_side_peer {other : Nat} (fits : amount + other ≤ total) :
    Disjoint (role.side total amount) (role.peer.side total other) := by
  cases role with
  | initiator =>
      rw [side, peer, side, Set.Ico_disjoint_Ico]
      omega
  | responder =>
      rw [side, peer, side, Set.Ico_disjoint_Ico]
      omega

theorem nextStart_add_le (fits : amount + length ≤ total) :
    role.nextStart total amount length + length ≤ total := by
  cases role with
  | initiator => exact fits
  | responder =>
      rw [nextStart]
      omega

/-- A side grows by the positions that are taken next, and by nothing else. -/
theorem side_add (fits : amount + length ≤ total) :
    role.side total (amount + length) =
      Set.Ico (role.nextStart total amount length) (role.nextStart total amount length + length) ∪
        role.side total amount := by
  cases role with
  | initiator =>
      rw [side, side, nextStart, Set.union_comm,
        Set.Ico_union_Ico_eq_Ico (Nat.zero_le _) (Nat.le_add_right _ _)]
  | responder =>
      have start : total - amount - length = total - (amount + length) := Nat.sub_sub _ _ _
      have stop : total - amount - length + length = total - amount := by omega
      rw [side, side, nextStart, stop, start, Set.Ico_union_Ico_eq_Ico (by omega) (Nat.sub_le _ _)]

theorem next_subset_side (fits : amount + length ≤ total) :
    Set.Ico (role.nextStart total amount length) (role.nextStart total amount length + length) ⊆
      role.side total (amount + length) := by
  rw [side_add fits]
  exact Set.subset_union_left

theorem disjoint_next_side (fits : amount + length ≤ total) :
    Disjoint
      (Set.Ico (role.nextStart total amount length) (role.nextStart total amount length + length))
      (role.side total amount) := by
  cases role with
  | initiator =>
      rw [nextStart, side, Set.Ico_disjoint_Ico]
      omega
  | responder =>
      rw [nextStart, side, Set.Ico_disjoint_Ico]
      omega

/-! ## The formulas of a role -/

section Words

variable {total sent seen offset length : UInt64}

/-- The next positions of a role, when they exist. -/
theorem nextSpan_eq_ok (fits : sent.toNat + length.toNat ≤ total.toNat) :
    role.nextSpan total sent length =
      .ok
        ⟨UInt64.ofNat (role.nextStart total.toNat sent.toNat length.toNat),
          UInt64.ofNat (role.nextStart total.toNat sent.toNat length.toNat + length.toNat)⟩ := by
  have totalLt := Word.toNat_lt total
  cases role with
  | initiator =>
      have stop : Word.add sent length = .ok (UInt64.ofNat (sent.toNat + length.toNat)) :=
        Word.add_eq_ok (by omega)
      simp [nextSpan, nextStart, stop]
  | responder =>
      have stop : Word.sub total sent = .ok (UInt64.ofNat (total.toNat - sent.toNat)) :=
        Word.sub_eq_ok (by omega)
      have stopNat : (UInt64.ofNat (total.toNat - sent.toNat)).toNat = total.toNat - sent.toNat :=
        Word.toNat_ofNat (by omega)
      have start : Word.sub (UInt64.ofNat (total.toNat - sent.toNat)) length =
          .ok (UInt64.ofNat (total.toNat - sent.toNat - length.toNat)) := by
        rw [Word.sub_eq_ok (by omega), stopNat]
      have back : total.toNat - sent.toNat - length.toNat + length.toNat =
          total.toNat - sent.toNat := by omega
      simp [nextSpan, nextStart, stop, start, back]

theorem exists_nextSpan (role : Role) (fits : sent.toNat + length.toNat ≤ total.toNat) :
    ∃ span, role.nextSpan total sent length = .ok span ∧
      span.start.toNat = role.nextStart total.toNat sent.toNat length.toNat ∧
      span.stop.toNat = role.nextStart total.toNat sent.toNat length.toNat + length.toNat := by
  have stopLt := (role.nextStart_add_le fits).trans_lt (Word.toNat_lt total)
  have startLt := (Nat.le_add_right _ length.toNat).trans_lt stopLt
  exact ⟨_, nextSpan_eq_ok fits, Word.toNat_ofNat startLt, Word.toNat_ofNat stopLt⟩

/-- Inside the region, the offsets that a role owns are those of its side. -/
theorem owns_iff_mem_side (inside : offset.toNat < total.toNat) :
    role.owns total sent offset = true ↔ offset.toNat ∈ role.side total.toNat sent.toNat := by
  cases role with
  | initiator => simp [owns, side, UInt64.lt_iff_toNat_lt]
  | responder => simp [owns, side, UInt64.le_iff_toNat_le, inside]

/-- The processed positions are the side of the other role. -/
theorem positions_processed :
    (role.processed total seen).positions = role.peer.side total.toNat seen.toNat := by
  cases role with
  | initiator => rw [processed, Span.positions, Word.toNat_subSaturating, peer, side]
  | responder =>
      have zero : (0 : UInt64).toNat = 0 := rfl
      rw [processed, Span.positions, zero, peer, side]

/-- The processed offsets are those of the side of the other role. -/
theorem hasProcessed_iff_mem_side :
    role.hasProcessed total seen offset = true ↔
      offset.toNat ∈ role.peer.side total.toNat seen.toNat := by
  cases role with
  | initiator => simp [hasProcessed, processed, Span.contains_iff, side, peer]
  | responder => simp [hasProcessed, processed, Span.contains_iff, side, peer]

/-- A frame runs into the processed positions exactly when it begins outside of
them and meets them. -/
theorem runsIntoProcessed_iff :
    role.runsIntoProcessed total seen offset length = true ↔
      offset.toNat ∉ role.peer.side total.toNat seen.toNat ∧
        ¬ Disjoint (Set.Ico offset.toNat (offset.toNat + length.toNat))
          (role.peer.side total.toNat seen.toNat) := by
  -- where the sum is cut, every processed position still lies below it
  have stopLt := Word.toNat_lt (role.processed total seen).stop
  rw [← positions_processed, Span.positions, Set.Ico_disjoint_Ico, Set.mem_Ico]
  simp only [runsIntoProcessed, Span.isEmpty, Span.contains, Bool.and_eq_true, Bool.not_eq_true',
    Bool.and_eq_false_iff, decide_eq_true_eq, decide_eq_false_iff_not, UInt64.lt_iff_toNat_lt,
    UInt64.le_iff_toNat_le, Word.toNat_addSaturating]
  omega

/-- A frame that begins at new positions runs into the processed ones exactly when
it meets the side of the other role. -/
theorem runsIntoProcessed_eq_false_iff
    (unprocessed : offset.toNat ∉ role.peer.side total.toNat seen.toNat) :
    role.runsIntoProcessed total seen offset length = false ↔
      Disjoint (Set.Ico offset.toNat (offset.toNat + length.toNat))
        (role.peer.side total.toNat seen.toNat) := by
  rw [← Bool.not_eq_true, runsIntoProcessed_iff]
  simp [unprocessed]

end Words

end Role

end OneTimePad
