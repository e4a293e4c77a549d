import OneTimePad.Proofs.Cbor.Reading
import OneTimePad.Proofs.Ledger.Run

/-!
# Stored books

Counters are read back from the octets that they are stored as, whatever
follows those, and each of them may be any word.  Since the books are balanced
in every state that a ledger can reach, what is read back is always taken up
again; and nothing belongs to the books but the counters and the threshold of
the settings, so the same ledger comes back.
-/

namespace OneTimePad

open Cbor

namespace Snapshot

/-! ## The record -/

theorem reads_readRole (role : Role) : Reads readRole (writeText role.tagName) role := by
  cases role with
  | initiator =>
      apply (reads_readChoice (by decide)).map
      rw [if_pos rfl]
      exact .pure _
  | responder =>
      apply (reads_readChoice (by decide)).map
      rw [if_neg (by decide), if_pos rfl]
      exact .pure _

/-- The fields are read in the order in which they are stored. -/
theorem reads_toCbor (snapshot : Snapshot) :
    Reads (readRecord Draft.entry {} >>= Draft.finish) snapshot.toCbor snapshot := by
  have record : Reads (readRecord Draft.entry {}) snapshot.toCbor
      { role := some snapshot.role, total := some snapshot.total, sent := some snapshot.sent
        seen := some snapshot.seen, burned := some snapshot.burned } := by
    simp only [toCbor, List.append_assoc]
    rw [← List.append_nil (writeBool _)]
    apply reads_readRecord
    · decide
    · rw [List.length_append]
      exact Nat.le_add_right_of_le (by decide)
    · intro turns
      -- A field is found by its name, which none of the fields before it has.
      apply (readsEntry_of_missing (if_pos rfl) (reads_readRole _) rfl).cons (by decide)
      apply (readsEntry_of_missing ((if_neg (by decide)).trans (if_pos rfl))
        (reads_writeUnsigned _) rfl).cons (by decide)
      apply (readsEntry_of_missing
        ((if_neg (by decide)).trans <| (if_neg (by decide)).trans (if_pos rfl))
        (reads_writeUnsigned _) rfl).cons (by decide)
      apply (readsEntry_of_missing
        ((if_neg (by decide)).trans <| (if_neg (by decide)).trans <|
          (if_neg (by decide)).trans (if_pos rfl))
        (reads_writeUnsigned _) rfl).cons (by decide)
      apply (readsEntry_of_missing
        ((if_neg (by decide)).trans <| (if_neg (by decide)).trans <|
          (if_neg (by decide)).trans <| (if_neg (by decide)).trans (if_pos rfl))
        (reads_writeBool _) rfl).cons (by decide)
      exact reads_readEntries_nil _ _
  exact record.map (.pure _)

/-- What follows stored counters does not change what is read. -/
theorem ofCbor_toCbor (snapshot : Snapshot) (rest : List UInt8) :
    ofCbor (snapshot.toCbor ++ rest) = .ok snapshot := by
  rw [ofCbor, snapshot.reads_toCbor.run rest]

end Snapshot

namespace Ledger

/-! ## The books -/

/-- Books that a ledger with these settings can come to. -/
inductive Reachable (settings : Settings) : Ledger → Prop where
  | fresh (role : Role) (total : UInt64) : Reachable settings (fresh role total settings)
  | restored {snapshot : Snapshot} {ledger : Ledger}
      (restored : restore snapshot settings = .ok ledger) : Reachable settings ledger
  | performed {ledger after : Ledger} {call : Call} {answer : Answer}
      (reachable : Reachable settings ledger)
      (performed : ledger.perform call = .ok (answer, after)) : Reachable settings after

/-- Store the counters, with these octets after them, and take the books up
again from what was stored. -/
def reload (ledger : Ledger) (settings : Settings) (trailing : List UInt8) :
    Except LedgerError Ledger := do
  restore (← Snapshot.ofCbor (ledger.snapshot.toCbor ++ trailing)) settings

variable {settings : Settings} {ledger : Ledger}

/-- The books are balanced all along, and the threshold is that of the
settings. -/
theorem Reachable.balanced_and_threshold (reachable : Reachable settings ledger) :
    ledger.Balanced ∧ ledger.threshold = settings.threshold := by
  induction reachable with
  | fresh role total => exact ⟨Nat.zero_le _, rfl⟩
  | restored restored =>
      constructor
      · exact balanced_of_restore restored
      · rw [restore_eq] at restored
        split at restored
        · cases restored
          rfl
        · cases restored
  | performed _ performed inductionHypothesis =>
      rcases inductionHypothesis with ⟨balanced, threshold⟩
      have effect := balanced.effect_of_perform performed
      exact ⟨effect.keeps_balance balanced, (effect.follows balanced).threshold.trans threshold⟩

/-- Balanced books are all in their counters and the threshold. -/
theorem Balanced.restore_snapshot (balanced : ledger.Balanced)
    (threshold : ledger.threshold = settings.threshold) :
    restore ledger.snapshot settings = .ok ledger := by
  have counters : ledger.snapshot.sent.toNat + ledger.snapshot.seen.toNat ≤
      ledger.snapshot.total.toNat :=
    balanced
  rw [restore_eq, if_pos counters, ofSnapshot, ← threshold]
  rfl

theorem Reachable.reload_eq_ok (reachable : Reachable settings ledger) (trailing : List UInt8) :
    ledger.reload settings trailing = .ok ledger := by
  rcases reachable.balanced_and_threshold with ⟨balanced, threshold⟩
  rw [reload, Snapshot.ofCbor_toCbor]
  exact balanced.restore_snapshot threshold

end Ledger

end OneTimePad
