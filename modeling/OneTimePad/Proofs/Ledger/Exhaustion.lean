import OneTimePad.Proofs.Ledger.Run

/-!
# Exhausted books

A reservation is refused because the books were burned, because what is left is
below the threshold, or because more was asked for than is left.  Since the rest
only shrinks, whatever is refused once is refused for ever, and so is all that
is larger.

But only the first two say something about every later request.  After the third
a smaller request is granted, although the error is of the same kind: whether
nothing will be given out any more is not for the kind of the error to say, but
for the rest that it names.
-/

namespace OneTimePad

open Authenticator (keySize)

namespace LedgerError

/-- The refusal of a burned ledger, or of one with less than `floor` left. -/
def FinalBelow (floor : Nat) : LedgerError → Prop
  | burned => True
  | padExhausted _ remaining => remaining.toNat < floor
  | _ => False

instance (floor : Nat) : DecidablePred (FinalBelow floor)
  | burned => inferInstanceAs (Decidable True)
  | padExhausted _ remaining => inferInstanceAs (Decidable (remaining.toNat < floor))
  | invalidFormat _ | insufficientPad _ _ | invalidSettings _ | lockPoisoned | frame _
  | primitive _ | snapshot _ | unknownConversation _ | duplicateConversation _ =>
      inferInstanceAs (Decidable False)

end LedgerError

namespace Ledger

/-- No request of any run is granted. -/
def Mute (ledger : Ledger) : Prop :=
  ∀ calls answers final, ledger.run calls = .ok (answers, final) →
    ∀ cipherLength reservation,
      (Call.reserve cipherLength, Answer.reserved (.ok reservation)) ∉ calls.zip answers

variable {ledger after final : Ledger}

/-! ## What is granted later -/

theorem consumption_mono {shorter longer : Nat} (le : shorter ≤ longer) :
    (Reservation.consumption shorter).toNat ≤ (Reservation.consumption longer).toNat := by
  rcases Nat.lt_or_ge (longer + keySize) wordLimit with fits | excess
  · have shorterFits : shorter + keySize < wordLimit := by omega
    rw [toNat_consumption fits, toNat_consumption shorterFits]
    exact Nat.add_le_add_right le _
  · rw [consumption_of_excess excess, Word.toNat_top]
    exact Nat.le_pred_of_lt (Word.toNat_lt _)

theorem Grants.of_le {wanted fewer : Nat} (granted : ledger.Grants wanted) (le : fewer ≤ wanted) :
    ledger.Grants fewer :=
  ⟨granted.1, granted.2.1, le.trans granted.2.2⟩

/-- What is granted later would have been granted before. -/
theorem Follows.grants {wanted : Nat} (follows : ledger.Follows after)
    (granted : after.Grants wanted) : ledger.Grants wanted := by
  rcases granted with ⟨live, aboveThreshold, enough⟩
  rw [follows.threshold] at aboveThreshold
  exact ⟨follows.live live, aboveThreshold.trans follows.free_le, enough.trans follows.free_le⟩

/-- A run of several calls is one call and the run of the others. -/
theorem run_cons_eq_ok {call : Call} {calls : List Call} {answers : List Answer}
    (ran : ledger.run (call :: calls) = .ok (answers, final)) :
    ∃ answer middle others, ledger.perform call = .ok (answer, middle) ∧
      middle.run calls = .ok (others, final) ∧ answers = answer :: others := by
  rcases Checked.bind_eq_ok_iff.mp ran with ⟨⟨answer, middle⟩, performed, rest⟩
  rcases Checked.bind_eq_ok_iff.mp rest with ⟨⟨others, last⟩, restRan, same⟩
  rcases Prod.mk.inj (Except.ok.inj same) with ⟨rfl, rfl⟩
  exact ⟨answer, middle, others, performed, restRan, rfl⟩

/-- Whatever a run is granted would have been granted before it. -/
theorem Balanced.grants_of_run (balanced : ledger.Balanced) {calls : List Call}
    {answers : List Answer} (ran : ledger.run calls = .ok (answers, final)) {cipherLength : Nat}
    {reservation : Reservation}
    (given : (Call.reserve cipherLength, Answer.reserved (.ok reservation)) ∈ calls.zip answers) :
    ledger.Grants (Reservation.consumption cipherLength).toNat := by
  induction calls generalizing ledger answers with
  | nil => cases given
  | cons call calls inductionHypothesis =>
      rcases run_cons_eq_ok ran with ⟨answer, middle, others, performed, rest, rfl⟩
      rw [List.zip_cons_cons, List.mem_cons] at given
      rcases given with now | later
      · rcases Prod.mk.inj now with ⟨rfl, rfl⟩
        rcases Checked.bind_eq_ok_iff.mp performed with ⟨⟨answer, next⟩, reserved, same⟩
        rcases Prod.mk.inj (Except.ok.inj same) with ⟨answered, rfl⟩
        rcases Answer.reserved.inj answered with rfl
        exact grants_of_reserve reserved
      · have effect := balanced.effect_of_perform performed
        have granted := inductionHypothesis (effect.keeps_balance balanced) rest later
        exact (effect.follows balanced).grants granted

/-! ## What is refused for ever -/

/-- Nothing will be given out any more exactly when the smallest request is not
granted now. -/
theorem Balanced.mute_iff (balanced : ledger.Balanced) : ledger.Mute ↔ ¬ ledger.Grants keySize := by
  constructor
  · intro mute granted
    have reserved : ledger.reserve 0 = _ := reserve_eq_granted balanced granted
    have ran : ledger.run [.reserve 0] =
        .ok ([.reserved (.ok (ledger.reservation 0))], ledger.advance keySize) := by
      rw [run, perform_reserve reserved]
      rfl
    exact mute _ _ _ ran 0 _ (List.mem_singleton.mpr rfl)
  · intro refused calls answers final ran cipherLength reservation given
    have granted := balanced.grants_of_run ran given
    exact refused (granted.of_le (keySize_le_consumption cipherLength))

/-- What a refusal says: the request is too large now, or nothing is granted at
all. -/
theorem Balanced.eq_of_reserve_error (balanced : ledger.Balanced) {cipherLength : Nat}
    {error : LedgerError} (refused : ledger.reserve cipherLength = .ok ⟨.error error, after⟩) :
    ¬ ledger.Grants (Reservation.consumption cipherLength).toNat ∧ after = ledger ∧
      error =
        if ledger.burned then .burned
        else .padExhausted (Reservation.consumption cipherLength) (UInt64.ofNat ledger.free) := by
  by_cases granted : ledger.Grants (Reservation.consumption cipherLength).toNat
  · rw [reserve_eq_granted balanced granted] at refused
    cases refused
  · rw [reserve_eq_refused balanced granted] at refused
    cases refused
    exact ⟨granted, rfl, rfl⟩

theorem not_grants_iff_finalBelow {wanted : Nat} {requested : UInt64} :
    ¬ ledger.Grants wanted ↔
      LedgerError.FinalBelow (max ledger.threshold.toNat wanted)
        (if ledger.burned then .burned
          else .padExhausted requested (UInt64.ofNat ledger.free)) := by
  unfold Grants
  cases ledger.burned with
  | true => simp [LedgerError.FinalBelow]
  | false =>
      simp only [LedgerError.FinalBelow, if_false, toNat_free, Bool.false_eq_true, true_and]
      omega

end Ledger

end OneTimePad
