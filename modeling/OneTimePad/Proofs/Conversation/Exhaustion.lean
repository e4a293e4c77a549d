import OneTimePad.Proofs.Conversation.Arrival
import OneTimePad.Proofs.Conversation.Stored
import OneTimePad.Proofs.Ledger.Exhaustion

/-!
# Exhausted conversations

A message that is refused for want of key material is refused for ever, and so is
every longer one.  Whether nothing at all will be sent any more depends on the
rest that the refusal names: below the threshold nothing will, and from the
threshold on the empty message is sent at once.

The threshold of a live conversation is never below what the smallest frame
consumes, since its settings were found to be valid when it began.
-/

namespace OneTimePad

open Authenticator (keySize)
open Padding (padded)

namespace Conversation

/-- No message of any run is sent. -/
def Mute (conversation : Conversation) : Prop :=
  ∀ moves outcomes final, conversation.run moves = .ok (outcomes, final) →
    ∀ message bytes, (Move.send message, Outcome.sent (.ok bytes)) ∉ moves.zip outcomes

variable {conversation after final : Conversation}

/-! ## What is sent later -/

theorem cost_eq (message : List UInt8) :
    cost message = max Padding.minimumLength (Padding.overhead + message.length) + keySize := by
  rw [cost, Padding.length_padded]

theorem smallestFrame_le_cost (message : List UInt8) : smallestFrame ≤ cost message :=
  Nat.add_le_add_right (Padding.minimumLength_le_padded message) _

theorem cost_mono {shorter longer : List UInt8} (le : shorter.length ≤ longer.length) :
    cost shorter ≤ cost longer := by
  rw [cost_eq, cost_eq]
  omega

/-- No move turns the books of a conversation back. -/
theorem Effect.follows {outcome : Outcome} (effect : conversation.Effect outcome after)
    (grounded : conversation.Grounded) : conversation.ledger.Follows after.ledger := by
  cases effect with
  | @sends message frame sends seals =>
      have sent : (conversation.spend message).ledger.sent.toNat = _ :=
        sends.granted.toNat_sent sends.balanced
      exact ⟨rfl, rfl, rfl, by omega, Nat.le_refl _, fun gone => gone⟩
  | delivers delivers =>
      have seen := UInt64.lt_iff_toNat_lt.mp delivers.seen_lt
      exact ⟨rfl, rfl, rfl, Nat.le_refl _, Nat.le_of_lt seen, fun gone => gone⟩
  | reloads reloaded =>
      rw [(reload_eq_pure reloaded).2.2]
      exact ⟨rfl, rfl, grounded.threshold.symm, Nat.le_refl _, Nat.le_refl _, fun gone => gone⟩
  | burns => exact ⟨rfl, rfl, rfl, Nat.le_refl _, Nat.le_refl _, fun _ => rfl⟩
  | rests => exact .refl _

/-- Whatever a run sends could have been granted before it. -/
theorem Reachable.grants_of_run (reachable : conversation.Reachable) {moves : List Move}
    {outcomes : List Outcome} (ran : conversation.run moves = .ok (outcomes, final))
    {message bytes : List UInt8}
    (sent : (Move.send message, Outcome.sent (.ok bytes)) ∈ moves.zip outcomes) :
    conversation.ledger.Grants (cost message) := by
  induction moves generalizing conversation outcomes with
  | nil => cases sent
  | cons move moves inductionHypothesis =>
      rcases run_cons_eq_ok ran with ⟨outcome, middle, others, played, rest, rfl⟩
      rw [List.zip_cons_cons, List.mem_cons] at sent
      rcases sent with now | later
      · rcases Prod.mk.inj now with ⟨rfl, rfl⟩
        rcases Checked.bind_eq_ok_iff.mp played with ⟨⟨answer, next⟩, sent, same⟩
        rcases Prod.mk.inj (Except.ok.inj same) with ⟨answered, rfl⟩
        rcases Outcome.sent.inj answered with rfl
        exact (sends_of_send sent).granted
      · have granted := inductionHypothesis (reachable.played played) rest later
        exact ((reachable.sound.effect_of_play played).follows reachable.grounded).grants granted

/-! ## What is refused for ever -/

/-- Nothing will be sent any more exactly when the smallest frame is not granted
now. -/
theorem Reachable.mute_iff (reachable : conversation.Reachable) :
    conversation.Mute ↔ ¬ conversation.ledger.Grants smallestFrame := by
  constructor
  · intro mute granted
    have sends : conversation.Sends [] := reachable.sound.sends (by decide) granted
    rcases send_eq_ok sends with ⟨frame, -, sent⟩
    have ran : conversation.run [.send []] =
        .ok ([.sent (.ok frame.toBytes)], conversation.spend []) := by
      rw [run, play_send sent]
      rfl
    exact mute _ _ _ ran [] _ (List.mem_singleton.mpr rfl)
  · intro refused moves outcomes final ran message bytes sent
    have granted := reachable.grants_of_run ran sent
    exact refused (granted.of_le (smallestFrame_le_cost message))

/-- The smallest frame fits above the threshold. -/
theorem Reachable.smallestFrame_le_threshold (reachable : conversation.Reachable)
    (live : conversation.ledger.burned = false) :
    smallestFrame ≤ conversation.ledger.threshold.toNat := by
  rcases exists_tokens_of_begin (reachable.grounded.begun live) with ⟨valid, -⟩
  rw [reachable.grounded.threshold]
  exact (Settings.validate_eq_ok_iff.mp valid).2.1

/-- What a refusal of this kind says: the message is too long now, or nothing is
granted at all. -/
theorem Sound.eq_of_send_terminal (sound : conversation.Sound) {message : List UInt8}
    {error : LedgerError} (sent : conversation.send message = .ok ⟨.error error, after⟩)
    (terminal : error.isTerminal = true) :
    ¬ conversation.ledger.Grants (cost message) ∧ after = conversation ∧
      error =
        if conversation.ledger.burned then .burned
        else
          .padExhausted (UInt64.ofNat (cost message))
            (UInt64.ofNat conversation.ledger.free) := by
  rcases sound.send_cases (sized_of_play (play_send sent)) with ⟨reason, unsent, refused⟩ | sends
  · cases refused.symm.trans sent
    cases unsent with
    | large long => cases terminal
    | refused short notGranted =>
        have asked : Reservation.consumption (padded message).length =
            UInt64.ofNat (cost message) := by
          rw [← toNat_consumption short, UInt64.ofNat_toNat]
        rw [asked]
        exact ⟨notGranted, rfl, rfl⟩
  · rcases send_eq_ok sends with ⟨frame, -, answered⟩
    cases answered.symm.trans sent

/-- A live conversation is mute below its threshold only. -/
theorem Reachable.mute_iff_finalBelow (reachable : conversation.Reachable) {requested : UInt64} :
    conversation.Mute ↔
      LedgerError.FinalBelow conversation.ledger.threshold.toNat
        (if conversation.ledger.burned then .burned
          else .padExhausted requested (UInt64.ofNat conversation.ledger.free)) := by
  rw [reachable.mute_iff, Ledger.not_grants_iff_finalBelow]
  cases live : conversation.ledger.burned with
  | true => exact Iff.rfl
  | false => rw [Nat.max_eq_left (reachable.smallestFrame_le_threshold live)]

/-- A reservation that is refused, and a message that is refused for want of key
material, leave everything as it was, and are refused ever after, together with
all that are not smaller.  That nothing at all is granted ever after, as such an
error claims, is true exactly if the conversation was burned or if the rest that
the error names is below the threshold, or, under settings that no conversation
has, below the smallest request. -/
theorem refusal_final_iff {settings : Settings} {ledger : Ledger}
    (kept : Ledger.Reachable settings ledger) (reachable : conversation.Reachable) :
    (∀ {after : Ledger} {cipherLength : Nat} {error : LedgerError},
      ledger.reserve cipherLength = .ok ⟨.error error, after⟩ →
      error.isTerminal = true ∧ after = ledger ∧
        (ledger.Mute ↔ error.FinalBelow (max ledger.threshold.toNat keySize)) ∧
        ∀ calls answers final, ledger.run calls = .ok (answers, final) →
          ∀ shorter reservation, (Ledger.Call.reserve shorter,
              Ledger.Answer.reserved (.ok reservation)) ∈ calls.zip answers →
            shorter < cipherLength) ∧
      ∀ {after : Conversation} {message : List UInt8} {error : LedgerError},
        conversation.send message = .ok ⟨.error error, after⟩ → error.isTerminal = true →
        after = conversation ∧
          (conversation.Mute ↔ error.FinalBelow conversation.ledger.threshold.toNat) ∧
          ∀ moves outcomes final, conversation.run moves = .ok (outcomes, final) →
            ∀ shorter bytes,
              (Move.send shorter, Outcome.sent (.ok bytes)) ∈ moves.zip outcomes →
                shorter.length < message.length := by
  constructor
  · intro after cipherLength error refused
    have balanced := kept.balanced_and_threshold.1
    rcases balanced.eq_of_reserve_error refused with ⟨notGranted, rfl, rfl⟩
    refine ⟨?_, rfl, balanced.mute_iff.trans Ledger.not_grants_iff_finalBelow, ?_⟩
    · cases after.burned <;> rfl
    · intro calls answers final ran shorter reservation given
      by_contra notShorter
      have longer := Ledger.consumption_mono (Nat.le_of_not_lt notShorter)
      exact notGranted ((balanced.grants_of_run ran given).of_le longer)
  · intro after message error refused terminal
    rcases reachable.sound.eq_of_send_terminal refused terminal with ⟨notGranted, rfl, rfl⟩
    refine ⟨rfl, reachable.mute_iff_finalBelow, ?_⟩
    intro moves outcomes final ran shorter bytes sent
    by_contra notShorter
    have longer := cost_mono (Nat.le_of_not_lt notShorter)
    exact notGranted ((reachable.grants_of_run ran sent).of_le longer)

/-- Of the 104 octets that are left, 41 and the key of the authenticator are
refused, with an error that claims to be final, and 40 are granted next.  A
conversation over 192 octets refuses a long message in the same way, and still
sends others. -/
theorem refusal_final_iff_boundary :
    ((Ledger.fresh .initiator 104).reserve 41 =
        .ok (.refuse (Ledger.fresh .initiator 104) (.padExhausted 105 104)) ∧
      (LedgerError.padExhausted 105 104).isTerminal = true ∧
      ¬ (Ledger.fresh .initiator 104).Mute ∧
      (Ledger.fresh .initiator 104).reserve 40 =
        .ok ⟨.ok ⟨0, 40⟩, { Ledger.fresh .initiator 104 with sent := 104 }⟩) ∧
      ∃ start, begin smallPad .initiator {} = pure start ∧
        start.send (List.replicate 150 7) = .ok (.refuse start (.padExhausted 217 192)) ∧
        ¬ start.Mute := by
  rcases exists_begin_smallPad .initiator with ⟨start, begun⟩
  rcases refusal_final_iff (.fresh .initiator 104 : Ledger.Reachable {} _)
    (.begun length_smallPad_lt begun) with ⟨books, sends⟩
  have refused : (Ledger.fresh .initiator 104).reserve 41 =
      .ok (.refuse (Ledger.fresh .initiator 104) (.padExhausted 105 104)) := rfl
  rcases books refused with ⟨terminal, -, final, -⟩
  refine ⟨⟨refused, terminal, fun mute => absurd (final.mp mute) (by decide), rfl⟩, ?_⟩
  have ledger : start.ledger = Ledger.fresh .initiator 192 := ledger_of_begin_smallPad begun
  have padding : Padding.paddedLength (List.replicate 150 (7 : UInt8)).length = .ok 153 := by
    rw [List.length_replicate]
    rfl
  have short : ¬ Frame.maximumCiphertext < 153 := by decide
  have unreserved : start.ledger.reserve 153 =
      .ok (.refuse start.ledger (.padExhausted 217 192)) := by
    rw [ledger]
    rfl
  have unsent : start.send (List.replicate 150 7) =
      .ok (.refuse start (.padExhausted 217 192)) := by
    rw [send, padding, Checked.ok_bind, if_neg short, unreserved]
    rfl
  rcases sends unsent rfl with ⟨-, final, -⟩
  refine ⟨start, begun, unsent, fun mute => absurd (final.mp mute) ?_⟩
  rw [ledger]
  decide

end Conversation

end OneTimePad
