import OneTimePad.Proofs.Conversation.Run
import OneTimePad.Proofs.Ledger.Stored

/-!
# Burned conversations

Burning is final.  Whatever is asked of a burned conversation, it is refused and
stays as it is: there is no key material left, and none that could come back,
because the counters are stored together with the burn.  Restoring looks at that
first, whatever pad and settings it is given.

The books alone can be taken up again from the stored counters, under any
settings.  They are burned then too, and give nothing out and record nothing.
-/

namespace OneTimePad

open Padding (padded)

namespace Ledger

variable {ledger : Ledger}

/-- What burned books answer.  They still look, and do nothing else. -/
def refusal (ledger : Ledger) : Call → Answer
  | .reserve _ => .reserved (.error .burned)
  | .record _ _ => .recorded (.error .burned)
  | .classify offset => .classified (.ok (ledger.classify offset))
  | .classifyFrame offset length => .classified (ledger.classifyFrame offset length)
  | .isDuplicate offset => .duplicate (ledger.isDuplicate offset)
  | .burn => .burned
  | .snapshot => .stored ledger.snapshot

theorem burn_eq_self (burned : ledger.burned = true) : ledger.burn = ledger := by
  rw [burn, ← burned]

theorem Balanced.reserve_of_burned (balanced : ledger.Balanced) (burned : ledger.burned = true)
    (cipherLength : Nat) : ledger.reserve cipherLength = .ok (.refuse ledger .burned) := by
  have refused : ¬ ledger.Grants (Reservation.consumption cipherLength).toNat := by
    rintro ⟨live, -⟩
    exact absurd (burned.symm.trans live) (by decide)
  rw [reserve_eq_refused balanced refused, if_pos burned]

theorem Balanced.perform_of_burned (balanced : ledger.Balanced) (burned : ledger.burned = true)
    (call : Call) : ledger.perform call = .ok (ledger.refusal call, ledger) := by
  cases call with
  | reserve cipherLength => exact perform_reserve (balanced.reserve_of_burned burned cipherLength)
  | record offset length =>
      have refused : ledger.record offset length = .refuse ledger .burned := if_pos burned
      rw [perform, refused]
      rfl
  | burn => rw [perform, burn_eq_self burned, refusal, Checked.pure_eq_ok]
  | _ => rfl

/-- Burned books refuse whatever would change them, in every run. -/
theorem Balanced.run_of_burned (balanced : ledger.Balanced) (burned : ledger.burned = true)
    (calls : List Call) : ledger.run calls = .ok (calls.map ledger.refusal, ledger) := by
  induction calls with
  | nil => rfl
  | cons call calls inductionHypothesis =>
      rw [run, balanced.perform_of_burned burned, Checked.ok_bind]
      simp only [inductionHypothesis, Checked.ok_bind, Checked.pure_eq_ok, List.map_cons]

end Ledger

namespace Conversation

variable {conversation : Conversation}

/-- What a burned conversation answers.  Only a message that fits no frame, and
an envelope that is not for this conversation or holds no octets, are refused
for another reason. -/
def refusal (conversation : Conversation) : Move → Outcome
  | .send message =>
      if Frame.maximumCiphertext < (padded message).length then
        .sent (.error (.frame (.payloadTooLarge (padded message).length Frame.maximumCiphertext)))
      else .sent (.error .burned)
  | .receive _ => .received (.error .burned)
  | .receiveEnvelope envelope =>
      if envelope.conversation ≠ conversation.id then
        .received (.error (.unknownConversation envelope.conversation))
      else
        match envelope.frameBytes with
        | .error error => .received (.error (.frame error))
        | .ok _ => .received (.error .burned)
  | .mnemonic => .told (.error .burned)
  | .verifyMnemonic _ => .compared false
  | .reload => .reloaded (.error .burned)
  | .burn => .burned

section Burned

variable (burned : conversation.ledger.burned = true)

include burned

theorem play_send_of_burned (balanced : conversation.ledger.Balanced) {message : List UInt8}
    (sized : Padding.overhead + message.length < wordLimit) :
    conversation.play (.send message) =
      .ok (conversation.refusal (.send message), conversation) := by
  have padding := Padding.paddedLength_eq_ok sized
  rw [← Padding.length_padded] at padding
  have refused := balanced.reserve_of_burned burned (padded message).length
  by_cases long : Frame.maximumCiphertext < (padded message).length
  · simp [play, send, padding, long, refusal, Reply.refuse]
  · simp [play, send, padding, long, refused, refusal, Reply.refuse]

theorem play_receiveEnvelope_of_burned (envelope : Envelope) :
    conversation.play (.receiveEnvelope envelope) =
      .ok (conversation.refusal (.receiveEnvelope envelope), conversation) := by
  rw [refusal]
  by_cases other : envelope.conversation ≠ conversation.id
  · rw [if_pos other]
    exact play_receiveEnvelope (if_pos other)
  · rw [if_neg other]
    cases content : envelope.frameBytes with
    | error error =>
        have refused : conversation.receiveEnvelope envelope =
            .ok (.refuse conversation (.frame error)) := by
          rw [receiveEnvelope, if_neg other, content]
        exact play_receiveEnvelope refused
    | ok bytes =>
        have refused : conversation.receiveEnvelope envelope =
            .ok (.refuse conversation .burned) := by
          rw [receiveEnvelope, if_neg other, content]
          exact receive_of_burned burned
        exact play_receiveEnvelope refused

theorem restore_of_burned (pad : List UInt8) (settings : Settings) :
    restore pad conversation.snapshot settings = throw .burned := by
  have stored : conversation.snapshot.burned = true := burned
  simp [restore, stored]

end Burned

/-- Every move is refused by a burned conversation, and leaves it as it is. -/
theorem play_burn (balanced : conversation.ledger.Balanced) {move : Move} (sized : move.Sized) :
    conversation.burn.play move = .ok (conversation.burn.refusal move, conversation.burn) := by
  have burned : conversation.burn.ledger.burned = true := rfl
  cases move with
  | send message => exact play_send_of_burned burned balanced sized
  | receive bytes => exact play_receive (receive_of_burned burned)
  | receiveEnvelope envelope => exact play_receiveEnvelope_of_burned burned envelope
  | mnemonic => rfl
  | verifyMnemonic spoken => rfl
  | reload => exact play_reload_of_throw (restore_of_burned burned _ _)
  | burn => rfl

/-- So is every run of moves. -/
theorem run_burn (balanced : conversation.ledger.Balanced) {moves : List Move}
    (sized : ∀ move ∈ moves, move.Sized) :
    conversation.burn.run moves =
      .ok (moves.map conversation.burn.refusal, conversation.burn) := by
  induction moves with
  | nil => rfl
  | cons move moves inductionHypothesis =>
      rcases List.forall_mem_cons.mp sized with ⟨first, rest⟩
      rw [run, play_burn balanced first, Checked.ok_bind]
      simp only [inductionHypothesis rest, Checked.ok_bind, Checked.pure_eq_ok, List.map_cons]

/-- Nothing is left to seal or to open frames with. -/
theorem region_burn (conversation : Conversation) : conversation.burn.region = [] :=
  List.drop_nil

/-- Burning is final.  Every move of every later run is refused, and the
conversation stays as it was burned: with no region, and with the counters that
it had.  What is stored of it says that it was burned, also once it is read back;
no pad and no settings restore it; and the books that are taken up from it, under
any settings, answer every run of calls like burned ones. -/
theorem burn_is_final (reachable : conversation.Reachable) {moves : List Move}
    (sized : ∀ move ∈ moves, move.Sized) :
    conversation.burn.run moves =
        .ok (moves.map conversation.burn.refusal, conversation.burn) ∧
      conversation.burn.region = [] ∧
      conversation.burn.snapshot = { conversation.snapshot with burned := true } ∧
      (∀ trailing, Snapshot.ofCbor (conversation.burn.snapshot.toCbor ++ trailing) =
        .ok conversation.burn.snapshot) ∧
      (∀ pad settings, restore pad conversation.burn.snapshot settings = throw .burned) ∧
      ∀ settings, ∃ ledger, Ledger.restore conversation.burn.snapshot settings = .ok ledger ∧
        ∀ calls, ledger.run calls = .ok (calls.map ledger.refusal, ledger) := by
  have balanced := reachable.sound.balanced
  refine ⟨run_burn balanced sized, conversation.region_burn, rfl, Snapshot.ofCbor_toCbor _,
    restore_of_burned rfl, ?_⟩
  intro settings
  have stored := (Ledger.restore_eq conversation.burn.snapshot settings).trans (if_pos balanced)
  exact ⟨_, stored, Ledger.Balanced.run_of_burned balanced rfl⟩

/-- A responder that has just begun is burned, asked for everything, reloaded
and burned again. -/
theorem burn_is_final_smallPad :
    ∃ start, begin smallPad .responder {} = pure start ∧
      start.burn.run
          [.send [7], .receive [0xff], .mnemonic, .verifyMnemonic ["acorn"], .reload, .burn] =
        .ok ([.sent (.error .burned), .received (.error .burned), .told (.error .burned),
          .compared false, .reloaded (.error .burned), .burned], start.burn) := by
  rcases exists_begin_smallPad .responder with ⟨start, begun⟩
  have sized : ∀ move ∈ ([.send [7], .receive [0xff], .mnemonic, .verifyMnemonic ["acorn"],
      .reload, .burn] : List Move), move.Sized := by
    simp [Move.Sized, Padding.overhead, wordLimit]
  exact ⟨start, begun, (burn_is_final (.begun length_smallPad_lt begun) sized).1⟩

end Conversation

end OneTimePad
