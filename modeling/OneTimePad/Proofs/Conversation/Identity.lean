import OneTimePad.Proofs.Conversation.Stored
import OneTimePad.Proofs.Pad.Identity

/-!
# The identifier of a conversation

The tokens of a conversation are those of the pad that it was begun with.  No
move changes them, not even one that destroys this pad, so a conversation keeps
its identifier for good.  The identifier is a digest in hexadecimal digits, and
every one of them has the same size.
-/

namespace OneTimePad

theorem LedgerError.ofPrimitive_eq_ok {α : Type} {result : Except PadError α} {value : α}
    (ok : LedgerError.ofPrimitive result = .ok value) : result = .ok value := by
  cases result with
  | error error => cases ok
  | ok found => exact congrArg Except.ok (Except.ok.inj ok)

/-- No character needs more than four octets. -/
theorem Utf8.length_ofString_le (text : String) : (ofString text).length ≤ 4 * text.length := by
  have each : ∀ chars : List Char, (encode chars).length ≤ 4 * chars.length := by
    intro chars
    induction chars with
    | nil => exact Nat.le_refl _
    | cons char chars inductionHypothesis =>
        have one := char.utf8Size_le_four
        rw [encode, List.flatMap_cons, List.length_append, String.length_utf8EncodeChar,
          List.length_cons]
        rw [encode] at inductionHypothesis
        omega
  exact each text.toList

namespace Conversation

variable {conversation : Conversation}

/-- No move changes the tokens. -/
theorem Effect.tokens_eq {outcome : Outcome} {after : Conversation}
    (effect : conversation.Effect outcome after) (grounded : conversation.Grounded)
    (balanced : conversation.ledger.Balanced) : after.tokens = conversation.tokens := by
  cases effect with
  | reloads reloaded =>
      have live := (restore_eq_pure reloaded).1
      have same := (grounded.reload_eq_self balanced live).symm.trans reloaded
      rw [Attempt.pure_inj.mp same]
  | _ => rfl

/-- A conversation keeps its identifier, whatever happens to it. -/
theorem Reachable.id_of_play (reachable : conversation.Reachable) {move : Move}
    {outcome : Outcome} {after : Conversation}
    (played : conversation.play move = .ok (outcome, after)) : after.id = conversation.id := by
  have effect := reachable.sound.effect_of_play played
  rw [id, effect.tokens_eq reachable.grounded reachable.sound.balanced, id]

theorem id_of_begin {pad : List UInt8} {role : Role} {settings : Settings}
    (begun : begin pad role settings = pure conversation) :
    conversation.id = Hex.encode (Sha256.digest (Identity.seed .conversation pad)) := by
  obtain ⟨-, -, tokens, derived, rfl⟩ := exists_tokens_of_begin begun
  have all := Identity.deriveAll_eq_ok_iff.mp (LedgerError.ofPrimitive_eq_ok derived)
  exact (Identity.derive_eq_ok_iff.mp (all .conversation)).2

/-- Conversations whose pads have different digests have different identifiers. -/
theorem id_ne_of_begin {left right : List UInt8} {role otherRole : Role}
    {settings otherSettings : Settings} {other : Conversation}
    (begun : begin left role settings = pure conversation)
    (otherBegun : begin right otherRole otherSettings = pure other)
    (distinct : Sha256.digest (Identity.seed .conversation left) ≠
      Sha256.digest (Identity.seed .conversation right)) : conversation.id ≠ other.id := by
  rw [id_of_begin begun, id_of_begin otherBegun]
  exact mt Hex.encode_injective distinct

/-- The identifier is a digest. -/
theorem Reachable.exists_digest (reachable : conversation.Reachable) :
    ∃ octets, conversation.id = Hex.encode (Sha256.digest octets) := by
  induction reachable with
  | begun _ begun => exact ⟨_, id_of_begin begun⟩
  | restored _ restored =>
      obtain ⟨-, -, opened, begun, -, rfl⟩ := restore_eq_pure restored
      have digest := id_of_begin begun
      exact ⟨_, digest⟩
  | played reachable played inductionHypothesis =>
      rcases inductionHypothesis with ⟨octets, digest⟩
      exact ⟨octets, (reachable.id_of_play played).trans digest⟩

/-- All identifiers have the same number of digits. -/
theorem Reachable.length_id (reachable : conversation.Reachable) :
    conversation.id.length = 64 := by
  rcases reachable.exists_digest with ⟨octets, digest⟩
  rw [digest, Hex.encode, String.length_ofList, Hex.length_digits, Sha256.length_digest]

end Conversation

end OneTimePad
