import OneTimePad.Proofs.Conversation.Run

/-!
# Sending is atomic

The ledger moves its counter before a message is sealed, and nothing moves it back.  So
pad would be lost if sealing failed afterwards.  It does not: whatever the ledger gives
out for a message that fits a frame lies in the region, and then the message is sealed.

Hence a message is sent exactly if its padded form fits a frame, the conversation is
active, and enough is left.  Then the counter moves by what the frame consumes, and
nothing else changes.  If it is not sent, nothing changes at all.
-/

namespace OneTimePad

open Padding (padded)

namespace Conversation

/-- Whether a message is sent, and what that comes to, with its padded length and what is
left to be consumed. -/
structure Atomic (conversation : Conversation) (message : List UInt8) (length : Nat)
    (rest : UInt64) (reply : Reply Conversation (List UInt8)) : Prop where
  sent_iff : (∃ bytes, reply.answer = .ok bytes) ↔
    length ≤ 65535 ∧ conversation.ledger.stage = .ok .active ∧ length + 64 ≤ rest.toNat
  /-- The frame is the one that was reserved, and only its key material is spent. -/
  after_sent : ∀ bytes, reply.answer = .ok bytes →
    ∃ reservation frame,
      conversation.ledger.reserve length = .ok ⟨.ok reservation, reply.after.ledger⟩ ∧
        Frame.ofBytes bytes = pure frame ∧ frame.offset = reservation.offset ∧
        frame.ciphertext.length = length ∧
        reply.after.ledger.sent.toNat = conversation.ledger.sent.toNat + (length + 64) ∧
        reply.after =
          { conversation with
            ledger := { conversation.ledger with sent := reply.after.ledger.sent } }
  after_unsent : ∀ error, reply.answer = .error error →
    reply.after = conversation ∧ conversation.Unsent message error
  /-- Sealing does not fail once key material was reserved. -/
  sealed : ∀ reservation after, length ≤ 65535 →
    conversation.ledger.reserve length = .ok ⟨.ok reservation, after⟩ →
      ∃ frame, Frame.sealAt conversation.region reservation.offset message = pure frame

variable {conversation : Conversation} {message : List UInt8}

theorem Unsent.not_sends {error : LedgerError} (unsent : conversation.Unsent message error) :
    ¬ conversation.Sends message := by
  intro sends
  cases unsent with
  | large long => exact absurd sends.short (Nat.not_le_of_lt long)
  | refused _ notGranted => exact notGranted sends.granted

section Sound

variable (sound : conversation.Sound)

include sound

theorem Sound.sends_iff :
    conversation.Sends message ↔
      (padded message).length ≤ 65535 ∧ conversation.ledger.stage = .ok .active ∧
        (padded message).length + 64 ≤ (UInt64.ofNat conversation.ledger.free).toNat := by
  rw [Ledger.toNat_free]
  constructor
  · intro sends
    exact ⟨sends.short, (Ledger.grants_iff_active sound.balanced).mp sends.granted⟩
  · rintro ⟨short, affords⟩
    exact sound.sends short ((Ledger.grants_iff_active sound.balanced).mpr affords)

/-- What the ledger has given out for a message is there to seal it with. -/
theorem Sound.exists_sealAt {reservation : Reservation} {after : Ledger}
    (short : (padded message).length ≤ Frame.maximumCiphertext)
    (reserved : conversation.ledger.reserve (padded message).length =
      .ok ⟨.ok reservation, after⟩) :
    ∃ frame, Frame.sealAt conversation.region reservation.offset message = pure frame := by
  rcases of_reserve short reserved with ⟨granted, rfl, -⟩
  rcases Frame.exists_sealAt short (sound.sends short granted).within with ⟨frame, sealed, -⟩
  exact ⟨frame, sealed⟩

theorem Sound.atomic_of_sends (sends : conversation.Sends message) {frame : Frame}
    (seals : frame.Seals conversation.region (conversation.nextOffset message) message) :
    conversation.Atomic message (padded message).length (UInt64.ofNat conversation.ledger.free)
      ⟨.ok frame.toBytes, conversation.spend message⟩ := by
  constructor
  · exact ⟨fun _ => sound.sends_iff.mp sends, fun _ => ⟨_, rfl⟩⟩
  · rintro bytes ⟨⟩
    exact ⟨_, frame, reserve_of_granted sends.balanced sends.short sends.granted,
      Frame.ofBytes_toBytes (sends.minimumLength_le seals), seals.offset_eq,
      seals.length_ciphertext sends.within, sends.granted.toNat_sent sends.balanced, rfl⟩
  · rintro error ⟨⟩
  · intro reservation after short reserved
    exact sound.exists_sealAt short reserved

theorem Sound.atomic_of_unsent {error : LedgerError}
    (unsent : conversation.Unsent message error) :
    conversation.Atomic message (padded message).length (UInt64.ofNat conversation.ledger.free)
      (.refuse conversation error) := by
  constructor
  · constructor
    · rintro ⟨bytes, ⟨⟩⟩
    · intro conditions
      exact absurd (sound.sends_iff.mpr conditions) unsent.not_sends
  · rintro bytes ⟨⟩
  · rintro reason ⟨⟩
    exact ⟨rfl, unsent⟩
  · intro reservation after short reserved
    exact sound.exists_sealAt short reserved

end Sound

/-- A message that is not sent costs no pad.  Every message that fits into memory is
answered.  It is sent if and only if its padded form fits a frame, the conversation is
active, and the padded form with the key of the authenticator is no more than what is
left; and whether it is or not, the key material of a frame is spent exactly if the frame
is returned. -/
theorem send_is_atomic (reachable : conversation.Reachable)
    (sized : (Move.send message).Sized) :
    ∃ length rest reply, Padding.paddedLength message.length = .ok length ∧
      conversation.ledger.remaining = .ok rest ∧ conversation.send message = .ok reply ∧
      conversation.Atomic message length rest reply := by
  have sound := reachable.sound
  have padding : Padding.paddedLength message.length = .ok (padded message).length := by
    rw [Padding.length_padded]
    exact Padding.paddedLength_eq_ok sized
  have remaining := Ledger.remaining_eq_ok sound.balanced
  rcases sound.send_cases sized with ⟨error, unsent, refused⟩ | sends
  · exact ⟨_, _, _, padding, remaining, refused, sound.atomic_of_unsent unsent⟩
  · rcases send_eq_ok sends with ⟨frame, seals, sent⟩
    exact ⟨_, _, _, padding, remaining, sent, sound.atomic_of_sends sends seals⟩

/-- The responder sends a short message from the end of a region of 192 octets, and is
refused a long one. -/
theorem send_is_atomic_responder :
    ∃ start, begin smallPad .responder {} = pure start ∧
      (∃ bytes after frame, start.send [104, 105] = .ok ⟨.ok bytes, after⟩ ∧
        Frame.ofBytes bytes = pure frame ∧ frame.offset = 96 ∧ frame.ciphertext.length = 32 ∧
        after.ledger.sent.toNat = 96) ∧
      ∃ error, start.send (List.replicate 150 7) = .ok (.refuse start error) := by
  rcases exists_begin_smallPad .responder with ⟨start, begun⟩
  have ledger : start.ledger = Ledger.fresh .responder 192 := ledger_of_begin_smallPad begun
  have reachable : start.Reachable := .begun length_smallPad_lt begun
  have active : start.ledger.stage = .ok .active := by
    rw [ledger]
    rfl
  have all : start.ledger.remaining = .ok 192 := by
    rw [ledger]
    rfl
  refine ⟨start, begun, ?_, ?_⟩
  · have sized : (Move.send [104, 105]).Sized := by
      rw [Move.Sized]
      decide
    rcases send_is_atomic reachable sized with
      ⟨length, rest, ⟨answer, after⟩, padding, left, sent, atomic⟩
    obtain rfl : 32 = length := Except.ok.inj padding
    obtain rfl : 192 = rest := Except.ok.inj (all.symm.trans left)
    rcases atomic.sent_iff.mpr ⟨by decide, active, by decide⟩ with ⟨bytes, rfl⟩
    rcases atomic.after_sent bytes rfl with ⟨reservation, frame, reserved, parsed, offset, long, -⟩
    have given : start.ledger.reserve 32 =
        .ok ⟨.ok ⟨96, 32⟩, { Ledger.fresh .responder 192 with sent := 96 }⟩ := by
      rw [ledger]
      rfl
    rw [given, Except.ok.injEq, Reply.mk.injEq, Except.ok.injEq] at reserved
    rcases reserved with ⟨rfl, afterLedger⟩
    refine ⟨bytes, after, frame, sent, parsed, offset, long, ?_⟩
    rw [← afterLedger]
    rfl
  · have sized : (Move.send (List.replicate 150 7)).Sized := by
      rw [Move.Sized, List.length_replicate]
      decide
    rcases send_is_atomic reachable sized with
      ⟨length, rest, ⟨answer, after⟩, padding, left, sent, atomic⟩
    rw [List.length_replicate] at padding
    obtain rfl : 153 = length := Except.ok.inj padding
    obtain rfl : 192 = rest := Except.ok.inj (all.symm.trans left)
    cases answer with
    | ok bytes => exact absurd (atomic.sent_iff.mp ⟨bytes, rfl⟩).2.2 (by decide)
    | error error =>
        rcases atomic.after_unsent error rfl with ⟨rfl, -⟩
        exact ⟨error, sent⟩

end Conversation

end OneTimePad
