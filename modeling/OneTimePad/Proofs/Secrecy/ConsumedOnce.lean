import OneTimePad.Proofs.Conversation.Run
import OneTimePad.Proofs.Frame.Forgery
import OneTimePad.Proofs.Frame.Agreement

/-!
# What is read of consumed positions

Positions that were consumed should never be read again.  Seen from outside:
two pads that differ at consumed positions only should not be told apart by
anything that is sent or received from then on.

Sending never tells them apart, and the books never do.  What a party answers
to a frame does, in one case: a frame that begins at new positions and
straddles those of its receiver is opened before the books refuse it, and so
its tag is compared with one that is computed from consumed positions.  Frames
like that exist for a responder only, and this module says for which states.
-/

namespace OneTimePad

open Authenticator (keySize)
open Padding (padded)

/-- What a caller sees of a reply: the answer, and the counters afterwards. -/
def Reply.observed {α : Type} (reply : Reply Conversation α) : Except LedgerError α × Snapshot :=
  (reply.answer, reply.after.snapshot)

namespace Conversation

/-- Two pads for a conversation that differ at consumed positions only. -/
structure Alike (conversation : Conversation) (left right : List UInt8) : Prop where
  length_eq : left.length = conversation.pad.length
  agree : AgreeOutside ((conversation.settings.reserved + ·) '' conversation.ledger.used) left right

/-- A frame begins at new positions and runs into those of its receiver. -/
structure Straddles (conversation : Conversation) (frame : Frame) : Prop where
  fresh : conversation.ledger.Fresh frame.offset frame.consumed
  meets : ¬ Disjoint frame.extent conversation.ledger.own

/-- A responder that has sent something, while positions are free and a frame
fits the positions that the initiator is not known to have used. -/
structure Exposed (conversation : Conversation) : Prop where
  role_eq : conversation.ledger.role = .responder
  sent_pos : 0 < conversation.ledger.sent.toNat
  free : conversation.ledger.sent.toNat + conversation.ledger.seen.toNat <
    conversation.ledger.total.toNat
  room : conversation.ledger.seen.toNat + smallestFrame ≤ conversation.ledger.total.toNat

variable {conversation : Conversation} {left right : List UInt8}

theorem Alike.region (alike : conversation.Alike left right) :
    AgreeOutside conversation.ledger.used (conversation.withPad left).region
      (conversation.withPad right).region :=
  alike.agree.drop conversation.settings.reserved

theorem Alike.symm (alike : conversation.Alike left right) : conversation.Alike right left :=
  ⟨alike.agree.length_eq.symm.trans alike.length_eq, alike.agree.symm⟩

/-! ## Sending -/

/-- Sending reads only positions that nobody has consumed. -/
theorem Sound.observed_send (sound : conversation.Sound) (alike : conversation.Alike left right)
    (message : List UInt8) :
    Reply.observed <$> (conversation.withPad left).send message =
      Reply.observed <$> (conversation.withPad right).send message := by
  cases padding : Padding.paddedLength message.length with
  | error fault => simp [send, padding]
  | ok cipherLength =>
      rcases Padding.paddedLength_eq_ok_iff.mp padding with ⟨-, lengthEq⟩
      rw [← Padding.length_padded] at lengthEq
      subst cipherLength
      by_cases long : Frame.maximumCiphertext < (padded message).length
      · simp [send, padding, long, Reply.observed, Reply.refuse, snapshot]
      · have short : (padded message).length ≤ Frame.maximumCiphertext := by omega
        by_cases granted : conversation.ledger.Grants (cost message)
        · have reserved := reserve_of_granted sound.balanced short granted
          have clear : Disjoint
              (Frame.messageSpan (conversation.nextOffset message) message).positions
              conversation.ledger.used := by
            rw [positions_messageSpan sound.balanced short granted]
            exact granted.disjoint_next_used sound.balanced
          have sealed := Frame.sealAt_congr alike.region short clear
          unfold region at sealed
          simp only [send, padding, long, reserved, region, ledger_withPad, Checked.ok_bind,
            if_false, sealed]
          cases (Frame.sealAt _ (conversation.nextOffset message) message).run with
          | error fault => rfl
          | ok answer => cases answer <;> rfl
        · rw [← toNat_consumption short] at granted
          have refused := Ledger.reserve_eq_refused sound.balanced granted
          simp [send, padding, long, Reply.observed, Reply.refuse, snapshot, refused]

/-! ## Receiving -/

/-- What is recorded depends on the books only. -/
theorem observed_settle (message : Message) :
    Reply.observed ((conversation.withPad left).settle message) =
      Reply.observed ((conversation.withPad right).settle message) := by
  simp only [settle, ledger_withPad]
  cases (conversation.ledger.record message.offset message.consumed).answer with
  | error error => rfl
  | ok progress => cases progress <;> rfl

theorem observed_receive_of_examine {bytes : List UInt8}
    (same : (conversation.withPad left).examine bytes =
      (conversation.withPad right).examine bytes) :
    Reply.observed <$> (conversation.withPad left).receive bytes =
      Reply.observed <$> (conversation.withPad right).receive bytes := by
  rw [receive, receive, same]
  cases ((conversation.withPad right).examine bytes).run with
  | error fault => rfl
  | ok answer =>
      rcases answer with error | ⟨message | reason⟩
      · rfl
      · exact congrArg Except.ok (observed_settle message)
      · rfl

theorem examine_congr {bytes : List UInt8} {frame : Frame}
    (live : conversation.ledger.burned = false) (parsed : Frame.ofBytes bytes = pure frame)
    (opened : conversation.ledger.classifyFrame frame.offset frame.consumed = .ok .fresh →
      frame.openWith (conversation.withPad left).region =
        frame.openWith (conversation.withPad right).region) :
    (conversation.withPad left).examine bytes = (conversation.withPad right).examine bytes := by
  have leftLive : (conversation.withPad left).ledger.burned = false := live
  have rightLive : (conversation.withPad right).ledger.burned = false := live
  rw [examine_of_frame leftLive parsed, examine_of_frame rightLive parsed]
  simp only [ledger_withPad]
  cases verdict : conversation.ledger.classifyFrame frame.offset frame.consumed with
  | error error => rfl
  | ok origin =>
      cases origin with
      | own => rfl
      | duplicate => rfl
      | fresh => simp only [opened verdict]

section Receiving

variable (sound : conversation.Sound) (live : conversation.ledger.burned = false)

include sound live

/-- A frame that does not straddle the positions of its receiver is answered
without consumed positions. -/
theorem Sound.observed_receive (alike : conversation.Alike left right) {bytes : List UInt8}
    (clear : ∀ frame, Frame.ofBytes bytes = pure frame → ¬ conversation.Straddles frame) :
    Reply.observed <$> (conversation.withPad left).receive bytes =
      Reply.observed <$> (conversation.withPad right).receive bytes := by
  have leftLive : (conversation.withPad left).ledger.burned = false := live
  have rightLive : (conversation.withPad right).ledger.burned = false := live
  rcases Frame.ofBytes_cases bytes with ⟨error, unreadable⟩ | ⟨frame, parsed, long, -⟩
  · rw [receive_of_unreadable leftLive unreadable, receive_of_unreadable rightLive unreadable]
    rfl
  · apply observed_receive_of_examine
    apply examine_congr live parsed
    intro verdict
    have leftSound := sound.withPad alike.length_eq
    by_cases within : frame.keySpan.Within (conversation.withPad left).region
    · have fresh : conversation.ledger.Fresh frame.offset frame.consumed :=
        (leftSound.fresh leftLive within).mp verdict
      have apart : Disjoint frame.extent conversation.ledger.own := by
        by_contra meets
        exact clear frame parsed ⟨fresh, meets⟩
      apply Frame.openWith_congr alike.region
      rw [frame.positions_keySpan]
      have unprocessed := fresh.clear
      rw [frame.claim_eq_extent] at unprocessed
      exact Set.disjoint_union_right.mpr ⟨apart, unprocessed⟩
    · have outside := mt (frame.keySpan.within_congr alike.region).mpr within
      rw [Frame.openWith_of_not_within long within, Frame.openWith_of_not_within long outside,
        alike.region.length_eq]

variable {bytes : List UInt8} {frame : Frame} (straddles : conversation.Straddles frame)
  (parsed : Frame.ofBytes bytes = pure frame)

include straddles parsed

/-- A straddling frame that is not authentic is refused for its tag. -/
theorem Sound.receive_of_straddling_forgery (forged : ¬ frame.Authentic conversation.region) :
    conversation.receive bytes = .ok (.refuse conversation (.frame .authenticationFailed)) := by
  have within := sound.within_of_fresh live straddles.fresh
  have long := Frame.minimumLength_le_of_ofBytes parsed
  exact receive_of_unopened live parsed (sound.classifyFrame_eq_fresh live straddles.fresh)
    (Frame.openWith_of_not_authentic long within forged)

/-- An authentic one is refused for another reason. -/
theorem Sound.receive_of_straddling_authentic (authentic : frame.Authentic conversation.region) :
    ∃ error, error ≠ .frame .authenticationFailed ∧
      conversation.receive bytes = .ok (.refuse conversation error) := by
  have verdict := sound.classifyFrame_eq_fresh live straddles.fresh
  rcases frame.opens_or_unopenable conversation.region with
    ⟨plaintext, opens⟩ | ⟨error, unopenable⟩
  · have received := sound.receive_of_meeting live parsed straddles.fresh opens.openWith_eq
      straddles.meets
    exact ⟨_, by simp, received⟩
  · refine ⟨_, ?_, receive_of_unopened live parsed verdict unopenable.openWith_eq⟩
    rintro ⟨⟩
    cases unopenable with
    | forged _ _ unsigned => exact unsigned (Frame.authentic_iff.mp authentic)

/-- In both cases the conversation is left as it was. -/
theorem Sound.exists_receive_of_straddles :
    ∃ error, conversation.receive bytes = .ok (.refuse conversation error) := by
  by_cases authentic : frame.Authentic conversation.region
  · obtain ⟨error, -, received⟩ :=
      sound.receive_of_straddling_authentic live straddles parsed authentic
    exact ⟨error, received⟩
  · exact ⟨_, sound.receive_of_straddling_forgery live straddles parsed authentic⟩

end Receiving

/-- The books never tell consumed positions apart. -/
theorem Sound.snapshot_receive (sound : conversation.Sound)
    (live : conversation.ledger.burned = false) (alike : conversation.Alike left right)
    (bytes : List UInt8) :
    (fun reply => reply.after.snapshot) <$> (conversation.withPad left).receive bytes =
      (fun reply => reply.after.snapshot) <$> (conversation.withPad right).receive bytes := by
  by_cases clear : ∀ frame, Frame.ofBytes bytes = pure frame → ¬ conversation.Straddles frame
  · have observed := sound.observed_receive live alike clear
    have snapshots := congrArg (Prod.snd <$> ·) observed
    simp only [← comp_map] at snapshots
    exact snapshots
  · push Not at clear
    rcases clear with ⟨frame, parsed, straddles⟩
    have leftSound := sound.withPad alike.length_eq
    have rightSound := sound.withPad alike.symm.length_eq
    obtain ⟨leftError, leftReceived⟩ := leftSound.exists_receive_of_straddles live
      ⟨straddles.fresh, straddles.meets⟩ parsed
    obtain ⟨rightError, rightReceived⟩ := rightSound.exists_receive_of_straddles live
      ⟨straddles.fresh, straddles.meets⟩ parsed
    rw [leftReceived, rightReceived]
    rfl

/-! ## Which conversations are exposed -/

/-- A frame straddles the positions of its receiver only if that is an exposed
responder. -/
theorem Sound.exposed_of_straddles {frame : Frame} (sound : conversation.Sound)
    (long : Padding.minimumLength ≤ frame.ciphertext.length)
    (straddles : conversation.Straddles frame) : conversation.Exposed := by
  have balanced := sound.balanced
  have meets := straddles.meets
  rcases straddles.fresh with ⟨nonempty, inside, unowned, clear⟩
  have length := frame.toNat_consumed
  rw [← frame.claim_eq_extent, straddles.fresh.disjoint_own_iff balanced] at meets
  unfold Ledger.Balanced at balanced
  unfold Ledger.own at unowned
  unfold Ledger.markOf at meets
  unfold Ledger.claim Ledger.foreign at clear
  cases role : conversation.ledger.role with
  | initiator =>
      rw [role] at meets unowned
      simp only [Role.side, Set.mem_Ico] at meets unowned
      omega
  | responder =>
      rw [role, Role.peer, Role.side, disjoint_ico_iff nonempty] at clear
      rw [role] at meets unowned
      simp only [Role.side, Set.mem_Ico] at meets unowned
      simp only [Padding.minimumLength, keySize] at long length
      refine ⟨role, by omega, by omega, ?_⟩
      simp only [smallestFrame, Padding.minimumLength, keySize]
      omega

/-- Where a smallest frame straddles the positions of an exposed responder. -/
def straddlingOffset (conversation : Conversation) : Nat :=
  min (conversation.ledger.total.toNat - conversation.ledger.sent.toNat - 1)
    (conversation.ledger.total.toNat - smallestFrame)

theorem Exposed.straddles {frame : Frame} (exposed : conversation.Exposed)
    (offset : frame.offset.toNat = conversation.straddlingOffset)
    (length : frame.ciphertext.length = Padding.minimumLength) :
    conversation.Straddles frame := by
  rcases exposed with ⟨role, sentPos, free, room⟩
  have consumed := frame.toNat_consumed
  unfold straddlingOffset at offset
  simp only [smallestFrame, Padding.minimumLength, keySize] at room length offset consumed
  have nonempty : 0 < frame.consumed.toNat := by omega
  constructor
  · constructor
    · exact nonempty
    · omega
    · rw [Ledger.own, role, Role.side, Set.mem_Ico]
      omega
    · rw [Ledger.claim, Ledger.foreign, role, Role.peer, Role.side, disjoint_ico_iff nonempty]
      omega
  · rw [← frame.claim_eq_extent, Ledger.claim, Ledger.own, role, Role.side,
      disjoint_ico_iff nonempty]
    omega

/-! ## Telling pads apart -/

/-- Whoever knows the pad can make an authentic frame that straddles the
positions of an exposed responder. -/
theorem Sound.exists_straddling (sound : conversation.Sound)
    (live : conversation.ledger.burned = false) (exposed : conversation.Exposed) :
    ∃ frame : Frame, Padding.minimumLength ≤ frame.ciphertext.length ∧
      conversation.Straddles frame ∧ frame.Authentic conversation.region := by
  have totalLt := Word.toNat_lt conversation.ledger.total
  have room := exposed.room
  have offsetLe : conversation.straddlingOffset + smallestFrame ≤
      conversation.ledger.total.toNat := by
    unfold straddlingOffset
    omega
  have offset : (UInt64.ofNat conversation.straddlingOffset).toNat =
      conversation.straddlingOffset :=
    Word.toNat_ofNat (by omega)
  have length : (List.replicate Padding.minimumLength (0 : UInt8)).length =
      Padding.minimumLength := List.length_replicate
  have small : (List.replicate Padding.minimumLength (0 : UInt8)).length < Bytes.capacity 2 := by
    rw [length]
    decide
  have within : KeySpan.Within
      ⟨UInt64.ofNat conversation.straddlingOffset,
        (List.replicate Padding.minimumLength (0 : UInt8)).length⟩ conversation.region := by
    rw [length, KeySpan.Within, offset, sound.covered live]
    exact offsetLe
  rcases Frame.exists_authentic small within with ⟨frame, offsetEq, ciphertextEq, authentic⟩
  have frameLength : frame.ciphertext.length = Padding.minimumLength := by
    rw [ciphertextEq, length]
  refine ⟨frame, frameLength.ge, exposed.straddles ?_ frameLength, authentic⟩
  rw [offsetEq, offset]

/-- The last position of a straddling frame is one that its receiver has
used. -/
theorem Straddles.last_mem_own {frame : Frame} (straddles : conversation.Straddles frame)
    (responder : conversation.ledger.role = .responder) :
    frame.offset.toNat + frame.ciphertext.length + 63 ∈ conversation.ledger.own := by
  have consumed := frame.toNat_consumed
  rcases straddles with ⟨⟨nonempty, inside, -, -⟩, meets⟩
  rw [← frame.claim_eq_extent, Ledger.claim, Ledger.own, responder, Role.side,
    disjoint_ico_iff nonempty] at meets
  rw [Ledger.own, responder, Role.side, Set.mem_Ico]
  simp only [keySize] at consumed
  omega

theorem region_withPad_set (conversation : Conversation) (position : Nat) (byte : UInt8) :
    (conversation.withPad
      (conversation.pad.set (conversation.settings.reserved + position) byte)).region =
      conversation.region.set position byte := by
  have notBefore :
      ¬ conversation.settings.reserved + position < conversation.settings.reserved := by omega
  change (conversation.pad.set _ byte).drop conversation.settings.reserved = _
  rw [List.drop_set, if_neg notBefore, Nat.add_sub_cancel_left, region]

/-- A frame that straddles positions of an exposed responder tells two pads
apart: it is authentic under one of them and a forgery under the other. -/
theorem Sound.exists_distinguishing (sound : conversation.Sound)
    (live : conversation.ledger.burned = false) (exposed : conversation.Exposed) :
    ∃ right bytes, conversation.Alike conversation.pad right ∧
      Reply.observed <$> conversation.receive bytes ≠
        Reply.observed <$> (conversation.withPad right).receive bytes := by
  rcases sound.exists_straddling live exposed with ⟨frame, long, straddles, authentic⟩
  have parsed := Frame.ofBytes_toBytes long
  have within := sound.within_of_fresh live straddles.fresh
  have own := straddles.last_mem_own exposed.role_eq
  obtain ⟨byte, differs⟩ : ∃ byte,
      conversation.region[frame.offset.toNat + frame.ciphertext.length + 63]? ≠ some byte := by
    by_cases zero : conversation.region[frame.offset.toNat + frame.ciphertext.length + 63]? = some 0
    · exact ⟨1, by rw [zero]; decide⟩
    · exact ⟨0, zero⟩
  have forged := Frame.not_authentic_set authentic differs
  rw [← conversation.region_withPad_set] at forged
  have alike : conversation.Alike conversation.pad
      (conversation.pad.set (conversation.settings.reserved +
        (frame.offset.toNat + frame.ciphertext.length + 63)) byte) :=
    ⟨rfl, .set _ (Set.mem_image_of_mem _ (Set.mem_union_left _ own)) byte⟩
  obtain ⟨error, notForgery, received⟩ :=
    sound.receive_of_straddling_authentic live straddles parsed authentic
  have otherReceived := (sound.withPad alike.symm.length_eq).receive_of_straddling_forgery live
    ⟨straddles.fresh, straddles.meets⟩ parsed forged
  refine ⟨_, frame.toBytes, alike, ?_⟩
  rw [received, otherReceived]
  intro same
  have answers := congrArg Prod.fst (Except.ok.inj same)
  exact notForgery (Except.error.inj answers)

/-- Which positions are read again.  Nothing that is sent depends on consumed
positions, and neither do the books.  What is received does not depend on them
either, exactly as long as the conversation is not an exposed one. -/
theorem consumed_once_iff (reachable : conversation.Reachable)
    (live : conversation.ledger.burned = false) :
    (∀ left right, conversation.Alike left right → ∀ message,
      Reply.observed <$> (conversation.withPad left).send message =
        Reply.observed <$> (conversation.withPad right).send message) ∧
    (∀ left right, conversation.Alike left right → ∀ bytes,
      (fun reply => reply.after.snapshot) <$> (conversation.withPad left).receive bytes =
        (fun reply => reply.after.snapshot) <$> (conversation.withPad right).receive bytes) ∧
    ((∀ left right, conversation.Alike left right → ∀ bytes,
      Reply.observed <$> (conversation.withPad left).receive bytes =
        Reply.observed <$> (conversation.withPad right).receive bytes) ↔
      ¬ conversation.Exposed) := by
  have sound := reachable.sound
  refine ⟨?_, ?_, ?_, ?_⟩
  · intro left right alike message
    exact sound.observed_send alike message
  · intro left right alike bytes
    exact sound.snapshot_receive live alike bytes
  · intro law exposed
    rcases sound.exists_distinguishing live exposed with ⟨right, bytes, alike, differ⟩
    exact differ (law conversation.pad right alike bytes)
  · intro secret left right alike bytes
    apply sound.observed_receive live alike
    intro frame parsed straddles
    exact secret (sound.exposed_of_straddles (Frame.minimumLength_le_of_ofBytes parsed) straddles)

/-- A responder that has sent one message is exposed: two pads that differ at
consumed positions only are told apart by a frame. -/
theorem consumed_once_iff_exposed_responder :
    ∃ conversation,
      restore (List.replicate 352 0) ⟨.responder, 192, 96, 0, false⟩ {} = pure conversation ∧
        conversation.Exposed ∧
        ¬ ∀ left right, conversation.Alike left right → ∀ bytes,
          Reply.observed <$> (conversation.withPad left).receive bytes =
            Reply.observed <$> (conversation.withPad right).receive bytes := by
  have total : (192 : UInt64) = UInt64.ofNat (smallPad.length - ({} : Settings).reserved) := by
    rw [smallPad, List.length_replicate]
    decide
  have balanced : (96 : UInt64).toNat + (0 : UInt64).toNat ≤ (192 : UInt64).toNat := by decide
  obtain ⟨conversation, restored, ledger⟩ : ∃ conversation,
      restore smallPad ⟨.responder, 192, 96, 0, false⟩ {} = pure conversation ∧
        conversation.ledger = Ledger.ofSnapshot ⟨.responder, 192, 96, 0, false⟩ {} :=
    exists_restore rfl reserved_le_length_smallPad rfl total balanced
  have live : conversation.ledger.burned = false := by
    rw [ledger]
    rfl
  have exposed : conversation.Exposed := by
    constructor
    · rw [ledger]
      rfl
    · rw [ledger]
      decide
    · rw [ledger]
      decide
    · rw [ledger]
      decide
  refine ⟨conversation, restored, exposed, ?_⟩
  intro law
  exact (consumed_once_iff (.restored length_smallPad_lt restored) live).2.2.mp law exposed

end Conversation

end OneTimePad
