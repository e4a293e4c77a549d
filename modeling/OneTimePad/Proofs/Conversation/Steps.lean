import OneTimePad.Conversation
import OneTimePad.Proofs.Frame.Opening
import OneTimePad.Proofs.Ledger.Balance

/-!
# Steps of a conversation

What sending and receiving come to.  A message is sent exactly when it fits a
frame and the ledger grants its key material; then the frame lies where the
ledger says, and nothing but the ledger's own counter moves.  A frame is
delivered only if it is new, authentic, and off the positions of this party;
every other arrival leaves the conversation as it was.
-/

namespace OneTimePad

open Authenticator (keySize)
open Padding (padded)

namespace Frame

/-- How much key material a frame consumes. -/
def consumed (frame : Frame) : UInt64 :=
  UInt64.ofNat (frame.ciphertext.length + keySize)

theorem toNat_consumed (frame : Frame) :
    frame.consumed.toNat = frame.ciphertext.length + keySize := by
  have fits := frame.fits
  apply Word.toNat_ofNat
  simp only [Bytes.capacity, keySize, wordLimit] at fits ⊢
  omega

/-- The positions that a frame claims are those it is sealed with. -/
theorem claim_eq_extent (frame : Frame) :
    Ledger.claim frame.offset frame.consumed = frame.extent := by
  rw [Ledger.claim, extent, toNat_consumed, Nat.add_assoc]

end Frame

namespace Conversation

variable {conversation : Conversation}

/-- The books are balanced, and as long as the conversation lives its pad has
the region that they are about. -/
structure Sound (conversation : Conversation) : Prop where
  balanced : conversation.ledger.Balanced
  covered : conversation.ledger.burned = false →
    conversation.region.length = conversation.ledger.total.toNat

/-- The same conversation with another pad. -/
def withPad (conversation : Conversation) (pad : List UInt8) : Conversation :=
  { conversation with pad }

@[simp]
theorem ledger_withPad (conversation : Conversation) (pad : List UInt8) :
    (conversation.withPad pad).ledger = conversation.ledger :=
  rfl

theorem Sound.withPad {pad : List UInt8} (sound : conversation.Sound)
    (length_eq : pad.length = conversation.pad.length) : (conversation.withPad pad).Sound := by
  constructor
  · exact sound.balanced
  · intro live
    have covered := sound.covered live
    rw [region, List.length_drop] at covered ⊢
    change pad.length - conversation.settings.reserved = _
    rw [length_eq]
    exact covered

/-! ## Sending -/

/-- What a message consumes. -/
def cost (message : List UInt8) : Nat :=
  (padded message).length + keySize

/-- Where the key material for the next message begins. -/
def nextOffset (conversation : Conversation) (message : List UInt8) : UInt64 :=
  (conversation.ledger.reservation (padded message).length).offset

/-- A conversation that has spent the key material for a message. -/
def spend (conversation : Conversation) (message : List UInt8) : Conversation :=
  { conversation with ledger := conversation.ledger.advance (cost message) }

/-- What it takes for a message to be sent. -/
structure Sends (conversation : Conversation) (message : List UInt8) : Prop where
  balanced : conversation.ledger.Balanced
  short : (padded message).length ≤ Frame.maximumCiphertext
  granted : conversation.ledger.Grants (cost message)
  within : (Frame.messageSpan (conversation.nextOffset message) message).Within conversation.region

theorem toNat_consumption {message : List UInt8}
    (short : (padded message).length ≤ Frame.maximumCiphertext) :
    (Reservation.consumption (padded message).length).toNat = cost message := by
  have fits : (padded message).length + keySize < wordLimit := by
    simp only [Frame.maximumCiphertext, keySize, wordLimit] at short ⊢
    omega
  exact Ledger.toNat_consumption fits

theorem paddedLength_of_short {message : List UInt8}
    (short : (padded message).length ≤ Frame.maximumCiphertext) :
    Padding.paddedLength message.length = .ok (padded message).length := by
  rw [Padding.length_padded] at short ⊢
  apply Padding.paddedLength_eq_ok
  simp only [Frame.maximumCiphertext, Padding.overhead, wordLimit] at short ⊢
  omega

theorem toNat_nextOffset {message : List UInt8} (balanced : conversation.ledger.Balanced)
    (short : (padded message).length ≤ Frame.maximumCiphertext)
    (granted : conversation.ledger.Grants (cost message)) :
    (conversation.nextOffset message).toNat =
      conversation.ledger.role.nextStart conversation.ledger.total.toNat
        conversation.ledger.sent.toNat (cost message) := by
  rw [nextOffset, Ledger.reservation, toNat_consumption short]
  exact granted.toNat_start balanced

/-- The key material for a message is what the ledger gives out next. -/
theorem positions_messageSpan {message : List UInt8} (balanced : conversation.ledger.Balanced)
    (short : (padded message).length ≤ Frame.maximumCiphertext)
    (granted : conversation.ledger.Grants (cost message)) :
    (Frame.messageSpan (conversation.nextOffset message) message).positions =
      conversation.ledger.next (cost message) := by
  rw [KeySpan.positions, Frame.messageSpan, toNat_nextOffset balanced short granted]
  rfl

theorem reserve_of_granted {message : List UInt8} (balanced : conversation.ledger.Balanced)
    (short : (padded message).length ≤ Frame.maximumCiphertext)
    (granted : conversation.ledger.Grants (cost message)) :
    conversation.ledger.reserve (padded message).length =
      .ok ⟨.ok ⟨conversation.nextOffset message, (padded message).length⟩,
        conversation.ledger.advance (cost message)⟩ := by
  rw [← toNat_consumption short] at granted ⊢
  exact Ledger.reserve_eq_granted balanced granted

/-- A message that can be sent is sealed with the next positions, and only they
are spent. -/
theorem send_eq_ok {message : List UInt8} (sends : conversation.Sends message) :
    ∃ frame : Frame, frame.Seals conversation.region (conversation.nextOffset message) message ∧
      conversation.send message = .ok ⟨.ok frame.toBytes, conversation.spend message⟩ := by
  have notLong : ¬ Frame.maximumCiphertext < (padded message).length := by
    have := sends.short
    omega
  rcases Frame.exists_sealAt sends.short sends.within with ⟨frame, sealed, seals⟩
  refine ⟨frame, seals, ?_⟩
  unfold region at sealed
  simp only [send, paddedLength_of_short sends.short, notLong, region,
    reserve_of_granted sends.balanced sends.short sends.granted, sealed, spend,
    ExceptT.run_pure, Checked.ok_bind, Checked.pure_eq_ok, if_false]

/-- What the ledger gives out for a message begins where its key material does. -/
theorem of_reserve {message : List UInt8} {reservation : Reservation} {after : Ledger}
    (short : (padded message).length ≤ Frame.maximumCiphertext)
    (reserved : conversation.ledger.reserve (padded message).length =
      .ok ⟨.ok reservation, after⟩) :
    conversation.ledger.Grants (cost message) ∧
      reservation = ⟨conversation.nextOffset message, (padded message).length⟩ ∧
      after = conversation.ledger.advance (cost message) := by
  have balanced := Ledger.balanced_of_reserve reserved
  have granted := Ledger.grants_of_reserve reserved
  rw [toNat_consumption short] at granted
  rw [reserve_of_granted balanced short granted] at reserved
  cases reserved
  exact ⟨granted, rfl, rfl⟩

/-- Nothing else is ever sent. -/
theorem sends_of_send {message bytes : List UInt8} {after : Conversation}
    (sent : conversation.send message = .ok ⟨.ok bytes, after⟩) : conversation.Sends message := by
  rcases Checked.bind_eq_ok_iff.mp sent with ⟨cipherLength, padding, sent⟩
  rcases Padding.paddedLength_eq_ok_iff.mp padding with ⟨-, lengthEq⟩
  rw [← Padding.length_padded] at lengthEq
  subst cipherLength
  by_cases long : Frame.maximumCiphertext < (padded message).length
  · simp [long, Reply.refuse] at sent
  · have short : (padded message).length ≤ Frame.maximumCiphertext := by omega
    simp only [long, if_false] at sent
    rcases Checked.bind_eq_ok_iff.mp sent with ⟨⟨answer, ledger⟩, reserved, sent⟩
    cases answer with
    | error error => simp [Reply.refuse] at sent
    | ok reservation =>
        have balanced := Ledger.balanced_of_reserve reserved
        rcases of_reserve short reserved with ⟨granted, rfl, rfl⟩
        have within : (Frame.messageSpan (conversation.nextOffset message) message).Within
            conversation.region := by
          by_contra outside
          have failed := Frame.sealAt_of_not_within short outside
          unfold region at failed
          simp [region, failed, Reply.refuse] at sent
        exact ⟨balanced, short, granted, within⟩

/-- Why a message is not sent. -/
inductive Unsent (conversation : Conversation) (message : List UInt8) : LedgerError → Prop where
  /-- The padded message does not fit a frame. -/
  | large (long : Frame.maximumCiphertext < (padded message).length) :
      Unsent conversation message
        (.frame (.payloadTooLarge (padded message).length Frame.maximumCiphertext))
  /-- The ledger does not give out the key material. -/
  | refused (short : (padded message).length ≤ Frame.maximumCiphertext)
      (notGranted : ¬ conversation.ledger.Grants (cost message)) :
      Unsent conversation message
        (if conversation.ledger.burned then .burned
          else .padExhausted (Reservation.consumption (padded message).length)
            (UInt64.ofNat conversation.ledger.free))

section Sound

variable (sound : conversation.Sound) {message : List UInt8}

include sound

/-- In a sound conversation the granted positions exist. -/
theorem Sound.sends (short : (padded message).length ≤ Frame.maximumCiphertext)
    (granted : conversation.ledger.Grants (cost message)) : conversation.Sends message := by
  refine ⟨sound.balanced, short, granted, ?_⟩
  have fits := granted.fits sound.balanced
  change (conversation.nextOffset message).toNat + cost message ≤ _
  rw [toNat_nextOffset sound.balanced short granted, sound.covered granted.1]
  exact Role.nextStart_add_le (by omega)

/-- Every message that is short enough to be a byte string is sent, or refused with the
reason. -/
theorem Sound.send_cases (sized : Padding.overhead + message.length < wordLimit) :
    (∃ error, conversation.Unsent message error ∧
        conversation.send message = .ok (.refuse conversation error)) ∨
      conversation.Sends message := by
  have padding := Padding.paddedLength_eq_ok sized
  rw [← Padding.length_padded] at padding
  by_cases long : Frame.maximumCiphertext < (padded message).length
  · exact .inl ⟨_, .large long, by simp [send, padding, long]⟩
  · have short := Nat.le_of_not_lt long
    by_cases granted : conversation.ledger.Grants (cost message)
    · exact .inr (sound.sends short granted)
    · have unreserved := granted
      rw [← toNat_consumption short] at unreserved
      have refused := Ledger.reserve_eq_refused sound.balanced unreserved
      exact .inl ⟨_, .refused short granted, by simp [send, padding, long, refused, Reply.refuse]⟩

end Sound

/-- A sealed frame is long enough to be read back. -/
theorem Sends.minimumLength_le {message : List UInt8} {frame : Frame}
    (sends : conversation.Sends message)
    (seals : frame.Seals conversation.region (conversation.nextOffset message) message) :
    Padding.minimumLength ≤ frame.ciphertext.length :=
  seals.minimumLength_le sends.within

theorem Sends.keySpan_eq {message : List UInt8} {frame : Frame}
    (sends : conversation.Sends message)
    (seals : frame.Seals conversation.region (conversation.nextOffset message) message) :
    frame.keySpan = Frame.messageSpan (conversation.nextOffset message) message :=
  seals.keySpan_eq sends.within

/-- A sealed frame is sealed with the next positions. -/
theorem Sends.extent_eq {message : List UInt8} {frame : Frame}
    (sends : conversation.Sends message)
    (seals : frame.Seals conversation.region (conversation.nextOffset message) message) :
    frame.extent = conversation.ledger.next (cost message) := by
  rw [← frame.positions_keySpan, sends.keySpan_eq seals,
    positions_messageSpan sends.balanced sends.short sends.granted]

/-! ## Receiving -/

section Receiving

variable {bytes : List UInt8} {frame : Frame}

/-- A burned conversation receives nothing. -/
theorem receive_of_burned (burned : conversation.ledger.burned = true) :
    conversation.receive bytes = .ok (.refuse conversation .burned) := by
  simp [receive, examine, burned]

variable (live : conversation.ledger.burned = false)

include live

theorem receive_of_unreadable {error : FrameError}
    (unreadable : Frame.ofBytes bytes = throw error) :
    conversation.receive bytes = .ok (.refuse conversation (.frame error)) := by
  simp [receive, examine, live, unreadable]

/-- A frame is classified first and then opened. -/
theorem examine_of_frame (parsed : Frame.ofBytes bytes = pure frame) :
    conversation.examine bytes =
      match conversation.ledger.classifyFrame frame.offset frame.consumed with
      | .error error => throw error
      | .ok .own => pure (.skipped .own)
      | .ok .duplicate => pure (.skipped .alreadyProcessed)
      | .ok .fresh =>
          ExceptT.adapt .frame (frame.openWith conversation.region) >>= fun plaintext =>
            pure (.delivered
              ⟨plaintext, frame.offset, frame.consumed, frame.ciphertext.length⟩) := by
  have size : Size.add frame.ciphertext.length keySize =
      .ok (frame.ciphertext.length + keySize) := by
    have fits := frame.fits
    rw [Size.add_eq_ok_iff]
    constructor
    · exact rfl
    · simp only [Bytes.capacity, keySize, wordLimit] at fits ⊢
      omega
  have consumed : UInt64.ofNat (frame.ciphertext.length + keySize) = frame.consumed := rfl
  simp only [examine, live, parsed, size, consumed, Attempt.adapt_pure, Attempt.lift_ok, pure_bind,
    if_false, Bool.false_eq_true]
  cases conversation.ledger.classifyFrame frame.offset frame.consumed with
  | error error => rfl
  | ok origin => cases origin <;> rfl

/-- A frame that is refused by the books, or by its seal, changes nothing. -/
theorem receive_of_classified (parsed : Frame.ofBytes bytes = pure frame) :
    (∃ error, conversation.ledger.classifyFrame frame.offset frame.consumed = .error error ∧
        conversation.receive bytes = .ok (.refuse conversation error)) ∨
      (∃ reason, (conversation.ledger.classifyFrame frame.offset frame.consumed ≠ .ok .fresh) ∧
        conversation.receive bytes = .ok ⟨.ok (.skipped reason), conversation⟩) ∨
      conversation.ledger.classifyFrame frame.offset frame.consumed = .ok .fresh := by
  have examined := examine_of_frame live parsed
  cases verdict : conversation.ledger.classifyFrame frame.offset frame.consumed with
  | error error =>
      rw [verdict] at examined
      exact .inl ⟨error, rfl, by simp [receive, examined]⟩
  | ok origin =>
      rw [verdict] at examined
      cases origin with
      | own => exact .inr (.inl ⟨.own, by simp, by simp [receive, examined]⟩)
      | duplicate => exact .inr (.inl ⟨.alreadyProcessed, by simp, by simp [receive, examined]⟩)
      | fresh => exact .inr (.inr rfl)

theorem receive_of_unopened {error : FrameError} (parsed : Frame.ofBytes bytes = pure frame)
    (fresh : conversation.ledger.classifyFrame frame.offset frame.consumed = .ok .fresh)
    (unopened : frame.openWith conversation.region = throw error) :
    conversation.receive bytes = .ok (.refuse conversation (.frame error)) := by
  have examined := examine_of_frame live parsed
  rw [fresh] at examined
  simp [receive, examined, unopened]

theorem receive_of_opened {plaintext : List UInt8} (parsed : Frame.ofBytes bytes = pure frame)
    (fresh : conversation.ledger.classifyFrame frame.offset frame.consumed = .ok .fresh)
    (opened : frame.openWith conversation.region = pure plaintext) :
    conversation.receive bytes =
      .ok (conversation.settle
        ⟨plaintext, frame.offset, frame.consumed, frame.ciphertext.length⟩) := by
  have examined := examine_of_frame live parsed
  rw [fresh] at examined
  simp [receive, examined, opened]

end Receiving

/-- The message that an opened frame carries. -/
def messageOf (frame : Frame) (plaintext : List UInt8) : Message :=
  ⟨plaintext, frame.offset, frame.consumed, frame.ciphertext.length⟩

/-- A conversation that has seen a frame of the other party. -/
def heed (conversation : Conversation) (frame : Frame) : Conversation :=
  { conversation with
    ledger := conversation.ledger.observe
      (conversation.ledger.markOf frame.offset frame.consumed) }

/-- What it takes for a frame to be delivered. -/
structure Delivers (conversation : Conversation) (frame : Frame) (plaintext : List UInt8) :
    Prop where
  live : conversation.ledger.burned = false
  fresh : conversation.ledger.Fresh frame.offset frame.consumed
  authentic : frame.Authentic conversation.region
  opened : frame.openWith conversation.region = pure plaintext
  apart : Disjoint frame.extent conversation.ledger.own

section SoundReceiving

variable (sound : conversation.Sound)

include sound

/-- In a sound conversation, a frame that is classified as new and has its key
material in the region is new to the books. -/
theorem Sound.fresh {frame : Frame} (live : conversation.ledger.burned = false)
    (within : frame.keySpan.Within conversation.region) :
    conversation.ledger.classifyFrame frame.offset frame.consumed = .ok .fresh ↔
      conversation.ledger.Fresh frame.offset frame.consumed := by
  have nonempty : 0 < frame.consumed.toNat := by
    rw [frame.toNat_consumed]
    exact Nat.succ_pos _
  have inside : frame.offset.toNat + frame.consumed.toNat ≤ conversation.ledger.total.toNat := by
    rw [frame.toNat_consumed, ← sound.covered live]
    exact within
  rw [Ledger.classifyFrame_eq_fresh_iff nonempty inside]
  constructor
  · rintro ⟨unowned, clear⟩
    exact ⟨nonempty, inside, unowned, clear⟩
  · rintro ⟨-, -, unowned, clear⟩
    exact ⟨unowned, clear⟩

theorem Sound.settle_of_apart {frame : Frame} (live : conversation.ledger.burned = false)
    (fresh : conversation.ledger.Fresh frame.offset frame.consumed)
    (apart : Disjoint frame.extent conversation.ledger.own) (plaintext : List UInt8) :
    conversation.settle (messageOf frame plaintext) =
      ⟨.ok (.delivered (messageOf frame plaintext)), conversation.heed frame⟩ := by
  rw [← frame.claim_eq_extent, fresh.disjoint_own_iff sound.balanced] at apart
  have notOver : ¬ conversation.ledger.total.toNat <
      conversation.ledger.sent.toNat + conversation.ledger.markOf frame.offset frame.consumed := by
    omega
  have recorded := fresh.record_eq live
  rw [if_neg notOver] at recorded
  simp [settle, messageOf, recorded, heed]

/-- A new frame that meets the positions of this party is refused in the end,
whatever it carries. -/
theorem Sound.settle_of_meeting {frame : Frame} (live : conversation.ledger.burned = false)
    (fresh : conversation.ledger.Fresh frame.offset frame.consumed)
    (meeting : ¬ Disjoint frame.extent conversation.ledger.own) (plaintext : List UInt8) :
    conversation.settle (messageOf frame plaintext) =
      .refuse conversation (.invalidFormat "peer range overlaps own sends") := by
  rw [← frame.claim_eq_extent, fresh.disjoint_own_iff sound.balanced] at meeting
  have excess : conversation.ledger.total.toNat <
      conversation.ledger.sent.toNat + conversation.ledger.markOf frame.offset frame.consumed := by
    omega
  have recorded := fresh.record_eq live
  rw [if_pos excess] at recorded
  simp [settle, messageOf, recorded, Reply.refuse]

/-- The key material of a new frame lies in the region. -/
theorem Sound.within_of_fresh {frame : Frame} (live : conversation.ledger.burned = false)
    (fresh : conversation.ledger.Fresh frame.offset frame.consumed) :
    frame.keySpan.Within conversation.region := by
  have inside := fresh.inside
  rw [frame.toNat_consumed, ← sound.covered live] at inside
  exact inside

theorem Sound.classifyFrame_eq_fresh {frame : Frame} (live : conversation.ledger.burned = false)
    (fresh : conversation.ledger.Fresh frame.offset frame.consumed) :
    conversation.ledger.classifyFrame frame.offset frame.consumed = .ok .fresh :=
  (sound.fresh live (sound.within_of_fresh live fresh)).mpr fresh

section Opened

variable {bytes plaintext : List UInt8} {frame : Frame} (live : conversation.ledger.burned = false)
  (parsed : Frame.ofBytes bytes = pure frame)
  (fresh : conversation.ledger.Fresh frame.offset frame.consumed)
  (opened : frame.openWith conversation.region = pure plaintext)

include live parsed fresh opened

theorem Sound.receive_of_apart (apart : Disjoint frame.extent conversation.ledger.own) :
    conversation.receive bytes =
      .ok ⟨.ok (.delivered (messageOf frame plaintext)), conversation.heed frame⟩ := by
  have received := receive_of_opened live parsed (sound.classifyFrame_eq_fresh live fresh) opened
  rwa [← messageOf, sound.settle_of_apart live fresh apart] at received

theorem Sound.receive_of_meeting (meeting : ¬ Disjoint frame.extent conversation.ledger.own) :
    conversation.receive bytes =
      .ok (.refuse conversation (.invalidFormat "peer range overlaps own sends")) := by
  have received := receive_of_opened live parsed (sound.classifyFrame_eq_fresh live fresh) opened
  rwa [← messageOf, sound.settle_of_meeting live fresh meeting] at received

end Opened

/-- An arrival at a live conversation is refused for a reason that concerns
this frame only, or skipped, or it delivers a frame that is new, authentic, and
off the positions of this party. -/
theorem Sound.receive_cases_of_live (live : conversation.ledger.burned = false)
    (bytes : List UInt8) :
    (∃ error : LedgerError, error.isRecoverable = true ∧
        conversation.receive bytes = .ok (.refuse conversation error)) ∨
      (∃ reason, conversation.receive bytes = .ok ⟨.ok (.skipped reason), conversation⟩) ∨
      ∃ frame plaintext, Frame.ofBytes bytes = pure frame ∧
        conversation.Delivers frame plaintext ∧
        conversation.receive bytes =
          .ok ⟨.ok (.delivered (messageOf frame plaintext)), conversation.heed frame⟩ := by
  rcases Frame.ofBytes_drops_or_reads bytes with
    ⟨error, droppable, unreadable⟩ | ⟨frame, parsed, -, -⟩
  · exact .inl ⟨.frame error, droppable, receive_of_unreadable live unreadable⟩
  · rcases receive_of_classified live parsed with
      ⟨error, refused, received⟩ | ⟨reason, -, received⟩ | verdict
    · exact .inl ⟨error, Ledger.isRecoverable_of_classifyFrame refused, received⟩
    · exact .inr (.inl ⟨reason, received⟩)
    · rcases frame.opens_or_unopenable conversation.region with
        ⟨plaintext, opens⟩ | ⟨error, unopenable⟩
      · have fresh := (sound.fresh live opens.inside).mp verdict
        have opened := opens.openWith_eq
        by_cases apart : Disjoint frame.extent conversation.ledger.own
        · have received := sound.receive_of_apart live parsed fresh opened apart
          have delivers : conversation.Delivers frame plaintext :=
            ⟨live, fresh, Frame.authentic_iff.mpr opens.signed, opened, apart⟩
          exact .inr (.inr ⟨frame, plaintext, parsed, delivers, received⟩)
        · exact .inl ⟨_, rfl, sound.receive_of_meeting live parsed fresh opened apart⟩
      · exact .inl ⟨.frame error, unopenable.isDroppable,
          receive_of_unopened live parsed verdict unopenable.openWith_eq⟩

/-- Every arrival either changes nothing, or delivers a frame that is new,
authentic, and off the positions of this party. -/
theorem Sound.receive_cases (bytes : List UInt8) :
    (∃ answer, conversation.receive bytes = .ok ⟨answer, conversation⟩ ∧
        ∀ message, answer ≠ .ok (.delivered message)) ∨
      ∃ frame plaintext, Frame.ofBytes bytes = pure frame ∧
        conversation.Delivers frame plaintext ∧
        conversation.receive bytes =
          .ok ⟨.ok (.delivered (messageOf frame plaintext)), conversation.heed frame⟩ := by
  cases live : conversation.ledger.burned with
  | true => exact .inl ⟨_, receive_of_burned live, by simp⟩
  | false =>
      rcases sound.receive_cases_of_live live bytes with
        ⟨error, -, received⟩ | ⟨reason, received⟩ | delivered
      · exact .inl ⟨_, received, by simp⟩
      · exact .inl ⟨_, received, by simp⟩
      · exact .inr delivered

end SoundReceiving

end Conversation

end OneTimePad
