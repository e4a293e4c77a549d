import OneTimePad.Proofs.Conversation.Sequence

/-!
# Arrivals

Whatever octets arrive at a live conversation, it answers.  Either it has not
changed, and goes on whatever was wrong with them; or it has delivered a frame
that passed every check, and nothing but its mark of the other party has moved,
over the positions of this frame.

The checks of the record come after the frame was opened.  They do not undo what
the classification has said: a new frame is never found to be one of ours, nor
to be seen already, and an initiator always records it.
-/

namespace OneTimePad

namespace Ledger

variable {ledger : Ledger} {offset length : UInt64}

theorem foreign_eq_positions (ledger : Ledger) :
    ledger.foreign = (ledger.role.processed ledger.total ledger.seen).positions :=
  Role.positions_processed.symm

/-- The other party of an initiator comes from the end of the region, and a new
frame begins at or after what the initiator has sent. -/
theorem Fresh.fits_of_initiator (fresh : ledger.Fresh offset length)
    (role : ledger.role = .initiator) :
    ledger.sent.toNat + ledger.markOf offset length ≤ ledger.total.toNat := by
  have inside := fresh.inside
  have unowned := fresh.unowned
  unfold own at unowned
  rw [role, Role.side, Set.mem_Ico] at unowned
  unfold markOf
  rw [role]
  simp only
  omega

/-- A new frame is neither one of ours nor seen already when it is recorded. -/
theorem Fresh.record_cases (fresh : ledger.Fresh offset length) (live : ledger.burned = false) :
    (∃ mark, (ledger.record offset length).answer = .ok (.advanced mark)) ∨
      (∃ error, (ledger.record offset length).answer = .error error) ∧
        ledger.role ≠ .initiator := by
  rw [fresh.record_eq live]
  by_cases excess : ledger.total.toNat < ledger.sent.toNat + ledger.markOf offset length
  · rw [if_pos excess]
    refine .inr ⟨⟨_, rfl⟩, ?_⟩
    intro role
    have fits := fresh.fits_of_initiator role
    omega
  · rw [if_neg excess]
    exact .inl ⟨_, rfl⟩

end Ledger

namespace Conversation

variable {conversation : Conversation}

theorem Delivers.seen_lt {frame : Frame} {plaintext : List UInt8}
    (delivers : conversation.Delivers frame plaintext) :
    conversation.ledger.seen < (conversation.heed frame).ledger.seen := by
  have later := delivers.fresh.seen_lt_mark
  rw [UInt64.lt_iff_toNat_lt]
  change _ < (UInt64.ofNat _).toNat
  rwa [delivers.fresh.toNat_mark]

/-- What is true of the octets of a delivered frame, and of the conversation
before and after it. -/
structure Accepted (before : Conversation) (bytes : List UInt8) (frame : Frame)
    (after : Conversation) : Prop where
  parsed : Frame.ofBytes bytes = pure frame
  within : frame.keySpan.Within before.region
  signed : Authenticator.sign (frame.keySpan.authKey before.region) frame.header.toBytes
    frame.ciphertext = .ok frame.tag
  notSent : Disjoint frame.extent before.ledger.own
  notSeen : Disjoint frame.extent
    (before.ledger.role.processed before.ledger.total before.ledger.seen).positions
  /-- Only the mark has moved. -/
  after_eq : after =
    { before with ledger := { before.ledger with seen := after.ledger.seen } }
  later : before.ledger.seen < after.ledger.seen
  nowSeen : frame.extent ⊆
    (after.ledger.role.processed after.ledger.total after.ledger.seen).positions

theorem Delivers.accepted {bytes plaintext : List UInt8} {frame : Frame}
    (sound : conversation.Sound) (parsed : Frame.ofBytes bytes = pure frame)
    (delivers : conversation.Delivers frame plaintext) :
    Accepted conversation bytes frame (conversation.heed frame) where
  parsed := parsed
  within := sound.within_of_fresh delivers.live delivers.fresh
  signed := Frame.authentic_iff.mp delivers.authentic
  notSent := delivers.apart
  notSeen := by
    rw [← Ledger.foreign_eq_positions, ← frame.claim_eq_extent]
    exact delivers.fresh.clear
  after_eq := rfl
  later := delivers.seen_lt
  nowSeen := by
    rw [← Ledger.foreign_eq_positions, ← frame.claim_eq_extent]
    exact delivers.fresh.claim_subset_observe

/-- Where the books and the seal have accepted a frame, it is new. -/
theorem Sound.fresh_of_opened {plaintext : List UInt8} {frame : Frame}
    (sound : conversation.Sound) (live : conversation.ledger.burned = false)
    (verdict : conversation.ledger.classifyFrame frame.offset frame.consumed = .ok .fresh)
    (opened : frame.openWith conversation.region = pure plaintext) :
    conversation.ledger.Fresh frame.offset frame.consumed := by
  have opens := Frame.openWith_eq_pure_iff.mp opened
  exact (sound.fresh live opens.inside).mp verdict

/-- Receiving is atomic.  An arrival that is not delivered leaves a live
conversation as it was, and its error, if there is one, concerns this frame
only.  A delivered frame was read from the octets, has its key material in the
region, is signed with it, and lies off the positions of this party and off
those seen already; nothing but the mark moves, forward and over the positions
of the frame.  And a frame that was opened as a new one is recorded as a new
one, by an initiator without fail. -/
theorem receive_atomic (reachable : conversation.Reachable)
    (live : conversation.ledger.burned = false) (bytes : List UInt8) :
    ∃ reply, conversation.receive bytes = .ok reply ∧
      ((∀ message, reply.answer ≠ .ok (.delivered message)) →
        reply.after = conversation ∧
          ∀ error, reply.answer = .error error → error.isRecoverable = true) ∧
      (∀ message, reply.answer = .ok (.delivered message) →
        ∃ frame, Accepted conversation bytes frame reply.after) ∧
      ∀ frame plaintext answer, Frame.ofBytes bytes = pure frame →
        conversation.ledger.classifyFrame frame.offset frame.consumed = .ok .fresh →
        frame.openWith conversation.region = pure plaintext →
        (conversation.ledger.record frame.offset frame.consumed).answer = answer →
        answer ≠ .ok .ownMessage ∧ answer ≠ .ok .stale ∧
          (conversation.ledger.role = .initiator → ∃ mark, answer = .ok (.advanced mark)) := by
  have sound := reachable.sound
  have recorded : ∀ frame plaintext answer, Frame.ofBytes bytes = pure frame →
      conversation.ledger.classifyFrame frame.offset frame.consumed = .ok .fresh →
      frame.openWith conversation.region = pure plaintext →
      (conversation.ledger.record frame.offset frame.consumed).answer = answer →
      answer ≠ .ok .ownMessage ∧ answer ≠ .ok .stale ∧
        (conversation.ledger.role = .initiator → ∃ mark, answer = .ok (.advanced mark)) := by
    rintro frame plaintext answer parsed verdict opened rfl
    have fresh := sound.fresh_of_opened live verdict opened
    rcases fresh.record_cases live with ⟨mark, advanced⟩ | ⟨⟨error, refused⟩, responder⟩
    · rw [advanced]
      exact ⟨by simp, by simp, fun _ => ⟨mark, rfl⟩⟩
    · rw [refused]
      exact ⟨by simp, by simp, fun initiator => absurd initiator responder⟩
  rcases sound.receive_cases_of_live live bytes with
    ⟨error, recoverable, received⟩ | ⟨reason, received⟩ |
      ⟨frame, plaintext, parsed, delivers, received⟩
  · refine ⟨_, received, fun _ => ⟨rfl, ?_⟩, ?_, recorded⟩
    · intro other same
      cases same
      exact recoverable
    · intro message delivered
      cases delivered
  · refine ⟨_, received, fun _ => ⟨rfl, ?_⟩, ?_, recorded⟩
    · intro other same
      cases same
    · intro message delivered
      cases delivered
  · refine ⟨_, received, ?_, ?_, recorded⟩
    · intro undelivered
      exact absurd rfl (undelivered _)
    · intro message delivered
      exact ⟨frame, delivers.accepted sound parsed⟩

/-- Over the small pad, a responder has sent one message without octets. -/
theorem exists_send_smallPad :
    ∃ start bytes busy, begin smallPad .responder {} = pure start ∧
      start.send [] = .ok ⟨.ok bytes, busy⟩ ∧ busy.Reachable ∧
      busy.ledger = { Ledger.fresh .responder 192 with sent := 96 } ∧
      busy.region.length = 192 := by
  rcases exists_begin_smallPad .responder with ⟨start, begun⟩
  have sends : start.Sends [] := sends_of_begin_smallPad begun rfl
  rcases send_eq_ok sends with ⟨frame, -, sent⟩
  have reachable : (start.spend []).Reachable :=
    .played (.begun length_smallPad_lt begun) (play_send sent)
  have books : (start.spend []).ledger = _ := ledger_spend_smallPad begun rfl
  refine ⟨start, _, _, begun, sent, reachable, books, ?_⟩
  rw [reachable.sound.covered (by rw [books]; rfl), books]
  rfl

/-- Once a responder has sent a message from the end of the region, a frame of
the initiator is delivered to it.  A frame that begins before its own positions
and runs into them is opened, and refused for it. -/
theorem receive_atomic_after_send :
    ∃ start bytes busy letter after stray,
      begin smallPad .responder {} = pure start ∧
        start.send [] = .ok ⟨.ok bytes, busy⟩ ∧ busy.ledger.sent = 96 ∧
        Frame.sealAt busy.region 0 [7] = pure letter ∧
        busy.receive letter.toBytes =
          .ok ⟨.ok (.delivered (messageOf letter [7])), after⟩ ∧
        (∃ frame, Accepted busy letter.toBytes frame after) ∧
        Frame.sealAt busy.region 50 [9] = pure stray ∧
        stray.openWith busy.region = pure [9] ∧
        busy.receive stray.toBytes =
          .ok (.refuse busy (.invalidFormat "peer range overlaps own sends")) ∧
        (LedgerError.invalidFormat "peer range overlaps own sends").isRecoverable = true ∧
        (busy.ledger.record stray.offset stray.consumed).answer ≠ .ok .ownMessage ∧
        (busy.ledger.record stray.offset stray.consumed).answer ≠ .ok .stale := by
  obtain ⟨start, bytes, busy, begun, sent, reachable, books, covered⟩ := exists_send_smallPad
  have sound := reachable.sound
  have live : busy.ledger.burned = false := by
    rw [books]
    rfl
  obtain ⟨letter, letterSealed, letterSeals⟩ :
      ∃ frame, Frame.sealAt busy.region 0 [7] = pure frame ∧ frame.Seals busy.region 0 [7] := by
    apply Frame.exists_sealAt (by decide)
    rw [KeySpan.Within, covered]
    decide
  have continues :
      letter.Continues busy.ledger.role.peer busy.ledger.total.toNat 0 busy.region [7] := by
    refine ⟨by decide, ?_, ?_, letterSeals.offset_eq ▸ letterSeals⟩
    · rw [books]
      decide
    · rw [letterSeals.offset_eq, books]
      rfl
  obtain ⟨arrived, -, -⟩ :=
    receive_of_unseen sound live continues (by rw [books]; decide) (by rw [books]; decide)
  -- the other frame claims the positions from 50 to 146, and those from 96 on are taken
  have within : (Frame.messageSpan 50 [9]).Within busy.region := by
    rw [KeySpan.Within, covered]
    decide
  obtain ⟨stray, straySealed, straySeals⟩ := Frame.exists_sealAt (by decide) within
  have consumed : stray.consumed = 96 := UInt64.toNat_inj.mp (straySeals.toNat_consumed within)
  have verdict : busy.ledger.classifyFrame stray.offset stray.consumed = .ok .fresh := by
    rw [books, straySeals.offset_eq, consumed]
    rfl
  have fresh : busy.ledger.Fresh stray.offset stray.consumed := by
    apply (sound.fresh live _).mp verdict
    rwa [straySeals.keySpan_eq within]
  have meets : ¬ Disjoint stray.extent busy.ledger.own := by
    rw [← stray.claim_eq_extent, fresh.disjoint_own_iff sound.balanced, books,
      straySeals.offset_eq, consumed]
    decide
  have parsed := Frame.ofBytes_toBytes (straySeals.minimumLength_le within)
  have opened := straySeals.openWith_eq within (by decide)
  have refused := sound.receive_of_meeting live parsed fresh opened meets
  rcases receive_atomic reachable live letter.toBytes with ⟨reply, received, -, delivered, -⟩
  obtain rfl := Except.ok.inj (arrived.symm.trans received)
  rcases receive_atomic reachable live stray.toBytes with ⟨reply, received, rests, -, recorded⟩
  obtain rfl := Except.ok.inj (refused.symm.trans received)
  rcases recorded stray _ _ parsed verdict opened rfl with ⟨notOwn, notStale, -⟩
  exact ⟨start, bytes, busy, letter, _, stray, begun, sent, by rw [books], letterSealed, arrived,
    delivered _ rfl, straySealed, opened, refused, (rests nofun).2 _ rfl, notOwn, notStale⟩

end Conversation

end OneTimePad
