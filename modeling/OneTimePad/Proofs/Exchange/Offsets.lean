import OneTimePad.Proofs.Exchange.Delivery

/-!
# Letters by their offsets

The frames of a party's letters begin at different places of the region, so a
letter is known by the offset of its frame.  A letter that comes back to the
party that has sent it is known by its offset as well, and is skipped.
-/

namespace OneTimePad.Exchange

open Conversation (cost)

/-- A party has sent a letter with this number in a frame. -/
structure Posted (exchange : Exchange) (role : Role) (number : Nat) (letter : Letter)
    (frame : Frame) : Prop where
  present : (exchange role).letters[number]? = some letter
  parsed : Frame.ofBytes letter.bytes = pure frame

variable {total : Nat} {region : List UInt8} {exchange : Exchange} {role : Role}
  {letter other : Letter} {number : Nat} {frame continuation : Frame}

/-- Letters are posted wherever they are listed. -/
theorem Posted.congr {listed : Exchange} (posted : exchange.Posted role number letter frame)
    (same : (listed role).letters = (exchange role).letters) :
    listed.Posted role number letter frame where
  present := by
    rw [same]
    exact posted.present
  parsed := posted.parsed

theorem letters_accept (other : Role) :
    (exchange.setParty role ((exchange role).accept number frame) other).letters =
      (exchange other).letters := by
  rcases role.eq_or_eq_peer other with rfl | rfl
  · rw [setParty_apply_self]
    rfl
  · rw [setParty_apply_peer]

/-- Letters that were posted stay so when another one is. -/
theorem getElem?_letters_post {message : List UInt8} {other : Role}
    (present : (exchange other).letters[number]? = some letter) :
    (exchange.setParty role ((exchange role).post message frame) other).letters[number]? =
      some letter := by
  rcases role.eq_or_eq_peer other with rfl | rfl
  · rw [setParty_apply_self, Correspondent.letters_post,
      List.getElem?_append_left (List.getElem?_eq_some_iff.mp present).1]
    exact present
  · rw [setParty_apply_peer]
    exact present

/-- The letter that is posted now is the last one. -/
theorem posted_post {message : List UInt8}
    (long : Padding.minimumLength ≤ frame.ciphertext.length) :
    (exchange.setParty role ((exchange role).post message frame)).Posted role
      (exchange role).letters.length ⟨message, frame.toBytes⟩ frame where
  present := by
    rw [setParty_apply_self, Correspondent.letters_post, List.getElem?_concat_length]
  parsed := Frame.ofBytes_toBytes long

/-- A letter was posted before, or it is the one that is posted now. -/
theorem posted_of_post {message : List UInt8} {other : Role}
    (posted : (exchange.setParty role ((exchange role).post message frame)).Posted other number
      letter continuation) :
    exchange.Posted other number letter continuation ∨
      other = role ∧ number = (exchange role).letters.length ∧
        letter = ⟨message, frame.toBytes⟩ := by
  have present := posted.present
  rcases role.eq_or_eq_peer other with rfl | rfl
  · rw [setParty_apply_self, Correspondent.letters_post] at present
    by_cases earlier : number < (exchange other).letters.length
    · rw [List.getElem?_append_left earlier] at present
      exact .inl ⟨present, posted.parsed⟩
    · rw [List.getElem?_append_right (Nat.le_of_not_lt earlier), List.getElem?_singleton] at present
      split at present
      · rename_i last
        cases present
        exact .inr ⟨rfl, by omega, rfl⟩
      · cases present
  · rw [setParty_apply_peer] at present
    exact .inl ⟨present, posted.parsed⟩

/-- Every letter was sent in a frame that continues the earlier ones. -/
theorem Invariant.exists_posted (invariant : Invariant total region exchange)
    (present : (exchange role).letters[number]? = some letter) :
    ∃ frame : Frame, letter.bytes = frame.toBytes ∧ exchange.Posted role number letter frame ∧
      frame.Continues role total (Letter.consumption ((exchange role).letters.take number)) region
        letter.message := by
  have writes := invariant.writes role
  have covered := writes.sound.covered writes.live
  rw [writes.region_eq, writes.total_eq] at covered
  rcases writes.sealed number letter present with ⟨frame, bytes_eq, continues⟩
  refine ⟨frame, bytes_eq, ⟨present, ?_⟩, continues⟩
  rw [bytes_eq]
  exact Frame.ofBytes_toBytes (continues.minimumLength_le covered)

theorem Invariant.continues (invariant : Invariant total region exchange)
    (posted : exchange.Posted role number letter frame) :
    frame.Continues role total (Letter.consumption ((exchange role).letters.take number)) region
      letter.message := by
  rcases invariant.exists_posted posted.present with ⟨_, -, same, continues⟩
  obtain rfl := Attempt.pure_inj.mp (same.parsed.symm.trans posted.parsed)
  exact continues

/-- A frame lies among the positions that its party has used. -/
theorem Invariant.extent_subset_side (invariant : Invariant total region exchange)
    (posted : exchange.Posted role number letter frame) :
    frame.extent ⊆ role.side total (exchange role).conversation.ledger.sent.toNat := by
  have writes := invariant.writes role
  have covered := writes.sound.covered writes.live
  rw [writes.region_eq, writes.total_eq] at covered
  have continues := invariant.continues posted
  have upTo := Letter.consumption_take_le (exchange role).letters (number + 1)
  rw [Letter.consumption_take_succ posted.present, ← writes.sent_eq] at upTo
  rw [← frame.claim_eq_extent, continues.claim_eq covered]
  exact (Role.next_subset_side continues.fits).trans (Role.side_mono upTo)

/-- The offsets of a party's frames move away from its end of the region. -/
theorem Invariant.offset_ne (invariant : Invariant total region exchange) {earlier later : Nat}
    (lt : earlier < later) (posted : exchange.Posted role earlier letter frame)
    (otherPosted : exchange.Posted role later other continuation) :
    frame.offset ≠ continuation.offset := by
  have upTo : Letter.consumption ((exchange role).letters.take (earlier + 1)) ≤
      Letter.consumption ((exchange role).letters.take later) := Letter.consumption_take_mono lt
  rw [Letter.consumption_take_succ posted.present] at upTo
  have start := (invariant.continues posted).start
  have otherStart := (invariant.continues otherPosted).start
  have fits := (invariant.continues otherPosted).fits
  have positive : 0 < cost letter.message := Nat.succ_pos _
  have otherPositive : 0 < cost other.message := Nat.succ_pos _
  intro same
  rw [← same] at otherStart
  cases role with
  | initiator =>
      simp only [Role.nextStart] at start otherStart
      omega
  | responder =>
      simp only [Role.nextStart] at start otherStart
      omega

/-- Letters of a party whose frames have one offset are the same. -/
theorem Invariant.number_eq_of_offset_eq (invariant : Invariant total region exchange)
    {one another : Nat} (posted : exchange.Posted role one letter frame)
    (otherPosted : exchange.Posted role another other continuation)
    (same : frame.offset = continuation.offset) : one = another := by
  rcases Nat.lt_trichotomy one another with lt | eq | lt
  · exact absurd same (invariant.offset_ne lt posted otherPosted)
  · exact eq
  · exact absurd same.symm (invariant.offset_ne lt otherPosted posted)

/-- A letter that comes back to the party that has sent it is skipped. -/
theorem Invariant.receive_of_echo (invariant : Invariant total region exchange)
    (present : (exchange role).letters[number]? = some letter) :
    (exchange role).conversation.receive letter.bytes =
      .ok ⟨.ok (.skipped .own), (exchange role).conversation⟩ := by
  have writes := invariant.writes role
  have covered := writes.sound.covered writes.live
  rcases invariant.exists_posted present with ⟨frame, bytes_eq, -, continues⟩
  have upTo := Letter.consumption_take_le (exchange role).letters (number + 1)
  rw [Letter.consumption_take_succ present, ← writes.sent_eq] at upTo
  rw [writes.region_eq] at covered
  rw [bytes_eq]
  refine Conversation.receive_of_echo writes.sound writes.live ?_ covered upTo
  rw [writes.role_eq, writes.total_eq]
  exact continues

section Delivering

variable (invariant : Invariant total region exchange)
  (posted : exchange.Posted role.peer number letter frame)
  (latest : covered (exchange role).delivered ≤ number)

include invariant posted latest

/-- A letter after all delivered ones is delivered in its frame. -/
theorem Invariant.receive_of_posted :
    (exchange role).conversation.receive letter.bytes =
        .ok ⟨.ok (.delivered (Conversation.messageOf frame letter.message)),
          (exchange role).conversation.heed frame⟩ ∧
      (exchange role).conversation.Delivers frame letter.message ∧
      ((exchange role).conversation.heed frame).ledger.seen.toNat =
        Letter.consumption ((exchange role.peer).letters.take (number + 1)) := by
  rcases invariant.receive_of_latest posted.present latest with ⟨_, received, -, seen⟩
  rcases (invariant.writes role).sound.receive_cases letter.bytes with
    ⟨answer, ignored, undelivered⟩ | ⟨read, plaintext, parsed, delivers, same⟩
  · have replies := Except.ok.inj (ignored.symm.trans received)
    exact absurd (congrArg Reply.answer replies) (undelivered _)
  · obtain rfl := Attempt.pure_inj.mp (parsed.symm.trans posted.parsed)
    have replies := Except.ok.inj (same.symm.trans received)
    have plaintext_eq : plaintext = letter.message := by
      have messages := congrArg Reply.answer replies
      injection messages with messages
      injection messages with messages
      exact congrArg Message.plaintext messages
    have after_eq := congrArg Reply.after replies
    rw [← plaintext_eq]
    refine ⟨same, delivers, ?_⟩
    exact (congrArg (fun after => after.ledger.seen.toNat) after_eq).trans seen

/-- The invariant survives the delivery. -/
theorem Invariant.accept :
    Invariant total region (exchange.setParty role ((exchange role).accept number frame)) := by
  rcases invariant.receive_of_posted posted latest with ⟨-, delivers, seen⟩
  have peerReads := invariant.reads role.peer
  rw [Role.peer_peer] at peerReads
  exact invariant.setParty ((invariant.writes role).accept delivers number)
    ((invariant.reads role).accept posted.present latest seen) peerReads (invariant.fits role)

end Delivering

end OneTimePad.Exchange
