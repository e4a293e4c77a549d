import OneTimePad.Proofs.Exchange.Correspondent

/-!
# The law of delivery

In whatever order letters arrive, a letter is delivered exactly when its number
is larger than those of all letters delivered before.  The mark of the receiver
then stands behind this letter, and all earlier ones are lost to it.  Nothing is
delivered twice, and nothing is lost as long as first copies arrive in order.

What carries the proof is that the mark always stands behind a whole letter: it
is what the letters up to the largest delivered one consume together.
-/

namespace OneTimePad

open Conversation (cost)

namespace Exchange

open Correspondent (Writes Reads)

/-- What holds of both parties together. -/
structure Invariant (total : Nat) (region : List UInt8) (exchange : Exchange) : Prop where
  writes : ∀ role, Writes total region role (exchange role)
  reads : ∀ role, Reads (exchange role) (exchange role.peer).letters
  fits : ∀ role, Letter.consumption (exchange role).letters +
    Letter.consumption (exchange role.peer).letters ≤ total

variable {total : Nat} {region : List UInt8} {exchange after : Exchange} {role : Role}
  {message : List UInt8} {letter : Letter} {number : Nat} {frame : Frame}

/-- The invariant survives a party that keeps to it. -/
theorem Invariant.setParty {party : Correspondent} (invariant : Invariant total region exchange)
    (writes : Writes total region role party) (reads : Reads party (exchange role.peer).letters)
    (peerReads : Reads (exchange role.peer) party.letters)
    (fits : Letter.consumption party.letters +
      Letter.consumption (exchange role.peer).letters ≤ total) :
    Invariant total region (exchange.setParty role party) where
  writes := by
    intro other
    rcases role.eq_or_eq_peer other with rfl | rfl
    · rwa [setParty_apply_self]
    · rw [setParty_apply_peer]
      exact invariant.writes role.peer
  reads := by
    intro other
    rcases role.eq_or_eq_peer other with rfl | rfl
    · rwa [setParty_apply_self, setParty_apply_peer]
    · rwa [Role.peer_peer, setParty_apply_self, setParty_apply_peer]
  fits := by
    intro other
    rcases role.eq_or_eq_peer other with rfl | rfl
    · rwa [setParty_apply_self, setParty_apply_peer]
    · rwa [Role.peer_peer, setParty_apply_self, setParty_apply_peer, Nat.add_comm]

/-! ## Arriving -/

section Arriving

variable (invariant : Invariant total region exchange)
  (present : (exchange role.peer).letters[number]? = some letter)

include invariant present

/-- What an arriving letter is to its receiver: a frame that continues the
earlier letters, and has room beside what the receiver has sent. -/
theorem Invariant.exists_continues :
    ∃ frame : Frame, letter.bytes = frame.toBytes ∧
      frame.Continues (exchange role).conversation.ledger.role.peer
        (exchange role).conversation.ledger.total.toNat
        (Letter.consumption ((exchange role.peer).letters.take number))
        (exchange role).conversation.region letter.message ∧
      (exchange role).conversation.ledger.sent.toNat +
          (Letter.consumption ((exchange role.peer).letters.take number) +
            cost letter.message) ≤
        (exchange role).conversation.ledger.total.toNat := by
  have writes := invariant.writes role
  rcases (invariant.writes role.peer).sealed number letter present with
    ⟨frame, bytes_eq, continues⟩
  refine ⟨frame, bytes_eq, ?_, ?_⟩
  · rw [writes.role_eq, writes.total_eq, writes.region_eq]
    exact continues
  · have fits := invariant.fits role
    have upTo := Letter.consumption_take_le (exchange role.peer).letters (number + 1)
    rw [Letter.consumption_take_succ present] at upTo
    rw [writes.sent_eq, writes.total_eq]
    omega

/-- A letter after all delivered ones is delivered. -/
theorem Invariant.receive_of_latest (latest : covered (exchange role).delivered ≤ number) :
    ∃ frame : Frame,
      (exchange role).conversation.receive letter.bytes =
        .ok ⟨.ok (.delivered (Conversation.messageOf frame letter.message)),
          (exchange role).conversation.heed frame⟩ ∧
      (exchange role).conversation.Delivers frame letter.message ∧
      ((exchange role).conversation.heed frame).ledger.seen.toNat =
        Letter.consumption ((exchange role.peer).letters.take (number + 1)) := by
  have writes := invariant.writes role
  rcases invariant.exists_continues present with ⟨frame, bytes_eq, continues, clear⟩
  have unseen : (exchange role).conversation.ledger.seen.toNat ≤
      Letter.consumption ((exchange role.peer).letters.take number) := by
    rw [(invariant.reads role).seen_eq]
    exact Letter.consumption_take_mono latest
  rcases Conversation.receive_of_unseen writes.sound writes.live continues clear unseen with
    ⟨received, delivers, seen⟩
  refine ⟨frame, ?_, delivers, ?_⟩
  · rw [bytes_eq]
    exact received
  · rw [Letter.consumption_take_succ present]
    exact seen

/-- Any other letter was processed already. -/
theorem Invariant.receive_of_passed (passed : number < covered (exchange role).delivered) :
    (exchange role).conversation.receive letter.bytes =
      .ok ⟨.ok (.skipped .alreadyProcessed), (exchange role).conversation⟩ := by
  have writes := invariant.writes role
  rcases invariant.exists_continues present with ⟨frame, bytes_eq, continues, clear⟩
  have seen : Letter.consumption ((exchange role.peer).letters.take number) +
      cost letter.message ≤ (exchange role).conversation.ledger.seen.toNat := by
    rw [(invariant.reads role).seen_eq, ← Letter.consumption_take_succ present]
    exact Letter.consumption_take_mono passed
  rw [bytes_eq]
  exact Conversation.receive_of_seen writes.sound writes.live continues clear seen

theorem Invariant.arrive_of_latest (latest : covered (exchange role).delivered ≤ number) :
    ∃ frame : Frame, (exchange role).conversation.Delivers frame letter.message ∧
      ((exchange role).conversation.heed frame).ledger.seen.toNat =
        Letter.consumption ((exchange role.peer).letters.take (number + 1)) ∧
      exchange.arrive role number letter =
        .ok (exchange.setParty role ((exchange role).accept number frame)) := by
  rcases invariant.receive_of_latest present latest with ⟨frame, received, delivers, seen⟩
  refine ⟨frame, delivers, seen, ?_⟩
  rw [Exchange.arrive, received]
  rfl

theorem Invariant.arrive_of_passed (passed : number < covered (exchange role).delivered) :
    exchange.arrive role number letter =
      .ok (exchange.setParty role ((exchange role).skip number)) := by
  rw [Exchange.arrive, invariant.receive_of_passed present passed]
  rfl

/-- A letter after all delivered ones is noted as delivered. -/
theorem Invariant.exists_arrive_of_latest (latest : covered (exchange role).delivered ≤ number) :
    ∃ after, exchange.arrive role number letter = .ok after ∧
      after role.peer = exchange role.peer ∧
      (after role).arrived = number :: (exchange role).arrived ∧
      (after role).delivered = number :: (exchange role).delivered := by
  rcases invariant.arrive_of_latest present latest with ⟨frame, -, -, arrived⟩
  refine ⟨_, arrived, setParty_apply_peer _ _ _, ?_, ?_⟩
  · rw [setParty_apply_self, Correspondent.arrived_accept]
  · rw [setParty_apply_self, Correspondent.delivered_accept]

/-- Any other letter is noted as arrived only. -/
theorem Invariant.exists_arrive_of_passed (passed : number < covered (exchange role).delivered) :
    ∃ after, exchange.arrive role number letter = .ok after ∧
      after role.peer = exchange role.peer ∧
      (after role).arrived = number :: (exchange role).arrived ∧
      (after role).delivered = (exchange role).delivered := by
  refine ⟨_, invariant.arrive_of_passed present passed, setParty_apply_peer _ _ _, ?_, ?_⟩
  · rw [setParty_apply_self, Correspondent.arrived_skip]
  · rw [setParty_apply_self]
    rfl

/-- The invariant survives every arrival. -/
theorem Invariant.arrive (arrived : exchange.arrive role number letter = .ok after) :
    Invariant total region after := by
  have writes := invariant.writes role
  have reads := invariant.reads role
  have peerReads := invariant.reads role.peer
  rw [Role.peer_peer] at peerReads
  by_cases latest : covered (exchange role).delivered ≤ number
  · rcases invariant.arrive_of_latest present latest with ⟨frame, delivers, seen, same⟩
    obtain rfl := Except.ok.inj (same.symm.trans arrived)
    exact invariant.setParty (writes.accept delivers number) (reads.accept present latest seen)
      peerReads (invariant.fits role)
  · have passed := Nat.lt_of_not_le latest
    obtain rfl := Except.ok.inj ((invariant.arrive_of_passed present passed).symm.trans arrived)
    exact invariant.setParty (writes.skip number) (reads.skip passed) peerReads
      (invariant.fits role)

end Arriving

/-! ## Sending -/

theorem exists_send (sends : (exchange role).conversation.Sends message) :
    ∃ frame : Frame,
      frame.Seals (exchange role).conversation.region
        ((exchange role).conversation.nextOffset message) message ∧
      exchange.send role message =
        .ok (exchange.setParty role ((exchange role).post message frame)) := by
  rcases Conversation.send_eq_ok sends with ⟨frame, seals, sent⟩
  exact ⟨frame, seals, by rw [Exchange.send, sent]; rfl⟩

section Sending

variable (invariant : Invariant total region exchange) (affords : exchange.Affords message)

include invariant affords

/-- What both parties can afford, either of them can send beside the other. -/
theorem Invariant.fits_cost (role : Role) :
    Letter.consumption (exchange role).letters + cost message +
      Letter.consumption (exchange role.peer).letters ≤ total := by
  have sent := fun role => (invariant.writes role).sent_eq
  unfold Affords at affords
  rw [sent, sent, (invariant.writes .initiator).total_eq] at affords
  cases role with
  | initiator =>
      change Letter.consumption (exchange .initiator).letters + cost message +
        Letter.consumption (exchange .responder).letters ≤ total
      omega
  | responder =>
      change Letter.consumption (exchange .responder).letters + cost message +
        Letter.consumption (exchange .initiator).letters ≤ total
      omega

/-- A message that both parties can afford is refused by its sender, or it is
sent in a frame. -/
theorem Invariant.send_cases (role : Role) :
    exchange.send role message = .ok exchange ∨
      ∃ frame : Frame, (exchange role).conversation.Sends message ∧
        frame.Seals (exchange role).conversation.region
          ((exchange role).conversation.nextOffset message) message ∧
        exchange.send role message =
          .ok (exchange.setParty role ((exchange role).post message frame)) := by
  have writes := invariant.writes role
  have fits := invariant.fits_cost affords role
  have sized : Padding.overhead + message.length < wordLimit := by
    have totalLt := Word.toNat_lt (exchange role).conversation.ledger.total
    rw [writes.total_eq] at totalLt
    unfold cost at fits
    rw [Padding.length_padded] at fits
    omega
  rcases writes.sound.send_cases sized with ⟨error, -, refused⟩ | sends
  · have same : (.ok (exchange.setParty role (exchange role)) : Checked Exchange) =
        .ok exchange := congrArg Except.ok (exchange.setParty_self role)
    exact .inl (by rw [Exchange.send, refused]; exact same)
  · rcases exists_send sends with ⟨frame, seals, sent⟩
    exact .inr ⟨frame, sends, seals, sent⟩

/-- The invariant survives a letter that both parties can afford. -/
theorem Invariant.post (sends : (exchange role).conversation.Sends message)
    (seals : frame.Seals (exchange role).conversation.region
      ((exchange role).conversation.nextOffset message) message) :
    Invariant total region (exchange.setParty role ((exchange role).post message frame)) := by
  have peerReads := invariant.reads role.peer
  rw [Role.peer_peer] at peerReads
  refine invariant.setParty ((invariant.writes role).post sends seals)
    (invariant.reads role).post (peerReads.concat _) ?_
  rw [Correspondent.letters_post, Letter.consumption_concat]
  exact invariant.fits_cost affords role

/-- The invariant survives every message that both parties can afford. -/
theorem Invariant.send (sent : exchange.send role message = .ok after) :
    Invariant total region after := by
  rcases invariant.send_cases affords role with same | ⟨frame, sends, seals, same⟩
  · obtain rfl := Except.ok.inj (same.symm.trans sent)
    exact invariant
  · obtain rfl := Except.ok.inj (same.symm.trans sent)
    exact invariant.post affords sends seals

end Sending

/-! ## All reachable exchanges -/

section Reachable

variable {pad : List UInt8} {settings : Settings} {start : Role → Conversation}
  (fits : pad.length < wordLimit)
  (begun : ∀ role, Conversation.begin pad role settings = pure (start role))

include fits begun

theorem invariant_opening :
    Invariant (pad.length - settings.reserved) (pad.drop settings.reserved) (opening start) := by
  constructor
  case writes =>
    intro role
    rcases Conversation.begin_eq_pure (begun role) with ⟨pad_eq, settings_eq, -, ledger_eq⟩
    constructor
    case sound => exact Conversation.sound_of_begin fits (begun role)
    case live =>
      change (start role).ledger.burned = false
      rw [ledger_eq]
      rfl
    case role_eq =>
      change (start role).ledger.role = role
      rw [ledger_eq]
      rfl
    case total_eq =>
      change (start role).ledger.total.toNat = _
      rw [ledger_eq]
      exact Conversation.toNat_regionLength fits
    case region_eq =>
      change (start role).region = _
      rw [Conversation.region, pad_eq, settings_eq]
    case sent_eq =>
      change (start role).ledger.sent.toNat = 0
      rw [ledger_eq]
      rfl
    case sealed =>
      intro number letter present
      cases present
  case reads =>
    intro role
    constructor
    case known => exact Nat.zero_le _
    case seen_eq =>
      change (start role).ledger.seen.toNat = 0
      rw [(Conversation.begin_eq_pure (begun role)).2.2.2]
      rfl
    case once => exact .nil
    case received => exact fun number mem => mem
    case prompt => exact fun _ number mem => mem
  case fits => exact fun role => Nat.zero_le _

theorem Reachable.invariant (reachable : Reachable start exchange) :
    Invariant (pad.length - settings.reserved) (pad.drop settings.reserved) exchange := by
  induction reachable with
  | opened => exact invariant_opening fits begun
  | sent _ affords sent inductionHypothesis => exact inductionHypothesis.send affords sent
  | arrived _ letter_eq arrived inductionHypothesis =>
      exact inductionHypothesis.arrive letter_eq arrived

end Reachable

/-- What letters come to in an exchange. -/
structure Lawful (exchange : Exchange) : Prop where
  /-- A letter after all that were delivered is delivered, with its message. -/
  delivers : ∀ role number letter, (exchange role.peer).letters[number]? = some letter →
    (∀ earlier ∈ (exchange role).delivered, earlier < number) →
    ∃ message after,
      (exchange role).conversation.receive letter.bytes =
        .ok ⟨.ok (.delivered message), after⟩ ∧
      message.plaintext = letter.message
  /-- Every other letter is skipped as processed, and changes nothing. -/
  skips : ∀ role number letter, (exchange role.peer).letters[number]? = some letter →
    ¬ (∀ earlier ∈ (exchange role).delivered, earlier < number) →
    (exchange role).conversation.receive letter.bytes =
      .ok ⟨.ok (.skipped .alreadyProcessed), (exchange role).conversation⟩
  /-- No letter is delivered twice. -/
  once : ∀ role, (exchange role).delivered.Nodup
  /-- The mark is what the letters up to the largest delivered one consume. -/
  seen : ∀ role, (exchange role).conversation.ledger.seen.toNat =
    Letter.consumption ((exchange role.peer).letters.take (covered (exchange role).delivered))
  /-- If first copies arrive in order, every letter that has arrived was
  delivered once. -/
  complete : ∀ role, InOrder (exchange role).arrived →
    ∀ number ∈ (exchange role).arrived, (exchange role).delivered.count number = 1
  /-- What both parties can afford is sent or refused, without a fault. -/
  answered : ∀ role message, exchange.Affords message →
    ∃ after, exchange.send role message = .ok after

theorem Invariant.lawful (invariant : Invariant total region exchange) : exchange.Lawful where
  delivers := by
    intro role number letter present latest
    rcases invariant.receive_of_latest present (covered_le_iff.mpr latest) with
      ⟨frame, received, -, -⟩
    exact ⟨_, _, received, rfl⟩
  skips := by
    intro role number letter present passed
    rw [← covered_le_iff] at passed
    exact invariant.receive_of_passed present (Nat.lt_of_not_le passed)
  once := fun role => (invariant.reads role).once
  seen := fun role => (invariant.reads role).seen_eq
  complete := by
    intro role inOrder number mem
    have reads := invariant.reads role
    exact List.count_eq_one_of_mem reads.once (reads.prompt inOrder number mem)
  answered := by
    intro role message affords
    rcases invariant.send_cases affords role with same | ⟨frame, -, -, same⟩
    · exact ⟨_, same⟩
    · exact ⟨_, same⟩

/-- However the letters of two parties are delayed, lost, repeated and reordered,
each of them is delivered exactly when it comes after all that were delivered
before. -/
theorem lawful_of_reachable {pad : List UInt8} {settings : Settings} {start : Role → Conversation}
    (fits : pad.length < wordLimit)
    (begun : ∀ role, Conversation.begin pad role settings = pure (start role))
    (reachable : Reachable start exchange) : exchange.Lawful :=
  (reachable.invariant fits begun).lawful

/-- Over the small pad, the responder has sent two letters. -/
theorem exists_two_letters :
    ∃ start one two first second,
      (∀ role, Conversation.begin Conversation.smallPad role {} = pure (start role)) ∧
        (opening start).send .responder [7] = .ok one ∧ one.send .responder [8] = .ok two ∧
        Reachable start two ∧ (two .responder).letters = [first, second] ∧
        first.message = [7] ∧ second.message = [8] ∧
        (two .initiator).arrived = [] ∧ (two .initiator).delivered = [] := by
  have fits := Conversation.length_smallPad_lt
  obtain ⟨start, begun⟩ := Classical.axiomOfChoice Conversation.exists_begin_smallPad
  have ledger := fun role => Conversation.ledger_of_begin_smallPad (begun role)
  have affords : (opening start).Affords [7] := by
    change (start .initiator).ledger.sent.toNat + (start .responder).ledger.sent.toNat +
      cost [7] ≤ (start .initiator).ledger.total.toNat
    rw [ledger, ledger]
    decide
  have sends : (opening start .responder).conversation.Sends [7] :=
    Conversation.sends_of_begin_smallPad (begun .responder) rfl
  rcases exists_send sends with ⟨frame, -, sent⟩
  have reachable := Reachable.sent .opened affords sent
  have responder : (opening start).setParty .responder _ .responder =
      (opening start .responder).post [7] frame := setParty_apply_self ..
  have initiator : (opening start).setParty .responder _ .initiator = opening start .initiator :=
    setParty_apply_peer _ .responder ((opening start .responder).post [7] frame)
  generalize (opening start).setParty .responder ((opening start .responder).post [7] frame) = one
    at sent reachable responder initiator
  have books : (one .responder).conversation.ledger =
      { Ledger.fresh .responder 192 with sent := 96 } := by
    rw [responder]
    exact Conversation.ledger_spend_smallPad (begun .responder) rfl
  have stillAffords : one.Affords [8] := by
    rw [Affords, books, initiator]
    change (start .initiator).ledger.sent.toNat + 96 + cost [8] ≤
      (start .initiator).ledger.total.toNat
    rw [ledger]
    decide
  have granted : (one .responder).conversation.ledger.Grants (cost [8]) := by
    rw [books]
    exact ⟨rfl, by decide, by decide⟩
  have sound := ((reachable.invariant fits begun).writes .responder).sound
  rcases exists_send (sound.sends (by decide) granted) with ⟨other, -, sentAgain⟩
  refine ⟨start, one, _, ⟨[7], frame.toBytes⟩, ⟨[8], other.toBytes⟩, begun, sent, sentAgain,
    .sent reachable stillAffords sentAgain, ?_, rfl, rfl, ?_⟩
  · rw [setParty_apply_self, Correspondent.letters_post, responder]
    rfl
  · have stays := (setParty_apply_peer one .responder ((one .responder).post [8] other)).trans
      initiator
    exact ⟨congrArg Correspondent.arrived stays, congrArg Correspondent.delivered stays⟩

/-- Of two letters of the responder, the later one comes first and is delivered.
The other one and its own repetition are skipped then. -/
theorem lawful_of_reachable_out_of_order :
    ∃ start one two first second late early again,
      (∀ role, Conversation.begin Conversation.smallPad role {} = pure (start role)) ∧
        (opening start).send .responder [7] = .ok one ∧ one.send .responder [8] = .ok two ∧
        (two .responder).letters = [first, second] ∧
        first.message = [7] ∧ second.message = [8] ∧
        two.arrive .initiator 1 second = .ok late ∧ (late .initiator).delivered = [1] ∧
        late.arrive .initiator 0 first = .ok early ∧
        early.arrive .initiator 1 second = .ok again ∧
        (again .initiator).arrived = [1, 0, 1] ∧ (again .initiator).delivered = [1] ∧
        again.Lawful := by
  have fits := Conversation.length_smallPad_lt
  obtain ⟨start, one, two, first, second, begun, sent, sentAgain, reachable, letters, firstMessage,
    secondMessage, arrived, delivered⟩ := exists_two_letters
  have firstPresent : (two .responder).letters[0]? = some first := by
    rw [letters]
    rfl
  have secondPresent : (two .responder).letters[1]? = some second := by
    rw [letters]
    rfl
  have latest : covered (two .initiator).delivered ≤ 1 := by
    rw [delivered]
    exact Nat.zero_le 1
  obtain ⟨late, lateArrived, lateResponder, lateNoted, lateDelivered⟩ :=
    (reachable.invariant fits begun).exists_arrive_of_latest secondPresent latest
  have lateReachable := Reachable.arrived reachable secondPresent lateArrived
  change late .responder = two .responder at lateResponder
  rw [arrived] at lateNoted
  rw [delivered] at lateDelivered
  rw [← lateResponder] at firstPresent secondPresent
  have passed : 0 < covered (late .initiator).delivered := by
    rw [lateDelivered]
    decide
  obtain ⟨early, earlyArrived, earlyResponder, earlyNoted, earlyDelivered⟩ :=
    (lateReachable.invariant fits begun).exists_arrive_of_passed firstPresent passed
  have earlyReachable := Reachable.arrived lateReachable firstPresent earlyArrived
  change early .responder = late .responder at earlyResponder
  rw [lateNoted] at earlyNoted
  rw [lateDelivered] at earlyDelivered
  rw [← earlyResponder] at secondPresent
  have passedAgain : 1 < covered (early .initiator).delivered := by
    rw [earlyDelivered]
    decide
  obtain ⟨again, againArrived, -, againNoted, againDelivered⟩ :=
    (earlyReachable.invariant fits begun).exists_arrive_of_passed secondPresent passedAgain
  have againReachable := Reachable.arrived earlyReachable secondPresent againArrived
  rw [earlyNoted] at againNoted
  rw [earlyDelivered] at againDelivered
  exact ⟨start, one, two, first, second, late, early, again, begun, sent, sentAgain, letters,
    firstMessage, secondMessage, lateArrived, lateDelivered, earlyArrived, againArrived,
    againNoted, againDelivered, lawful_of_reachable fits begun againReachable⟩

end Exchange

end OneTimePad
