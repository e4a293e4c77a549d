import OneTimePad.Proofs.Conversation.Steps

/-!
# Runs of a conversation

A run is a list of moves, each of which uses one operation of a conversation
and leaves an outcome.  Reloading stands for storing the counters and taking
the conversation up again from them; if that is refused, the conversation goes
on as it was.

A conversation that was begun or restored is sound, every move keeps it sound,
and no move on messages that fit into memory ends in a fault.
-/

namespace OneTimePad

open Padding (padded)

/-- A use of one operation of a conversation. -/
inductive Move where
  | send (message : List UInt8)
  | receive (bytes : List UInt8)
  | receiveEnvelope (envelope : Envelope)
  | mnemonic
  | verifyMnemonic (spoken : List String)
  /-- Store the counters and take the conversation up again. -/
  | reload
  | burn

/-- What a move comes to. -/
inductive Outcome where
  | sent (answer : Except LedgerError (List UInt8))
  | received (answer : Except LedgerError Receipt)
  | told (answer : Except LedgerError (List String))
  | compared (fits : Bool)
  | reloaded (answer : Except LedgerError Unit)
  | burned

/-- Nothing was sent, delivered or changed. -/
def Outcome.Idle : Outcome → Prop
  | sent (.ok _) => False
  | received (.ok (.delivered _)) => False
  | reloaded (.ok ()) => False
  | burned => False
  | _ => True

/-- The message of a move is short enough to be a byte string. -/
def Move.Sized : Move → Prop
  | send message => Padding.overhead + message.length < wordLimit
  | _ => True

namespace Conversation

/-- Take up a conversation from its own counters. -/
def reload (conversation : Conversation) : Attempt LedgerError Conversation :=
  restore conversation.pad conversation.snapshot conversation.settings

/-- Make a move. -/
def play (conversation : Conversation) : Move → Checked (Outcome × Conversation)
  | .send message => do
      let reply ← conversation.send message
      return (.sent reply.answer, reply.after)
  | .receive bytes => do
      let reply ← conversation.receive bytes
      return (.received reply.answer, reply.after)
  | .receiveEnvelope envelope => do
      let reply ← conversation.receiveEnvelope envelope
      return (.received reply.answer, reply.after)
  | .mnemonic => return (.told conversation.mnemonic, conversation)
  | .verifyMnemonic spoken => return (.compared (conversation.verifyMnemonic spoken), conversation)
  | .reload => do
      match ← conversation.reload.run with
      | .error error => return (.reloaded (.error error), conversation)
      | .ok restored => return (.reloaded (.ok ()), restored)
  | .burn => return (.burned, conversation.burn)

/-- Make several moves, one after the other. -/
def run (conversation : Conversation) : List Move → Checked (List Outcome × Conversation)
  | [] => return ([], conversation)
  | move :: moves => do
      let (outcome, middle) ← conversation.play move
      let (outcomes, final) ← middle.run moves
      return (outcome :: outcomes, final)

/-- A conversation that was begun or restored with a pad that fits into memory,
and then made any moves. -/
inductive Reachable : Conversation → Prop where
  | begun {pad : List UInt8} {role : Role} {settings : Settings} {conversation : Conversation}
      (fits : pad.length < wordLimit) (begun : begin pad role settings = pure conversation) :
      Reachable conversation
  | restored {pad : List UInt8} {snapshot : Snapshot} {settings : Settings}
      {conversation : Conversation} (fits : pad.length < wordLimit)
      (restored : restore pad snapshot settings = pure conversation) : Reachable conversation
  | played {conversation after : Conversation} {move : Move} {outcome : Outcome}
      (reachable : Reachable conversation)
      (played : conversation.play move = .ok (outcome, after)) : Reachable after

/-! ## Beginning and restoring -/

section Opening

variable {pad : List UInt8} {role : Role} {settings : Settings} {snapshot : Snapshot}
  {conversation : Conversation}

/-- Beginning never faults, and says what a conversation begins with. -/
theorem begin_cases (pad : List UInt8) (role : Role) (settings : Settings) :
    (∃ error, begin pad role settings = throw error) ∨
      settings.validate = .ok () ∧ settings.reserved ≤ pad.length ∧
        ∃ tokens, LedgerError.ofPrimitive (Identity.deriveAll pad) = .ok tokens ∧
          begin pad role settings =
            pure
              { pad, tokens, settings
                ledger := Ledger.fresh role (UInt64.ofNat (pad.length - settings.reserved))
                  settings } := by
  cases valid : settings.validate with
  | error error => exact .inl ⟨error, by simp [begin, valid]⟩
  | ok =>
      by_cases short : pad.length < settings.reserved
      · exact .inl ⟨.insufficientPad settings.reserved pad.length, by simp [begin, valid, short]⟩
      · cases derived : LedgerError.ofPrimitive (Identity.deriveAll pad) with
        | error error => exact .inl ⟨error, by simp [begin, valid, short, derived]⟩
        | ok tokens =>
            have total : Size.sub pad.length settings.reserved =
                .ok (pad.length - settings.reserved) :=
              Size.sub_eq_ok_iff.mpr (by omega)
            exact .inr ⟨rfl, by omega, tokens, rfl, by simp [begin, valid, short, derived, total]⟩

/-- Restoring never faults either.  Stored counters are taken up only if they
are those of a live conversation over a region of this size, and balanced. -/
theorem restore_cases (pad : List UInt8) (snapshot : Snapshot) (settings : Settings) :
    (∃ error, restore pad snapshot settings = throw error) ∨
      snapshot.burned = false ∧
        snapshot.sent.toNat + snapshot.seen.toNat ≤ snapshot.total.toNat ∧
        ∃ opened, begin pad snapshot.role settings = pure opened ∧
          snapshot.total = opened.ledger.total ∧
          restore pad snapshot settings =
            pure { opened with ledger := Ledger.ofSnapshot snapshot settings } := by
  cases burned : snapshot.burned with
  | true => exact .inl ⟨.burned, by simp [restore, burned]⟩
  | false =>
      rcases begin_cases pad snapshot.role settings with
        ⟨error, refused⟩ | ⟨-, -, tokens, -, opened⟩
      · exact .inl ⟨error, by simp [restore, burned, refused]⟩
      · by_cases same : snapshot.total = UInt64.ofNat (pad.length - settings.reserved)
        · by_cases balanced : snapshot.sent.toNat + snapshot.seen.toNat ≤ snapshot.total.toNat
          · have ledger := Ledger.restore_eq snapshot settings
            rw [if_pos balanced] at ledger
            exact .inr ⟨rfl, balanced, _, opened, same, by
              simp [restore, burned, opened, Ledger.fresh, ← same, ledger]⟩
          · have ledger := Ledger.restore_eq snapshot settings
            rw [if_neg balanced] at ledger
            exact .inl ⟨.invalidFormat "snapshot counters exceed pad", by
              simp [restore, burned, opened, Ledger.fresh, ← same, ledger]⟩
        · exact .inl ⟨.invalidFormat "snapshot does not match pad", by
            simp [restore, burned, opened, Ledger.fresh, same]⟩

theorem exists_deriveAll (long : Identity.seedLength ≤ pad.length) :
    ∃ tokens, Identity.deriveAll pad = .ok tokens := by
  have enough : ¬ pad.length < Identity.seedLength := by omega
  unfold Identity.deriveAll Identity.derive
  rw [if_neg enough, if_neg enough, if_neg enough]
  exact ⟨_, rfl⟩

/-- With valid settings, a conversation begins with every pad that has what is
set aside. -/
theorem exists_begin (valid : settings.validate = .ok ()) (inside : settings.reserved ≤ pad.length)
    (role : Role) : ∃ conversation, begin pad role settings = pure conversation := by
  have seed := (Settings.validate_eq_ok_iff.mp valid).1
  rcases exists_deriveAll (seed.trans inside) with ⟨tokens, derived⟩
  have notShort : ¬ pad.length < settings.reserved := by omega
  have total : Size.sub pad.length settings.reserved = .ok (pad.length - settings.reserved) :=
    Size.sub_eq_ok_iff.mpr (by omega)
  exact ⟨_, by simp [begin, valid, notShort, derived, LedgerError.ofPrimitive, total]; rfl⟩

/-- A small pad, of zeros only, for concrete conversations. -/
def smallPad : List UInt8 :=
  List.replicate 352 0

theorem length_smallPad_lt : smallPad.length < wordLimit := by
  rw [smallPad, List.length_replicate]
  decide

theorem reserved_le_length_smallPad : ({} : Settings).reserved ≤ smallPad.length := by
  rw [smallPad, List.length_replicate]
  decide

/-- With the usual settings, either role begins with the small pad. -/
theorem exists_begin_smallPad (role : Role) :
    ∃ conversation, begin smallPad role {} = pure conversation :=
  exists_begin rfl reserved_le_length_smallPad role

/-- What a conversation has begun with. -/
theorem exists_tokens_of_begin (begun : begin pad role settings = pure conversation) :
    settings.validate = .ok () ∧ settings.reserved ≤ pad.length ∧
      ∃ tokens, LedgerError.ofPrimitive (Identity.deriveAll pad) = .ok tokens ∧
        conversation =
          { pad, tokens, settings
            ledger := Ledger.fresh role (UInt64.ofNat (pad.length - settings.reserved))
              settings } := by
  rcases begin_cases pad role settings with
    ⟨error, refused⟩ | ⟨valid, inside, tokens, derived, opened⟩
  · exact absurd (refused.symm.trans begun) Attempt.throw_ne_pure
  · exact ⟨valid, inside, tokens, derived, Attempt.pure_inj.mp (begun.symm.trans opened)⟩

theorem begin_eq_pure (begun : begin pad role settings = pure conversation) :
    conversation.pad = pad ∧ conversation.settings = settings ∧
      settings.reserved ≤ pad.length ∧
      conversation.ledger =
        Ledger.fresh role (UInt64.ofNat (pad.length - settings.reserved)) settings := by
  obtain ⟨-, inside, tokens, -, rfl⟩ := exists_tokens_of_begin begun
  exact ⟨rfl, rfl, inside, rfl⟩

/-- Over the small pad, the books are about 192 octets. -/
theorem ledger_of_begin_smallPad (begun : begin smallPad role {} = pure conversation) :
    conversation.ledger = Ledger.fresh role 192 := by
  rw [(begin_eq_pure begun).2.2.2, smallPad, List.length_replicate]
  rfl

/-- Where a conversation can begin, it can be restored from all balanced
counters. -/
theorem exists_restore (valid : settings.validate = .ok ())
    (inside : settings.reserved ≤ pad.length) (live : snapshot.burned = false)
    (total : snapshot.total = UInt64.ofNat (pad.length - settings.reserved))
    (balanced : snapshot.sent.toNat + snapshot.seen.toNat ≤ snapshot.total.toNat) :
    ∃ conversation, restore pad snapshot settings = pure conversation ∧
      conversation.ledger = Ledger.ofSnapshot snapshot settings := by
  rcases exists_begin valid inside snapshot.role with ⟨opened, begun⟩
  rcases begin_eq_pure begun with ⟨-, -, -, fresh⟩
  have same : snapshot.total = opened.ledger.total := by
    rw [total, fresh]
    rfl
  have ledger := Ledger.restore_eq snapshot settings
  rw [if_pos balanced] at ledger
  exact ⟨_, by simp [restore, live, begun, ← same, ledger]; rfl, rfl⟩

/-- Tokens depend on the octets that are set aside only. -/
theorem deriveAll_congr {left right : List UInt8} (length_eq : right.length = left.length)
    (same : right.take Identity.seedLength = left.take Identity.seedLength) :
    Identity.deriveAll right = Identity.deriveAll left := by
  simp only [Identity.deriveAll, Identity.derive, length_eq, same]

/-- What begins with a pad begins with any other one that has the same octets
set aside. -/
theorem begin_withPad {left right : List UInt8} (length_eq : right.length = left.length)
    (same : right.take settings.reserved = left.take settings.reserved)
    (begun : begin left role settings = pure conversation) :
    begin right role settings = pure (conversation.withPad right) := by
  obtain ⟨valid, inside, tokens, derived, rfl⟩ := exists_tokens_of_begin begun
  have seed := (Settings.validate_eq_ok_iff.mp valid).1
  have sameSeed := congrArg (List.take Identity.seedLength) same
  rw [List.take_take, List.take_take, Nat.min_eq_left seed] at sameSeed
  have notShort : ¬ right.length < settings.reserved := by omega
  have total : Size.sub right.length settings.reserved = .ok (left.length - settings.reserved) :=
    Size.sub_eq_ok_iff.mpr (by omega)
  simp [begin, valid, notShort, deriveAll_congr length_eq sameSeed, derived, total, withPad]

theorem restore_eq_pure (restored : restore pad snapshot settings = pure conversation) :
    snapshot.burned = false ∧ snapshot.sent.toNat + snapshot.seen.toNat ≤ snapshot.total.toNat ∧
      ∃ opened, begin pad snapshot.role settings = pure opened ∧
        snapshot.total = opened.ledger.total ∧
        conversation = { opened with ledger := Ledger.ofSnapshot snapshot settings } := by
  rcases restore_cases pad snapshot settings with
    ⟨error, refused⟩ | ⟨live, balanced, opened, begun, total, taken⟩
  · exact absurd (refused.symm.trans restored) Attempt.throw_ne_pure
  · exact ⟨live, balanced, opened, begun, total, Attempt.pure_inj.mp (restored.symm.trans taken)⟩

theorem restore_withPad {left right : List UInt8} (length_eq : right.length = left.length)
    (same : right.take settings.reserved = left.take settings.reserved)
    (restored : restore left snapshot settings = pure conversation) :
    restore right snapshot settings = pure (conversation.withPad right) := by
  obtain ⟨live, balanced, opened, begun, total, rfl⟩ := restore_eq_pure restored
  have ledger := Ledger.restore_eq snapshot settings
  rw [if_pos balanced] at ledger
  simp [restore, live, begin_withPad length_eq same begun, total, ledger, withPad]

theorem toNat_regionLength (fits : pad.length < wordLimit) :
    (UInt64.ofNat (pad.length - settings.reserved)).toNat = pad.length - settings.reserved :=
  Word.toNat_ofNat (by omega)

theorem sound_of_begin (fits : pad.length < wordLimit)
    (begun : begin pad role settings = pure conversation) : conversation.Sound := by
  rcases begin_eq_pure begun with ⟨rfl, rfl, -, ledger⟩
  constructor
  · rw [ledger]
    exact Nat.zero_le _
  · intro _
    rw [ledger, region, List.length_drop]
    exact (toNat_regionLength fits).symm

theorem sound_of_restore (fits : pad.length < wordLimit)
    (restored : restore pad snapshot settings = pure conversation) : conversation.Sound := by
  obtain ⟨-, balanced, opened, begun, total, rfl⟩ := restore_eq_pure restored
  constructor
  · exact balanced
  · intro _
    have covered := (sound_of_begin fits begun).covered
    obtain ⟨-, -, -, ledger⟩ := begin_eq_pure begun
    change opened.region.length = snapshot.total.toNat
    rw [total]
    exact covered (by rw [ledger]; rfl)

/-- Over the small pad, either role begins with a message of 96 octets. -/
theorem sends_of_begin_smallPad {message : List UInt8}
    (begun : begin smallPad role {} = pure conversation) (length : (padded message).length = 32) :
    conversation.Sends message := by
  apply (sound_of_begin length_smallPad_lt begun).sends
  · rw [length]
    decide
  · rw [ledger_of_begin_smallPad begun, cost, length]
    cases role <;> exact ⟨rfl, by decide, by decide⟩

theorem ledger_spend_smallPad {message : List UInt8}
    (begun : begin smallPad role {} = pure conversation) (length : (padded message).length = 32) :
    (conversation.spend message).ledger = { Ledger.fresh role 192 with sent := 96 } := by
  rw [spend, cost, length, ledger_of_begin_smallPad begun]
  rfl

theorem region_of_begin_smallPad (begun : begin smallPad role {} = pure conversation) :
    conversation.region = smallPad.drop 160 := by
  rcases begin_eq_pure begun with ⟨pad_eq, settings_eq, -, -⟩
  rw [region, pad_eq, settings_eq]
  rfl

end Opening

/-! ## Moves -/

section Moves

variable {conversation : Conversation}

/-- Reloading gives the same pad, settings and counters. -/
theorem reload_eq_pure {restored : Conversation} (reloaded : conversation.reload = pure restored) :
    restored.pad = conversation.pad ∧ restored.settings = conversation.settings ∧
      restored.ledger = Ledger.ofSnapshot conversation.snapshot conversation.settings := by
  obtain ⟨-, -, opened, begun, -, rfl⟩ := restore_eq_pure reloaded
  obtain ⟨pad, settings, -, -⟩ := begin_eq_pure begun
  exact ⟨pad, settings, rfl⟩

/-- Reloading is answered. -/
theorem reload_cases (conversation : Conversation) :
    (∃ error, conversation.reload = throw error) ∨
      ∃ restored, conversation.reload = pure restored := by
  rcases restore_cases conversation.pad conversation.snapshot conversation.settings with
    ⟨error, refused⟩ | ⟨-, -, opened, -, -, taken⟩
  · exact .inl ⟨error, refused⟩
  · exact .inr ⟨_, taken⟩

/-- An envelope is refused, or it arrives like the octets of its frame. -/
theorem receiveEnvelope_cases (conversation : Conversation) (envelope : Envelope) :
    (∃ error, conversation.receiveEnvelope envelope = .ok (.refuse conversation error)) ∨
      ∃ bytes, conversation.receiveEnvelope envelope = conversation.receive bytes := by
  unfold receiveEnvelope
  by_cases other : envelope.conversation ≠ conversation.id
  · exact .inl ⟨_, if_pos other⟩
  · rw [if_neg other]
    cases envelope.frameBytes with
    | error error => exact .inl ⟨_, rfl⟩
    | ok bytes => exact .inr ⟨bytes, rfl⟩

theorem Sound.spend {message : List UInt8} (sound : conversation.Sound)
    (sends : conversation.Sends message) : (conversation.spend message).Sound :=
  ⟨sends.granted.balanced_advance sends.balanced, sound.covered⟩

theorem Sound.heed {frame : Frame} {plaintext : List UInt8} (sound : conversation.Sound)
    (delivers : conversation.Delivers frame plaintext) : (conversation.heed frame).Sound := by
  refine ⟨delivers.fresh.balanced_observe sound.balanced ?_, sound.covered⟩
  rw [frame.claim_eq_extent]
  exact delivers.apart

theorem Sound.burn (sound : conversation.Sound) : conversation.burn.Sound :=
  ⟨sound.balanced, fun live => by cases live⟩

/-- Everything that a move can do to a sound conversation. -/
inductive Effect (conversation : Conversation) : Outcome → Conversation → Prop where
  /-- A message was sealed, and its key material is spent. -/
  | sends {message : List UInt8} {frame : Frame} (sends : conversation.Sends message)
      (seals : frame.Seals conversation.region (conversation.nextOffset message) message) :
      Effect conversation (.sent (.ok frame.toBytes)) (conversation.spend message)
  /-- A frame was delivered, and the books have seen it. -/
  | delivers {frame : Frame} {plaintext : List UInt8}
      (delivers : conversation.Delivers frame plaintext) :
      Effect conversation (.received (.ok (.delivered (messageOf frame plaintext))))
        (conversation.heed frame)
  | reloads {restored : Conversation} (reloaded : conversation.reload = pure restored) :
      Effect conversation (.reloaded (.ok ())) restored
  | burns : Effect conversation .burned conversation.burn
  /-- Nothing changed. -/
  | rests {outcome : Outcome} (idle : outcome.Idle) : Effect conversation outcome conversation

theorem Sound.exists_receive_effect (sound : conversation.Sound) (bytes : List UInt8) :
    ∃ reply, conversation.receive bytes = .ok reply ∧
      conversation.Effect (.received reply.answer) reply.after := by
  rcases sound.receive_cases bytes with
    ⟨answer, received, undelivered⟩ | ⟨frame, plaintext, -, delivers, received⟩
  · refine ⟨_, received, .rests ?_⟩
    rcases answer with error | ⟨message | reason⟩
    · trivial
    · exact absurd rfl (undelivered message)
    · trivial
  · exact ⟨_, received, .delivers delivers⟩

theorem play_send {message : List UInt8} {reply : Reply Conversation (List UInt8)}
    (sent : conversation.send message = .ok reply) :
    conversation.play (.send message) = .ok (.sent reply.answer, reply.after) := by
  rw [play, sent, Checked.ok_bind, Checked.pure_eq_ok]

theorem play_receive {bytes : List UInt8} {reply : Reply Conversation Receipt}
    (received : conversation.receive bytes = .ok reply) :
    conversation.play (.receive bytes) = .ok (.received reply.answer, reply.after) := by
  rw [play, received, Checked.ok_bind, Checked.pure_eq_ok]

theorem play_receiveEnvelope {envelope : Envelope} {reply : Reply Conversation Receipt}
    (received : conversation.receiveEnvelope envelope = .ok reply) :
    conversation.play (.receiveEnvelope envelope) = .ok (.received reply.answer, reply.after) := by
  rw [play, received, Checked.ok_bind, Checked.pure_eq_ok]

theorem play_reload_of_throw {error : LedgerError}
    (refused : conversation.reload = throw error) :
    conversation.play .reload = .ok (.reloaded (.error error), conversation) := by
  simp [play, refused]

theorem play_reload_of_pure {restored : Conversation}
    (reloaded : conversation.reload = pure restored) :
    conversation.play .reload = .ok (.reloaded (.ok ()), restored) := by
  simp [play, reloaded]

/-- Every move on a message that fits into memory is answered. -/
theorem Sound.exists_effect (sound : conversation.Sound) {move : Move} (sized : move.Sized) :
    ∃ outcome after, conversation.play move = .ok (outcome, after) ∧
      conversation.Effect outcome after := by
  cases move with
  | send message =>
      rcases sound.send_cases sized with ⟨error, -, refused⟩ | sends
      · exact ⟨_, _, play_send refused, .rests trivial⟩
      · rcases send_eq_ok sends with ⟨frame, seals, sent⟩
        exact ⟨_, _, play_send sent, .sends sends seals⟩
  | receive bytes =>
      rcases sound.exists_receive_effect bytes with ⟨reply, received, effect⟩
      exact ⟨_, _, play_receive received, effect⟩
  | receiveEnvelope envelope =>
      rcases conversation.receiveEnvelope_cases envelope with ⟨error, refused⟩ | ⟨bytes, arrives⟩
      · exact ⟨_, _, play_receiveEnvelope refused, .rests trivial⟩
      · rcases sound.exists_receive_effect bytes with ⟨reply, received, effect⟩
        exact ⟨_, _, play_receiveEnvelope (arrives.trans received), effect⟩
  | mnemonic => exact ⟨_, _, rfl, .rests trivial⟩
  | verifyMnemonic spoken => exact ⟨_, _, rfl, .rests trivial⟩
  | reload =>
      rcases conversation.reload_cases with ⟨error, refused⟩ | ⟨restored, reloaded⟩
      · exact ⟨_, _, play_reload_of_throw refused, .rests trivial⟩
      · exact ⟨_, _, play_reload_of_pure reloaded, .reloads reloaded⟩
  | burn => exact ⟨_, _, rfl, .burns⟩

/-- A move that was answered was on a message that fits into memory. -/
theorem sized_of_play {move : Move} {outcome : Outcome} {after : Conversation}
    (played : conversation.play move = .ok (outcome, after)) : move.Sized := by
  cases move with
  | send message =>
      rcases Checked.bind_eq_ok_iff.mp played with ⟨reply, sent, -⟩
      rcases Checked.bind_eq_ok_iff.mp sent with ⟨cipherLength, padding, -⟩
      exact (Padding.paddedLength_eq_ok_iff.mp padding).1
  | _ => trivial

theorem Sound.effect_of_play (sound : conversation.Sound) {move : Move} {outcome : Outcome}
    {after : Conversation} (played : conversation.play move = .ok (outcome, after)) :
    conversation.Effect outcome after := by
  rcases sound.exists_effect (sized_of_play played) with ⟨otherOutcome, otherAfter, same, effect⟩
  rcases Prod.mk.inj (Except.ok.inj (same.symm.trans played)) with ⟨rfl, rfl⟩
  exact effect

section Effects

variable {outcome : Outcome} {after : Conversation} (effect : conversation.Effect outcome after)

include effect

theorem Effect.length_pad_le : after.pad.length ≤ conversation.pad.length := by
  cases effect with
  | reloads reloaded => rw [(reload_eq_pure reloaded).1]
  | burns => exact Nat.zero_le _
  | _ => exact Nat.le_refl _

theorem Effect.sound (sound : conversation.Sound) (fits : conversation.pad.length < wordLimit) :
    after.Sound := by
  cases effect with
  | sends sends => exact sound.spend sends
  | delivers delivers => exact sound.heed delivers
  | reloads reloaded => exact sound_of_restore fits reloaded
  | burns => exact sound.burn
  | rests => exact sound

/-- Nothing changes when a message or a frame is refused. -/
theorem Effect.eq_of_refused {error : LedgerError}
    (refused : outcome = .sent (.error error) ∨ outcome = .received (.error error)) :
    after = conversation := by
  cases effect with
  | rests => rfl
  | _ => simp at refused

end Effects

/-- Whatever happens to a conversation, it stays sound, and its pad never
grows. -/
theorem Reachable.sound_and_fits (reachable : conversation.Reachable) :
    conversation.Sound ∧ conversation.pad.length < wordLimit := by
  induction reachable with
  | begun fits begun =>
      rcases begin_eq_pure begun with ⟨pad, -, -, -⟩
      exact ⟨sound_of_begin fits begun, by rwa [pad]⟩
  | restored fits restored =>
      obtain ⟨-, -, opened, begun, -, rfl⟩ := restore_eq_pure restored
      obtain ⟨same, -, -, -⟩ := begin_eq_pure begun
      exact ⟨sound_of_restore fits restored, by rwa [same]⟩
  | played _ played inductionHypothesis =>
      rcases inductionHypothesis with ⟨sound, fits⟩
      have effect := sound.effect_of_play played
      exact ⟨effect.sound sound fits, effect.length_pad_le.trans_lt fits⟩

theorem Reachable.sound (reachable : conversation.Reachable) : conversation.Sound :=
  reachable.sound_and_fits.1

/-- A message that fits into memory is sent or refused. -/
theorem Reachable.exists_reply_of_send (reachable : conversation.Reachable)
    {message : List UInt8} (sized : (Move.send message).Sized) :
    ∃ reply, conversation.send message = .ok reply := by
  rcases reachable.sound.exists_effect sized with ⟨outcome, after, played, -⟩
  rcases Checked.bind_eq_ok_iff.mp played with ⟨reply, sent, -⟩
  exact ⟨reply, sent⟩

/-- Every envelope is received or refused. -/
theorem Reachable.exists_reply_of_receive (reachable : conversation.Reachable)
    (envelope : Envelope) : ∃ reply, conversation.receiveEnvelope envelope = .ok reply := by
  have sized : (Move.receiveEnvelope envelope).Sized := trivial
  rcases reachable.sound.exists_effect sized with ⟨outcome, after, played, -⟩
  rcases Checked.bind_eq_ok_iff.mp played with ⟨reply, received, -⟩
  exact ⟨reply, received⟩

/-- Every run on messages that fit into memory is answered. -/
theorem Reachable.exists_run {moves : List Move} (reachable : conversation.Reachable)
    (sized : ∀ move ∈ moves, move.Sized) :
    ∃ outcomes final, conversation.run moves = .ok (outcomes, final) := by
  induction moves generalizing conversation with
  | nil => exact ⟨[], conversation, rfl⟩
  | cons move moves inductionHypothesis =>
      rcases List.forall_mem_cons.mp sized with ⟨first, rest⟩
      rcases reachable.sound.exists_effect first with ⟨outcome, middle, played, -⟩
      rcases inductionHypothesis (reachable.played played) rest with ⟨outcomes, final, ran⟩
      exact ⟨outcome :: outcomes, final, by simp [run, played, ran]⟩

/-- A run of several moves is one move and the run of the others. -/
theorem run_cons_eq_ok {move : Move} {moves : List Move} {outcomes : List Outcome}
    {final : Conversation} (ran : conversation.run (move :: moves) = .ok (outcomes, final)) :
    ∃ outcome middle others, conversation.play move = .ok (outcome, middle) ∧
      middle.run moves = .ok (others, final) ∧ outcomes = outcome :: others := by
  rcases Checked.bind_eq_ok_iff.mp ran with ⟨⟨outcome, middle⟩, played, rest⟩
  rcases Checked.bind_eq_ok_iff.mp rest with ⟨⟨others, last⟩, restRan, same⟩
  rcases Prod.mk.inj (Except.ok.inj same) with ⟨rfl, rfl⟩
  exact ⟨outcome, middle, others, played, restRan, rfl⟩

end Moves

end Conversation

end OneTimePad
