import OneTimePad.Proofs.Conversation.Run
import OneTimePad.Proofs.Ledger.Stored

/-!
# Stored conversations

A conversation that lives can be put away at any time: its counters are stored,
and later it is taken up again with its pad and its settings.  What comes back
is the same conversation, because nothing but the books ever differs from what
begins with that pad, and the books come back from what is stored.

So a run may be interrupted wherever one likes.  Its outcomes are those of the
run without interruptions, and so is the conversation after it.
-/

namespace OneTimePad.Conversation

/-- Store the counters, with these octets after them, and take the conversation
up again from what was stored. -/
def revive (conversation : Conversation) (trailing : List UInt8) :
    Attempt LedgerError Conversation := do
  restore conversation.pad
    (← Snapshot.ofCbor (conversation.snapshot.toCbor ++ trailing)) conversation.settings

/-- A move of a run that may be interrupted, or an interruption. -/
inductive Turn where
  | play (move : Move)
  /-- Store the counters, with these octets after them, and go on with what
  comes back. -/
  | interrupt (trailing : List UInt8)

/-- The move, if it is one. -/
def Turn.move? : Turn → Option Move
  | play move => some move
  | interrupt _ => none

/-- Take several turns.  A conversation that was burned has no pad to go on
with, so it is not interrupted; otherwise a conversation that does not come back
ends the run with the reason. -/
def runInterrupted (conversation : Conversation) :
    List Turn → Attempt LedgerError (List Outcome × Conversation)
  | [] => return ([], conversation)
  | .play move :: turns => do
      let (outcome, middle) ← conversation.play move
      let (outcomes, final) ← middle.runInterrupted turns
      return (outcome :: outcomes, final)
  | .interrupt trailing :: turns => do
      if conversation.ledger.burned then conversation.runInterrupted turns
      else (← conversation.revive trailing).runInterrupted turns

variable {conversation : Conversation}

/-- But for the books, a live conversation is what begins with its pad; and the
threshold is that of the settings. -/
structure Grounded (conversation : Conversation) : Prop where
  begun : conversation.ledger.burned = false →
    begin conversation.pad conversation.ledger.role conversation.settings =
      pure
        { conversation with
          ledger := Ledger.fresh conversation.ledger.role conversation.ledger.total
            conversation.settings }
  threshold : conversation.ledger.threshold = conversation.settings.threshold

theorem grounded_of_begin {pad : List UInt8} {role : Role} {settings : Settings}
    (begun : begin pad role settings = pure conversation) : conversation.Grounded := by
  obtain ⟨-, -, tokens, -, rfl⟩ := exists_tokens_of_begin begun
  exact ⟨fun _ => begun, rfl⟩

theorem grounded_of_restore {pad : List UInt8} {snapshot : Snapshot} {settings : Settings}
    (restored : restore pad snapshot settings = pure conversation) : conversation.Grounded := by
  obtain ⟨-, -, opened, begun, total, rfl⟩ := restore_eq_pure restored
  rcases begin_eq_pure begun with ⟨pad_eq, settings_eq, -, ledger⟩
  constructor
  · intro _
    have again := (grounded_of_begin begun).begun (by rw [ledger]; rfl)
    change begin opened.pad snapshot.role opened.settings = pure { opened with
      ledger := Ledger.fresh snapshot.role snapshot.total opened.settings }
    rw [ledger] at again
    rw [total, ledger]
    exact again
  · change settings.threshold = opened.settings.threshold
    rw [settings_eq]

/-- No move changes anything but the books, until the pad is burned. -/
theorem Effect.grounded {outcome : Outcome} {after : Conversation}
    (effect : conversation.Effect outcome after) (grounded : conversation.Grounded) :
    after.Grounded := by
  cases effect with
  | sends => exact ⟨grounded.begun, grounded.threshold⟩
  | delivers => exact ⟨grounded.begun, grounded.threshold⟩
  | reloads reloaded => exact grounded_of_restore reloaded
  | burns => exact ⟨nofun, grounded.threshold⟩
  | rests => exact grounded

theorem Reachable.grounded (reachable : conversation.Reachable) : conversation.Grounded := by
  induction reachable with
  | begun _ begun => exact grounded_of_begin begun
  | restored _ restored => exact grounded_of_restore restored
  | played reachable played inductionHypothesis =>
      exact (reachable.sound.effect_of_play played).grounded inductionHypothesis

theorem Grounded.reload_eq_self (grounded : conversation.Grounded)
    (balanced : conversation.ledger.Balanced) (live : conversation.ledger.burned = false) :
    conversation.reload = pure conversation := by
  have stored : conversation.snapshot.burned = false := live
  have begun : begin conversation.pad conversation.snapshot.role conversation.settings = _ :=
    grounded.begun live
  have ledger : Ledger.restore conversation.snapshot conversation.settings = _ :=
    balanced.restore_snapshot grounded.threshold
  have total : conversation.snapshot.total = conversation.ledger.total := rfl
  simp [reload, restore, stored, begun, total, Ledger.fresh, ledger]

/-- A live conversation comes back from what was stored of it. -/
theorem Reachable.revive_eq_pure (reachable : conversation.Reachable)
    (live : conversation.ledger.burned = false) (trailing : List UInt8) :
    conversation.revive trailing = pure conversation := by
  rw [revive, Snapshot.ofCbor_toCbor]
  exact reachable.grounded.reload_eq_self reachable.sound.balanced live

/-- Interruptions change neither the outcomes nor what comes out in the end. -/
theorem Reachable.runInterrupted_eq (reachable : conversation.Reachable) (turns : List Turn) :
    conversation.runInterrupted turns = liftM (conversation.run (turns.filterMap Turn.move?)) := by
  induction turns generalizing conversation with
  | nil => rfl
  | cons turn turns inductionHypothesis =>
      cases turn with
      | play move =>
          change conversation.runInterrupted (.play move :: turns) =
            liftM (conversation.run (move :: turns.filterMap Turn.move?))
          rw [runInterrupted, run]
          cases played : conversation.play move with
          | error fault => rfl
          | ok answer =>
              rcases answer with ⟨outcome, middle⟩
              have rest := inductionHypothesis (reachable.played played)
              simp only [Attempt.lift_ok, pure_bind, rest, Checked.ok_bind]
              cases middle.run (turns.filterMap Turn.move?) <;> rfl
      | interrupt trailing =>
          change conversation.runInterrupted (.interrupt trailing :: turns) =
            liftM (conversation.run (turns.filterMap Turn.move?))
          rw [runInterrupted]
          cases gone : conversation.ledger.burned with
          | true => exact inductionHypothesis reachable
          | false =>
              rw [reachable.revive_eq_pure gone]
              exact inductionHypothesis reachable

/-- Whatever happened to a ledger, it comes back from its stored counters and
its settings.  So does every live conversation, with its pad, whatever octets
follow what is stored; and a run that is interrupted in this way, as often as
one likes, has the outcomes of the uninterrupted run and ends in the same
conversation. -/
theorem storing_is_transparent :
    (∀ (settings : Settings) (ledger : Ledger), Ledger.Reachable settings ledger →
      ∀ trailing, ledger.reload settings trailing = .ok ledger) ∧
      ∀ conversation : Conversation, conversation.Reachable →
        (conversation.ledger.burned = false →
          ∀ trailing, conversation.revive trailing = pure conversation) ∧
        ∀ turns : List Turn, conversation.runInterrupted turns =
          liftM (conversation.run (turns.filterMap Turn.move?)) := by
  constructor
  · intro settings ledger reachable
    exact reachable.reload_eq_ok
  · intro conversation reachable
    constructor
    · exact reachable.revive_eq_pure
    · exact reachable.runInterrupted_eq

/-- The books of a responder over the largest region, and a conversation that is
interrupted around each of its moves. -/
theorem storing_is_transparent_smallPad :
    (Ledger.fresh .responder Word.top).reload {} [0xff] = .ok (Ledger.fresh .responder Word.top) ∧
      ∃ start, begin smallPad .initiator {} = pure start ∧ start.revive [] = pure start ∧
        start.runInterrupted
            [.interrupt [], .play (.send [7]), .interrupt [0, 1], .play .mnemonic, .interrupt [],
              .play .burn, .interrupt []] =
          liftM (start.run [.send [7], .mnemonic, .burn]) := by
  rcases storing_is_transparent with ⟨ledgers, conversations⟩
  rcases exists_begin_smallPad .initiator with ⟨start, begun⟩
  have live : start.ledger.burned = false := by
    rw [(begin_eq_pure begun).2.2.2]
    rfl
  rcases conversations start (.begun length_smallPad_lt begun) with ⟨revives, transparent⟩
  exact ⟨ledgers {} _ (.fresh .responder Word.top) [0xff], start, begun, revives live [],
    transparent _⟩

end OneTimePad.Conversation
