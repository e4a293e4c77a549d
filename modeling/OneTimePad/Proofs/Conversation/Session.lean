import OneTimePad.Proofs.Conversation.Run

/-!
# Sessions

A session is all that a caller can do, one thing after the other: begin a
conversation or restore one, with any pad, settings and stored counters, and use
the conversation that it holds, on any messages and on any octets that arrive.

No session ends in a fault.  What is begun or restored is sound, every use keeps
it sound, and sound conversations answer: every sum and difference of words has
its place, every slice exists, and octets are copied only to places of their
size.  The only thing that has to be known of the arguments is that pads and
messages are byte strings.
-/

namespace OneTimePad

/-- The length of the longest byte string. -/
def byteStringLimit : Nat := 0x7fffffffffffffff

/-- What a caller can do. -/
inductive Action where
  /-- Begin a conversation. -/
  | begin (pad : List UInt8) (role : Role) (settings : Settings)
  /-- Restore a conversation from any counters. -/
  | restore (pad : List UInt8) (snapshot : Snapshot) (settings : Settings)
  /-- Use the conversation at hand. -/
  | play (move : Move)

/-- The pad or the message is a byte string.  Octets that arrive may be as many
as they like. -/
def Action.Sized : Action → Prop
  | begin pad _ _ => pad.length ≤ byteStringLimit
  | restore pad _ _ => pad.length ≤ byteStringLimit
  | play (.send message) => message.length ≤ byteStringLimit
  | play _ => True

/-- What a caller holds: a conversation, once one was begun or restored. -/
abbrev Session := Option Conversation

namespace Session

/-- Take what an opening gives, unless it was refused. -/
def hold (session : Session) (opening : Attempt LedgerError Conversation) : Checked Session := do
  match ← opening.run with
  | .ok conversation => return some conversation
  | .error _ => return session

/-- Do one thing.  With no conversation at hand there is none to use. -/
def act (session : Session) : Action → Checked Session
  | .begin pad role settings => session.hold (Conversation.begin pad role settings)
  | .restore pad snapshot settings => session.hold (Conversation.restore pad snapshot settings)
  | .play move =>
      match session with
      | none => return none
      | some conversation => do
          let (_, after) ← conversation.play move
          return some after

/-- Do several things, one after the other. -/
def run (session : Session) : List Action → Checked Session
  | [] => return session
  | action :: actions => do (← session.act action).run actions

/-- The conversation at hand came about by its own operations. -/
def Proper (session : Session) : Prop :=
  ∀ conversation, session = some conversation → conversation.Reachable

variable {session : Session}

theorem proper_none : Proper none :=
  nofun

theorem proper_some {conversation : Conversation} (reachable : conversation.Reachable) :
    Proper (some conversation) := by
  rintro held ⟨rfl⟩
  exact reachable

/-- An opening that gives a proper conversation, or is refused, leaves a proper
one at hand. -/
theorem Proper.exists_hold (proper : session.Proper)
    {opening : Attempt LedgerError Conversation}
    (answered : (∃ error, opening = throw error) ∨
      ∃ conversation, opening = pure conversation ∧ conversation.Reachable) :
    ∃ after, session.hold opening = .ok after ∧ after.Proper := by
  rcases answered with ⟨error, rfl⟩ | ⟨conversation, rfl, reachable⟩
  · exact ⟨session, rfl, proper⟩
  · exact ⟨some conversation, rfl, proper_some reachable⟩

theorem lt_wordLimit_of_le {length : Nat} (sized : length ≤ byteStringLimit) :
    length < wordLimit :=
  Nat.lt_of_le_of_lt sized (by decide)

theorem overhead_add_lt_of_le {length : Nat} (sized : length ≤ byteStringLimit) :
    Padding.overhead + length < wordLimit :=
  Nat.lt_of_le_of_lt (Nat.add_le_add_left sized _) (by decide)

/-- Every action is answered, and leaves a proper conversation at hand. -/
theorem Proper.exists_act (proper : session.Proper) {action : Action} (sized : action.Sized) :
    ∃ after, session.act action = .ok after ∧ after.Proper := by
  cases action with
  | begin pad role settings =>
      apply proper.exists_hold
      rcases Conversation.begin_cases pad role settings with
        refused | ⟨-, -, tokens, -, begun⟩
      · exact .inl refused
      · exact .inr ⟨_, begun, .begun (lt_wordLimit_of_le sized) begun⟩
  | restore pad snapshot settings =>
      apply proper.exists_hold
      rcases Conversation.restore_cases pad snapshot settings with
        refused | ⟨-, -, opened, -, -, restored⟩
      · exact .inl refused
      · exact .inr ⟨_, restored, .restored (lt_wordLimit_of_le sized) restored⟩
  | play move =>
      cases session with
      | none => exact ⟨none, rfl, proper_none⟩
      | some conversation =>
          have reachable := proper conversation rfl
          have moveSized : move.Sized := by
            cases move with
            | send message => exact overhead_add_lt_of_le sized
            | _ => trivial
          rcases reachable.sound.exists_effect moveSized with ⟨outcome, after, played, -⟩
          refine ⟨some after, ?_, proper_some (reachable.played played)⟩
          simp only [act, played, Checked.ok_bind, Checked.pure_eq_ok]

theorem Proper.exists_run (proper : session.Proper) {actions : List Action}
    (sized : ∀ action ∈ actions, action.Sized) :
    ∃ final, session.run actions = .ok final ∧ final.Proper := by
  induction actions generalizing session with
  | nil => exact ⟨session, rfl, proper⟩
  | cons action actions inductionHypothesis =>
      rcases List.forall_mem_cons.mp sized with ⟨first, rest⟩
      rcases proper.exists_act first with ⟨after, acted, afterProper⟩
      rcases inductionHypothesis afterProper rest with ⟨final, ran, finalProper⟩
      exact ⟨final, by rw [run, acted, Checked.ok_bind, ran], finalProper⟩

/-- No session ends in a fault, whatever the caller does.  Nor does a look at
what is left to the conversation at hand or at its stage, and its counters fit
the region.  The length of a frame on the wire is a size, whatever frame it
is. -/
theorem exists_run_of_sized (actions : List Action) (sized : ∀ action ∈ actions, action.Sized) :
    ∃ final, run none actions = .ok final ∧
      (∀ conversation, final = some conversation →
        (∃ rest, conversation.ledger.remaining = .ok rest) ∧
          (∃ stage, conversation.ledger.stage = .ok stage) ∧
          conversation.ledger.sent.toNat + conversation.ledger.seen.toNat ≤
            conversation.ledger.total.toNat) ∧
      ∀ frame : Frame, Size.add Frame.overhead frame.ciphertext.length = .ok frame.wireLength := by
  rcases proper_none.exists_run sized with ⟨final, ran, proper⟩
  refine ⟨final, ran, ?_, ?_⟩
  · intro conversation held
    have balanced := (proper conversation held).sound.balanced
    exact ⟨⟨_, Ledger.remaining_eq_ok balanced⟩, ⟨_, Ledger.stage_eq_ok balanced⟩, balanced⟩
  · intro frame
    have fits := frame.fits
    apply Size.add_eq_ok_iff.mpr
    constructor
    · rfl
    · simp only [Frame.wireLength, Frame.overhead, Header.size, Authenticator.tagSize,
        Bytes.capacity, wordLimit] at fits ⊢
      omega

/-- A session that begins with a small pad, is sent octets that are no frame,
restores the conversation from impossible counters, and goes on. -/
theorem exists_run_of_sized_smallPad :
    ∃ final, run none
        [.play (.send []), .begin Conversation.smallPad .responder {}, .play (.send [1, 2]),
          .play (.receive [0xff]),
          .restore Conversation.smallPad ⟨.initiator, Word.top, Word.top, 1, false⟩ {},
          .play .burn, .play .mnemonic] = .ok final := by
  have pad : Conversation.smallPad.length ≤ byteStringLimit := by
    rw [Conversation.smallPad, List.length_replicate]
    decide
  have sized : ∀ action ∈ ([.play (.send []), .begin Conversation.smallPad .responder {},
      .play (.send [1, 2]), .play (.receive [0xff]),
      .restore Conversation.smallPad ⟨.initiator, Word.top, Word.top, 1, false⟩ {},
      .play .burn, .play .mnemonic] : List Action), action.Sized := by
    simpa [Action.Sized, byteStringLimit] using pad
  rcases exists_run_of_sized _ sized with ⟨final, ran, -, -⟩
  exact ⟨final, ran⟩

end Session

end OneTimePad
