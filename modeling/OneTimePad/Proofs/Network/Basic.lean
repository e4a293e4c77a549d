import Mathlib.Logic.Function.Basic
import OneTimePad.Proofs.Audit.Check
import OneTimePad.Proofs.Conversation.NoReuse
import OneTimePad.Simulation.Basic

/-!
# Two parties and a faulty relay

An initiator and a responder begin with one pad.  A party sends only what both
can still afford; that is the rule by which the simulation holds messages back.
The relay keeps every frame that was ever sent and lets it arrive at either
party, as often as it likes and in any order.  It also lets octets arrive that
no party has sent, as long as they are no authentic frame.

Every span that is reserved goes through the reuse audit.
-/

namespace OneTimePad

open Authenticator (keySize)

/-- Two parties, the audit of what they consume, and every frame that was ever
sent. -/
structure Network where
  party : Role → Simulation.Party
  audit : ReuseAudit
  /-- The frames, the latest one first. -/
  wire : List (List UInt8)

/-- Octets that a party with this region does not take for an authentic
frame. -/
def Harmless (region bytes : List UInt8) : Prop :=
  ∀ frame, Frame.ofBytes bytes = pure frame → frame.keySpan.Within region →
    ¬ frame.Authentic region

/-- An authentic frame under another tag is harmless. -/
theorem harmless_of_ne {region : List UInt8} {frame : Frame} {tag : Authenticator.Tag}
    (long : Padding.minimumLength ≤ frame.ciphertext.length) (authentic : frame.Authentic region)
    (differs : tag ≠ frame.tag) : Harmless region ({ frame with tag } : Frame).toBytes := by
  intro read parsed _
  have same : Frame.ofBytes ({ frame with tag } : Frame).toBytes = pure { frame with tag } :=
    Frame.ofBytes_toBytes long
  obtain rfl := Attempt.pure_inj.mp (same.symm.trans parsed)
  exact authentic.not_authentic_of_ne differs

namespace Network

/-- The ledger of a party. -/
def ledger (network : Network) (role : Role) : Ledger :=
  (network.party role).conversation.ledger

/-- What the checks see. -/
def view (network : Network) : SystemView :=
  [(network.party .initiator).view, (network.party .responder).view]

/-- Two conversations before anything was sent. -/
def opening (start : Role → Conversation) : Network where
  party role := { conversation := start role }
  audit := { total := (start .initiator).ledger.total }
  wire := []

/-- Put a party in its place. -/
def setParty (network : Network) (role : Role) (party : Simulation.Party) : Network :=
  { network with party := Function.update network.party role party }

/-- Whether both parties together can afford a message, given what each of them
has really sent. -/
def Affords (network : Network) (message : List UInt8) : Prop :=
  (network.ledger .initiator).sent.toNat + (network.ledger .responder).sent.toNat +
    Conversation.cost message ≤ (network.ledger .initiator).total.toNat

/-- Let the span of a frame that was just made through the audit, and hand the
frame to the relay. -/
def dispatch (network : Network) (role : Role) (message bytes : List UInt8) :
    Attempt Violation Network := do
  let frame ← ExceptT.adapt (fun error => ⟨"Send", error.message⟩) (Frame.ofBytes bytes)
  let span ← Simulation.spanOf frame
  let audit ← network.audit.record role span
  let sender := network.party role
  let sender :=
    { sender with
      spans := span :: sender.spans
      sent := (frame.offset, message) :: sender.sent }
  return { network.setParty role sender with audit, wire := bytes :: network.wire }

/-- Let a party send a message. -/
def send (network : Network) (role : Role) (message : List UInt8) : Attempt Violation Network := do
  let sender := network.party role
  let reply ← sender.conversation.send message
  let network := network.setParty role { sender with conversation := reply.after }
  match reply.answer with
  | .ok bytes => network.dispatch role message bytes
  | .error _ => return network

/-- Let octets arrive at a party. -/
def deliver (network : Network) (role : Role) (bytes : List UInt8) : Checked Network := do
  let receiver := network.party role
  let reply ← receiver.conversation.receive bytes
  let receiver := { receiver with conversation := reply.after }
  match reply.answer with
  | .ok (.delivered message) =>
      return network.setParty role
        { receiver with
          delivered := message.offset :: receiver.delivered
          history := reply.after.ledger.seen :: receiver.history }
  | _ => return network.setParty role receiver

/-- What the relay may let arrive at a party: any frame that was ever sent, and
octets that are no authentic frame. -/
def Carries (network : Network) (role : Role) (bytes : List UInt8) : Prop :=
  bytes ∈ network.wire ∨ Harmless (network.party role).conversation.region bytes

/-- The networks that can come about, by messages that both parties can afford
and whatever the relay carries. -/
inductive Reachable (start : Role → Conversation) : Network → Prop where
  | opened : Reachable start (opening start)
  | sent {network after : Network} {role : Role} {message : List UInt8}
      (reachable : Reachable start network) (affords : network.Affords message)
      (sent : network.send role message = pure after) : Reachable start after
  | delivered {network after : Network} {role : Role} {bytes : List UInt8}
      (reachable : Reachable start network) (carries : network.Carries role bytes)
      (delivered : network.deliver role bytes = .ok after) : Reachable start after

end Network

namespace Simulation.Party

/-- A party that has sent a frame with a message. -/
def commit (party : Party) (message : List UInt8) (frame : Frame) (span : Span) : Party :=
  { party with
    conversation := party.conversation.spend message
    spans := span :: party.spans
    sent := (frame.offset, message) :: party.sent }

/-- A party to which a frame was delivered. -/
def heed (party : Party) (frame : Frame) : Party :=
  let conversation := party.conversation.heed frame
  { party with
    conversation
    delivered := frame.offset :: party.delivered
    history := conversation.ledger.seen :: party.history }

end Simulation.Party

namespace Network

variable {network : Network} {role : Role}

/-- A network in which a party has sent a frame with a message. -/
def commit (network : Network) (role : Role) (message : List UInt8) (frame : Frame) (span : Span) :
    Network where
  party := Function.update network.party role ((network.party role).commit message frame span)
  audit := network.audit.accept role span
  wire := frame.toBytes :: network.wire

/-- A network in which a frame was delivered to a party. -/
def heed (network : Network) (role : Role) (frame : Frame) : Network :=
  network.setParty role ((network.party role).heed frame)

/-! ## Parties in their places -/

theorem setParty_self (network : Network) (role : Role) :
    network.setParty role (network.party role) = network := by
  rw [setParty, Function.update_eq_self]

section Changed

variable {message : List UInt8} {frame : Frame} {span : Span}

theorem party_commit_self :
    (network.commit role message frame span).party role =
      (network.party role).commit message frame span :=
  Function.update_self ..

theorem party_commit_peer :
    (network.commit role message frame span).party role.peer = network.party role.peer :=
  Function.update_of_ne role.peer_ne ..

theorem party_heed_self : (network.heed role frame).party role = (network.party role).heed frame :=
  Function.update_self ..

theorem party_heed_peer : (network.heed role frame).party role.peer = network.party role.peer :=
  Function.update_of_ne role.peer_ne ..

theorem ledger_commit_self :
    (network.commit role message frame span).ledger role =
      (network.ledger role).advance (Conversation.cost message) := by
  rw [ledger, party_commit_self]
  rfl

theorem ledger_commit_peer :
    (network.commit role message frame span).ledger role.peer = network.ledger role.peer := by
  rw [ledger, party_commit_peer, ledger]

theorem ledger_heed_self :
    (network.heed role frame).ledger role =
      (network.ledger role).observe ((network.ledger role).markOf frame.offset frame.consumed) := by
  rw [ledger, party_heed_self]
  rfl

theorem ledger_heed_peer :
    (network.heed role frame).ledger role.peer = network.ledger role.peer := by
  rw [ledger, party_heed_peer, ledger]

end Changed

/-! ## Sending -/

/-- The span of a frame is the run of positions that it is sealed with. -/
theorem spanOf_eq_ok {frame : Frame}
    (fits : frame.offset.toNat + frame.ciphertext.length + keySize < wordLimit) :
    ∃ span, Simulation.spanOf frame = .ok span ∧ span.start = frame.offset ∧
      span.stop.toNat = frame.offset.toNat + frame.ciphertext.length + keySize := by
  have length : (UInt64.ofNat frame.ciphertext.length).toNat = frame.ciphertext.length :=
    Word.toNat_ofNat (by omega)
  have key : (UInt64.ofNat keySize).toNat = keySize := rfl
  have keyStart : Word.add frame.offset (UInt64.ofNat frame.ciphertext.length) =
      .ok (UInt64.ofNat (frame.offset.toNat + frame.ciphertext.length)) := by
    rw [Word.add_eq_ok (by omega), length]
  have keyStartNat : (UInt64.ofNat (frame.offset.toNat + frame.ciphertext.length)).toNat =
      frame.offset.toNat + frame.ciphertext.length :=
    Word.toNat_ofNat (by omega)
  have stop : Word.add (UInt64.ofNat (frame.offset.toNat + frame.ciphertext.length))
      (UInt64.ofNat keySize) =
      .ok (UInt64.ofNat (frame.offset.toNat + frame.ciphertext.length + keySize)) := by
    rw [Word.add_eq_ok (by omega), keyStartNat, key]
  refine ⟨⟨frame.offset, UInt64.ofNat _⟩, ?_, rfl, Word.toNat_ofNat fits⟩
  rw [Simulation.spanOf, keyStart, Checked.ok_bind, stop, Checked.ok_bind, Checked.pure_eq_ok]

theorem send_of_refused {message : List UInt8} {error : LedgerError}
    (refused : (network.party role).conversation.send message =
      .ok (.refuse (network.party role).conversation error)) :
    network.send role message = pure network := by
  have same := network.setParty_self role
  simp only [send, refused, Reply.refuse, Attempt.lift_ok, pure_bind]
  exact congrArg pure same

/-- A frame that was made is dispatched once the audit accepts its span. -/
theorem send_of_sent {message : List UInt8} {frame : Frame} {span : Span}
    (sent : (network.party role).conversation.send message =
      .ok ⟨.ok frame.toBytes, (network.party role).conversation.spend message⟩)
    (long : Padding.minimumLength ≤ frame.ciphertext.length)
    (spanEq : Simulation.spanOf frame = .ok span)
    (accepted : network.audit.record role span = .ok (network.audit.accept role span)) :
    network.send role message = pure (network.commit role message frame span) := by
  simp [send, sent, dispatch, Frame.ofBytes_toBytes long, spanEq, setParty, accepted, commit,
    Simulation.Party.commit]

/-! ## Arriving -/

section Arriving

variable {bytes : List UInt8} {frame : Frame} {plaintext : List UInt8}

/-- What leaves the receiver as it was changes nothing. -/
theorem deliver_of_undelivered {answer : Except LedgerError Receipt}
    (received : (network.party role).conversation.receive bytes =
      .ok ⟨answer, (network.party role).conversation⟩)
    (undelivered : ∀ message, answer ≠ .ok (.delivered message)) :
    network.deliver role bytes = .ok network := by
  have same : (.ok (network.setParty role (network.party role)) : Checked Network) =
      .ok network := congrArg Except.ok (network.setParty_self role)
  rcases answer with error | ⟨message | reason⟩
  · rw [deliver, received]
    exact same
  · exact absurd rfl (undelivered message)
  · rw [deliver, received]
    exact same

theorem deliver_of_delivered
    (received : (network.party role).conversation.receive bytes =
      .ok ⟨.ok (.delivered (Conversation.messageOf frame plaintext)),
        (network.party role).conversation.heed frame⟩) :
    network.deliver role bytes = .ok (network.heed role frame) := by
  simp [deliver, received, heed, Simulation.Party.heed, Conversation.messageOf]

variable (sound : (network.party role).conversation.Sound)

include sound

/-- What arrives changes nothing, or a frame is delivered. -/
theorem deliver_cases (bytes : List UInt8) :
    network.deliver role bytes = .ok network ∨
      ∃ frame plaintext, Frame.ofBytes bytes = pure frame ∧
        (network.party role).conversation.Delivers frame plaintext ∧
        network.deliver role bytes = .ok (network.heed role frame) := by
  rcases sound.receive_cases bytes with
    ⟨answer, received, undelivered⟩ | ⟨frame, plaintext, parsed, delivers, received⟩
  · exact .inl (deliver_of_undelivered received undelivered)
  · exact .inr ⟨frame, plaintext, parsed, delivers, deliver_of_delivered received⟩

/-- Octets that are no authentic frame are never delivered. -/
theorem not_delivers_of_harmless
    (harmless : Harmless (network.party role).conversation.region bytes)
    (parsed : Frame.ofBytes bytes = pure frame) :
    ¬ (network.party role).conversation.Delivers frame plaintext := by
  intro delivers
  exact harmless frame parsed (sound.within_of_fresh delivers.live delivers.fresh)
    delivers.authentic

theorem deliver_of_harmless
    (harmless : Harmless (network.party role).conversation.region bytes) :
    network.deliver role bytes = .ok network := by
  rcases deliver_cases sound bytes with same | ⟨frame, plaintext, parsed, delivers, -⟩
  · exact same
  · exact absurd delivers (not_delivers_of_harmless sound harmless parsed)

end Arriving

end Network

end OneTimePad
