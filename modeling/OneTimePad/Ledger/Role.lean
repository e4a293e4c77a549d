import OneTimePad.Ledger.Span

/-!
# Roles

Both parties of a conversation take their key material from one message region
and begin at opposite ends: the initiator at the front and upward, the
responder at the back and downward.  So neither has to ask the other before it
sends.

A role knows its own geometry: where the next octets lie, which positions are
its own, and what the position of a frame says about the consumption of the
other party.
-/

namespace OneTimePad

/-- The end of the message region that a party begins at. -/
inductive Role where
  /-- Upward from the front. -/
  | initiator
  /-- Downward from the back. -/
  | responder
deriving DecidableEq, Repr

namespace Role

/-- The name of a role in running text. -/
def name : Role → String
  | initiator => "initiator"
  | responder => "responder"

/-- The name of a role as a stored value. -/
def tagName : Role → String
  | initiator => "Initiator"
  | responder => "Responder"

/-- The role of the other party. -/
def peer : Role → Role
  | initiator => responder
  | responder => initiator

/-- The next `length` positions after `sent` positions have been consumed.  It
is up to the caller that they exist. -/
def nextSpan (role : Role) (total sent length : UInt64) : Checked Span :=
  match role with
  | initiator => do
      let stop ← Word.add sent length
      return ⟨sent, stop⟩
  | responder => do
      let stop ← Word.sub total sent
      let start ← Word.sub stop length
      return ⟨start, stop⟩

/-- Whether an offset lies at or before the `sent` positions that a party has
consumed, on the party's own side. -/
def owns (role : Role) (total sent offset : UInt64) : Bool :=
  match role with
  | initiator => offset < sent
  | responder => Word.subSaturating total sent ≤ offset

/-- How much the other party must have consumed to send a frame with `length`
octets of key material at `offset`.  There is no answer if the frame cannot lie
in the region. -/
def peerMark (role : Role) (total offset length : UInt64) : Option UInt64 :=
  match role with
  | initiator => Word.sub? total offset
  | responder => Word.add? offset length

/-- The positions of the other party, given how much of its consumption has
been seen. -/
def processed (role : Role) (total seen : UInt64) : Span :=
  match role with
  | initiator => ⟨Word.subSaturating total seen, total⟩
  | responder => ⟨0, seen⟩

/-- Whether a frame of the other party begins among the positions seen. -/
def hasProcessed (role : Role) (total seen offset : UInt64) : Bool :=
  (role.processed total seen).contains offset

/-- Whether a frame of the other party begins outside the positions seen and
still runs into them. -/
def runsIntoProcessed (role : Role) (total seen offset length : UInt64) : Bool :=
  let span := role.processed total seen
  !span.isEmpty && !span.contains offset && decide (offset < span.stop) &&
    decide (span.start < Word.addSaturating offset length)

@[simp]
theorem peer_peer (role : Role) : role.peer.peer = role := by
  cases role <;> rfl

end Role

end OneTimePad
