import OneTimePad.Frame.KeySpan
import OneTimePad.Ledger.Role
import OneTimePad.Ledger.Settings
import OneTimePad.Ledger.Snapshot

/-!
# The ledger

A ledger keeps the books of one party: how much of the message region the party
has consumed itself, and how much of the other party's consumption it has seen.
It is the only place that gives out key material, and so the only place where
key material could be given out twice.

Reserving moves the party's own counter before the reservation is answered.
Recording a frame of the other party moves the second counter, but only to
positions that exist and that this party has not used.
-/

namespace OneTimePad

/-- How far the life of a conversation has come. -/
inductive Stage where
  /-- The smallest frame still fits. -/
  | active
  /-- Less than the smallest frame is left. -/
  | exhausted
  /-- The conversation was burned. -/
  | burned
deriving DecidableEq, Repr

/-- The name of a stage. -/
def Stage.name : Stage → String
  | active => "Active"
  | exhausted => "Exhausted"
  | burned => "Burned"

/-- Key material that was given out for one frame. -/
structure Reservation where
  /-- Where it begins. -/
  offset : UInt64
  /-- The length of the ciphertext that it is for. -/
  cipherLength : Nat
deriving DecidableEq, Repr

namespace Reservation

/-- The key material of the frame. -/
def keySpan (reservation : Reservation) : KeySpan :=
  ⟨reservation.offset, reservation.cipherLength⟩

/-- How much is consumed for a ciphertext of this length, cut at the largest
word. -/
def consumption (cipherLength : Nat) : UInt64 :=
  if cipherLength + Authenticator.keySize < wordLimit then
    UInt64.ofNat (cipherLength + Authenticator.keySize)
  else Word.top

/-- How much is consumed. -/
def consumed (reservation : Reservation) : UInt64 :=
  consumption reservation.cipherLength

/-- The positions that are consumed. -/
def span (reservation : Reservation) : Checked Span := do
  let stop ← Word.add reservation.offset reservation.consumed
  return ⟨reservation.offset, stop⟩

theorem span_eq_ok {reservation : Reservation}
    (fits : reservation.offset.toNat + reservation.consumed.toNat < wordLimit) :
    reservation.span =
      .ok ⟨reservation.offset,
        UInt64.ofNat (reservation.offset.toNat + reservation.consumed.toNat)⟩ := by
  rw [span, Word.add_eq_ok fits, Checked.ok_bind, Checked.pure_eq_ok]

end Reservation

/-- What the record of a frame came to. -/
inductive Progress where
  /-- The frame is one of ours, echoed; nothing changed. -/
  | ownMessage
  /-- The frame was covered already; nothing changed. -/
  | stale
  /-- The other party is now seen to have consumed this much. -/
  | advanced (seen : UInt64)
deriving DecidableEq, Repr

/-- How a frame relates to the books. -/
inductive Origin where
  /-- One of ours. -/
  | own
  /-- One of the other party that was processed already. -/
  | duplicate
  /-- One of the other party that is new. -/
  | fresh
deriving DecidableEq, Repr

/-- The books of one party. -/
structure Ledger where
  role : Role
  /-- The size of the message region. -/
  total : UInt64
  /-- What this party has consumed. -/
  sent : UInt64
  /-- What the other party has consumed, as far as was seen. -/
  seen : UInt64
  burned : Bool
  /-- The rest below which the conversation is exhausted. -/
  threshold : UInt64
deriving DecidableEq, Repr

namespace Ledger

/-! ## Beginning and storing -/

/-- Fresh books over a region of `total` octets. -/
def fresh (role : Role) (total : UInt64) (settings : Settings := {}) : Ledger :=
  { role, total, sent := 0, seen := 0, burned := false, threshold := settings.threshold }

/-- The counters to store. -/
def snapshot (ledger : Ledger) : Snapshot :=
  { role := ledger.role, total := ledger.total, sent := ledger.sent, seen := ledger.seen
    burned := ledger.burned }

/-- Take up stored counters, which must not claim more than the region has. -/
def restore (snapshot : Snapshot) (settings : Settings) : Except LedgerError Ledger :=
  match Word.add? snapshot.sent snapshot.seen with
  | some used =>
      if snapshot.total < used then .error (.invalidFormat "snapshot counters exceed pad")
      else
        .ok
          { role := snapshot.role, total := snapshot.total, sent := snapshot.sent
            seen := snapshot.seen, burned := snapshot.burned, threshold := settings.threshold }
  | none => .error (.invalidFormat "snapshot counters exceed pad")

/-! ## Looking -/

/-- What neither party has consumed. -/
def remaining (ledger : Ledger) : Checked UInt64 := do
  let used ← Word.add ledger.sent ledger.seen
  return Word.subSaturating ledger.total used

/-- How far the conversation has come. -/
def stage (ledger : Ledger) : Checked Stage := do
  if ledger.burned then return .burned
  let remaining ← ledger.remaining
  return if remaining < ledger.threshold then .exhausted else .active

/-- Whether a frame of the other party at this offset was processed already. -/
def isDuplicate (ledger : Ledger) (offset : UInt64) : Bool :=
  ledger.role.hasProcessed ledger.total ledger.seen offset

/-- How a frame at this offset relates to the books. -/
def classify (ledger : Ledger) (offset : UInt64) : Origin :=
  if ledger.role.owns ledger.total ledger.sent offset then .own
  else if ledger.isDuplicate offset then .duplicate
  else .fresh

/-- How a frame with `length` octets of key material at this offset relates to
the books.  One that begins at new positions and runs into processed ones is
refused, before anything is decrypted with those. -/
def classifyFrame (ledger : Ledger) (offset length : UInt64) : Except LedgerError Origin :=
  match ledger.classify offset with
  | .fresh =>
      if ledger.role.runsIntoProcessed ledger.total ledger.seen offset length then
        .error (.invalidFormat "peer range overlaps processed frames")
      else .ok .fresh
  | origin => .ok origin

/-- The books as diagnostic texts show them. -/
def describe (ledger : Ledger) : String :=
  let role := ledger.role.tagName
  let total := ledger.total.toNat
  let sent := ledger.sent.toNat
  let seen := ledger.seen.toNat
  let burned := if ledger.burned then "true" else "false"
  let threshold := ledger.threshold.toNat
  s!"Ledger \x7b role: {role}, total: {total}, send_offset: {sent}, peer_consumed: {seen}, " ++
    s!"burned: {burned}, min_frame_consumption: {threshold} \x7d"

/-! ## Changing -/

/-- Reserve key material for a ciphertext of this length. -/
def reserve (ledger : Ledger) (cipherLength : Nat) : Checked (Reply Ledger Reservation) := do
  let remaining ← ledger.remaining
  let consumed := Reservation.consumption cipherLength
  match ← ledger.stage with
  | .burned => return .refuse ledger .burned
  | .exhausted => return .refuse ledger (.padExhausted consumed remaining)
  | .active =>
      if remaining < consumed then
        return .refuse ledger (.padExhausted consumed remaining)
      else
        let span ← ledger.role.nextSpan ledger.total ledger.sent consumed
        let sent ← Word.add ledger.sent consumed
        return ⟨.ok ⟨span.start, cipherLength⟩, { ledger with sent }⟩

/-- Record that the other party has consumed `length` octets at `offset`. -/
def record (ledger : Ledger) (offset length : UInt64) : Reply Ledger Progress :=
  if ledger.burned then .refuse ledger .burned
  else if ledger.role.owns ledger.total ledger.sent offset then ⟨.ok .ownMessage, ledger⟩
  else
    match ledger.role.peerMark ledger.total offset length with
    | none => .refuse ledger (.invalidFormat "peer offset outside pad")
    | some mark =>
        if ledger.role.runsIntoProcessed ledger.total ledger.seen offset length then
          .refuse ledger (.invalidFormat "peer range overlaps processed frames")
        else if mark ≤ ledger.seen then ⟨.ok .stale, ledger⟩
        else if ledger.total.toNat < ledger.sent.toNat + mark.toNat then
          .refuse ledger (.invalidFormat "peer range overlaps own sends")
        else ⟨.ok (.advanced mark), { ledger with seen := mark }⟩

/-- Mark the conversation as burned. -/
def burn (ledger : Ledger) : Ledger :=
  { ledger with burned := true }

end Ledger

end OneTimePad
