import OneTimePad.Cbor.Record
import OneTimePad.Ledger.Error
import OneTimePad.Ledger.Role

/-!
# Stored counters

What is kept of a ledger while its conversation rests: the role, the size of
the message region, both counters, and whether the conversation was burned.  It
is stored as a CBOR record with the fields in this order.
-/

namespace OneTimePad

/-- The counters of a ledger at rest. -/
structure Snapshot where
  role : Role
  /-- The size of the message region. -/
  total : UInt64
  /-- What this party has consumed. -/
  sent : UInt64
  /-- What the other party has consumed, as far as was seen. -/
  seen : UInt64
  burned : Bool
deriving DecidableEq, Repr

namespace Snapshot

/-- The name of the field for the role. -/
def roleField : String := "role"

/-- The name of the field for the size of the region. -/
def totalField : String := "total"

/-- The name of the field for what this party has consumed. -/
def sentField : String := "send_offset"

/-- The name of the field for what the other party has consumed. -/
def seenField : String := "peer_consumed"

/-- The name of the field for whether the conversation was burned. -/
def burnedField : String := "burned"

/-- The octets of stored counters. -/
def toCbor (snapshot : Snapshot) : List UInt8 :=
  Cbor.writeMap 5 ++
    Cbor.writeText roleField ++ Cbor.writeText snapshot.role.tagName ++
    Cbor.writeText totalField ++ Cbor.writeUnsigned snapshot.total ++
    Cbor.writeText sentField ++ Cbor.writeUnsigned snapshot.sent ++
    Cbor.writeText seenField ++ Cbor.writeUnsigned snapshot.seen ++
    Cbor.writeText burnedField ++ Cbor.writeBool snapshot.burned

/-- Counters under construction. -/
structure Draft where
  role : Cbor.Field Role := none
  total : Cbor.Field UInt64 := none
  sent : Cbor.Field UInt64 := none
  seen : Cbor.Field UInt64 := none
  burned : Cbor.Field Bool := none

/-- Read the name of a role. -/
def readRole : Cbor.Reader Role := do
  let name ← Cbor.readChoice
  if name = Utf8.ofString Role.initiator.tagName then return .initiator
  else if name = Utf8.ofString Role.responder.tagName then return .responder
  else throw .unexpected

/-- How the value of an entry goes into counters under construction. -/
def Draft.entry (key : List UInt8) : Option (Draft → Cbor.Reader Draft) :=
  if key = Utf8.ofString roleField then
    some fun draft => do
      let role ← Cbor.fillField draft.role readRole
      return { draft with role }
  else if key = Utf8.ofString totalField then
    some fun draft => do
      let total ← Cbor.fillField draft.total Cbor.readUnsigned
      return { draft with total }
  else if key = Utf8.ofString sentField then
    some fun draft => do
      let sent ← Cbor.fillField draft.sent Cbor.readUnsigned
      return { draft with sent }
  else if key = Utf8.ofString seenField then
    some fun draft => do
      let seen ← Cbor.fillField draft.seen Cbor.readUnsigned
      return { draft with seen }
  else if key = Utf8.ofString burnedField then
    some fun draft => do
      let burned ← Cbor.fillField draft.burned Cbor.readBool
      return { draft with burned }
  else none

/-- The counters, once all entries are read.  None may be missing. -/
def Draft.finish (draft : Draft) : Cbor.Reader Snapshot := do
  let role ← Cbor.demand draft.role
  let total ← Cbor.demand draft.total
  let sent ← Cbor.demand draft.sent
  let seen ← Cbor.demand draft.seen
  let burned ← Cbor.demand draft.burned
  return { role, total, sent, seen, burned }

/-- Read stored counters.  What follows them is ignored. -/
def ofCbor (bytes : List UInt8) : Except LedgerError Snapshot :=
  match StateT.run' (do (← Cbor.readRecord Draft.entry {}).finish) bytes with
  | .ok snapshot => .ok snapshot
  | .error reason => .error (.snapshot reason.name)

end Snapshot

end OneTimePad
