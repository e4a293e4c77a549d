import OneTimePad.Audit.Reuse
import OneTimePad.Ledger.Snapshot

/-!
# Checks of a system

A check looks at the counters of all parties, at the spans they have consumed
and at how their views of the other party developed, and says whether one
promise holds.  The standard checks are those that hold of every conversation
in whatever order its frames arrive.
-/

namespace OneTimePad

/-- What can be seen of one party. -/
structure PartyView where
  counters : Snapshot
  /-- The spans the party has reserved, in order. -/
  spans : List Span := []
  /-- Every consumption of the other party that it has seen, in order. -/
  history : List UInt64 := []
deriving DecidableEq, Repr

/-- What can be seen of all parties. -/
abbrev SystemView := List PartyView

/-- The first party with a role. -/
def SystemView.party? (system : SystemView) (role : Role) : Option PartyView :=
  system.find? fun party => party.counters.role = role

/-- A named promise, and how it is checked. -/
structure Check where
  name : String
  inspect : SystemView → Checked (Option String)

namespace Check

/-- The violation that a check finds, if there is one. -/
def run (check : Check) (system : SystemView) : Checked (Option Violation) := do
  return (← check.inspect system).map fun message => ⟨check.name, message⟩

/-- The first finding among the members of a list. -/
def firstOf {α : Type} (inspect : α → Checked (Option String)) : List α → Checked (Option String)
  | [] => .ok none
  | item :: rest => do
      match ← inspect item with
      | some message => return some message
      | none => firstOf inspect rest

/-! ## No position is consumed twice -/

/-- All spans with the roles of their parties, in the order of their starts. -/
def sortedSpans (system : SystemView) : List (Role × Span) :=
  (system.flatMap fun party => party.spans.map fun span => (party.counters.role, span)).mergeSort
    fun left right => decide (left.2.start ≤ right.2.start)

/-- The first two neighbours of which the second starts before the first one
ends. -/
def firstOverlap : List (Role × Span) → Option String
  | (roleA, a) :: (roleB, b) :: rest =>
      if b.start < a.stop then
        some (roleA.name ++ " range " ++ a.describe ++ " overlaps " ++ roleB.name ++ " range " ++
          b.describe)
      else firstOverlap ((roleB, b) :: rest)
  | _ => none

/-- No position is consumed by two reservations, of whichever party. -/
def noOverlap : Check where
  name := "NoRangeOverlap"
  inspect system := .ok (firstOverlap (sortedSpans system))

/-! ## Every party consumes in one direction and leaves no gap -/

/-- Whether a span follows another one in the direction of a role. -/
def follows (role : Role) (next last : Span) : Bool :=
  match role with
  | .initiator => next.start = last.stop
  | .responder => next.stop = last.start

/-- The first span that does not follow the one before it. -/
def firstGap (role : Role) : List Span → Option String
  | last :: next :: rest =>
      if follows role next last then firstGap role (next :: rest)
      else some (role.name ++ ": " ++ next.describe ++ " does not follow " ++ last.describe)
  | _ => none

/-- The first view of the other party that falls behind the one before it. -/
def firstDecrease (role : Role) : List UInt64 → Option String
  | last :: next :: rest =>
      if next < last then
        let before := last.toNat
        let now := next.toNat
        some (role.name ++ s!": peer_consumed decreased {before} → {now}")
      else firstDecrease role (next :: rest)
  | _ => none

/-- The spans of each party follow each other, and its view of the other party
never falls. -/
def monotonicity : Check where
  name := "RangeMonotonicity"
  inspect system :=
    .ok (system.findSome? fun party =>
      firstGap party.counters.role party.spans <|>
        firstDecrease party.counters.role party.history)

/-! ## No party claims more than there is -/

/-- The counters of a party fit the region, and its spans add up to what it has
sent. -/
def inspectCapacity (party : PartyView) : Checked (Option String) := do
  let counters := party.counters
  let role := counters.role.name
  let sent := counters.sent.toNat
  let used ← Word.add counters.sent counters.seen
  if counters.total < used then
    let seen := counters.seen.toNat
    let total := counters.total.toNat
    return some (role ++ s!": send {sent} + peer {seen} exceeds total {total}")
  let reserved ← ReuseAudit.totalLength party.spans
  if party.spans ≠ [] ∧ reserved ≠ counters.sent then
    let covered := reserved.toNat
    return some (role ++ s!": ranges cover {covered} bytes but send_offset is {sent}")
  return none

/-- No party claims more than the region has. -/
def capacity : Check where
  name := "CapacityBound"
  inspect system := firstOf inspectCapacity system

/-! ## No party believes more of the other than is true -/

/-- Whether one party has seen more of another than that one has consumed. -/
def inspectView (viewer peer : PartyView) : Option String :=
  if peer.counters.sent < viewer.counters.seen then
    let seen := viewer.counters.seen.toNat
    let sent := peer.counters.sent.toNat
    some (viewer.counters.role.name ++ s!" sees peer_consumed {seen} but " ++
      peer.counters.role.name ++ s!" sent {sent}")
  else none

/-- No party has seen more of the other than the other has consumed. -/
def peerView : Check where
  name := "PeerViewBounded"
  inspect system :=
    match system.party? .initiator, system.party? .responder with
    | some initiator, some responder =>
        .ok (inspectView initiator responder <|> inspectView responder initiator)
    | _, _ => .ok none

/-! ## Suites -/

/-- The checks that every conversation passes. -/
def standard : List Check :=
  [noOverlap, monotonicity, capacity, peerView]

/-- All violations that checks find, in the order of the checks. -/
def runAll : List Check → SystemView → Checked (List Violation)
  | [], _ => .ok []
  | check :: checks, system => do
      let found ← check.run system
      let others ← runAll checks system
      return found.toList ++ others

end Check

end OneTimePad
