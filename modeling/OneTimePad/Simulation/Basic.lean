import OneTimePad.Audit.Check
import OneTimePad.Conversation
import OneTimePad.Simulation.Config
import OneTimePad.Simulation.Generator

/-!
# Simulated conversations

An initiator and a responder share a pad and talk through a relay that echoes,
repeats, reorders and damages frames.  Every span that is reserved goes through
the reuse audit, and after every step the standard checks look at both ledgers.
The first promise that is broken ends the simulation.

At the end the relay is emptied.  A relay that keeps every frame it delivers
is never empty, so a run is given a number of turns, and running out of them is
an outcome of its own.
-/

namespace OneTimePad

/-- What happened in a simulation.  The counters are plain numbers.  A step and
a delivery raise one of them by one at most, so it would take `2 ^ 64` of these
for a counter to differ from one that has the size of a word. -/
structure SimulationStats where
  /-- Frames that were made. -/
  sent : Nat := 0
  /-- Frames that the other party has read. -/
  delivered : Nat := 0
  /-- Echoes that were recognized. -/
  skippedOwn : Nat := 0
  /-- Frames that were processed before. -/
  skippedProcessed : Nat := 0
  /-- Damaged frames that were refused. -/
  rejected : Nat := 0
  /-- Messages that were not sent because the pad is used up. -/
  exhausted : Nat := 0
deriving DecidableEq, Repr

/-- Why a simulation ended early. -/
inductive Halt where
  /-- A promise was broken. -/
  | violation (violation : Violation)
  /-- No turns are left. -/
  | outOfTurns
deriving DecidableEq, Repr

namespace Simulation

/-- A frame at the relay. -/
structure Flight where
  source : Role
  target : Role
  bytes : List UInt8
deriving DecidableEq, Repr

/-- A party and what is remembered of it. -/
structure Party where
  conversation : Conversation
  /-- The spans it has reserved, the latest one first. -/
  spans : List Span := []
  /-- What it has seen of the other party, the latest view first. -/
  history : List UInt64 := []
  /-- Its messages by the offsets of their frames. -/
  sent : List (UInt64 × List UInt8) := []
  /-- The offsets of the frames that were delivered to it. -/
  delivered : List UInt64 := []
deriving Repr

/-- What the checks see of a party. -/
def Party.view (party : Party) : PartyView :=
  { counters := party.conversation.snapshot, spans := party.spans.reverse
    history := party.history.reverse }

end Simulation

open Simulation (Flight Party)

/-- A simulation under way. -/
structure Simulation where
  config : SimulationConfig
  generator : Generator
  initiator : Party
  responder : Party
  /-- The frames at the relay, the next one first. -/
  relay : List Flight
  audit : ReuseAudit
  stats : SimulationStats
deriving Repr

namespace Simulation

/-- A step of a simulation. -/
abbrev Step := StateT Simulation (Attempt Halt)

/-- End the simulation with a violation. -/
def fail {α : Type} (invariant message : String) : Step α :=
  throw (.violation ⟨invariant, message⟩)

/-! ## Beginning -/

/-- Open the conversation of a party. -/
def openParty (pad : List UInt8) (role : Role) : Attempt Violation Party := do
  let opened ← (Conversation.begin pad role).run
  match opened with
  | .ok conversation => return { conversation }
  | .error error => throw ⟨"Setup", error.message⟩

/-- Draw a pad, and open both conversations with it. -/
def start (config : SimulationConfig) : Attempt Violation Simulation := do
  config.validate
  let length ← Size.add Identity.seedLength config.regionLength
  let (pad, generator) := (Generator.ofSeed config.seed).bytes length
  let initiator ← openParty pad .initiator
  let responder ← openParty pad .responder
  return { config, generator, initiator, responder, relay := []
           audit := { total := UInt64.ofNat config.regionLength }, stats := {} }

/-- What the checks see. -/
def view (simulation : Simulation) : SystemView :=
  [simulation.initiator.view, simulation.responder.view]

/-- The party with a role. -/
def party (simulation : Simulation) : Role → Party
  | .initiator => simulation.initiator
  | .responder => simulation.responder

/-- Put a party in its place. -/
def setParty (simulation : Simulation) (role : Role) (party : Party) : Simulation :=
  match role with
  | .initiator => { simulation with initiator := party }
  | .responder => { simulation with responder := party }

/-! ## Drawing -/

/-- Draw from the generator. -/
def draw {α : Type} (drawing : Generator → α × Generator) : Step α :=
  modifyGet fun simulation =>
    let (drawn, generator) := drawing simulation.generator
    (drawn, { simulation with generator })

/-- Draw a chance. -/
def chance (probability : Binary64) : Step Bool :=
  draw fun generator => generator.chance probability

/-- One in two. -/
def half : Binary64 := ⟨0x3fe0000000000000⟩

/-- How many draws a number below a bound may take.  Fewer than half of all
draws are rejected. -/
def drawTurns : Nat := 4096

/-- Draw a number below a bound. -/
def drawBelow (bound : Nat) : Step Nat := do
  let simulation ← get
  match Generator.below bound drawTurns simulation.generator with
  | some (number, generator) =>
      set { simulation with generator }
      return number
  | none => throw .outOfTurns

/-! ## Sending -/

/-- Count a message that was not sent. -/
def countExhausted : Step Unit :=
  modify fun simulation =>
    { simulation with stats.exhausted := simulation.stats.exhausted + 1 }

/-- Put a frame at the end of the relay. -/
def enqueue (flight : Flight) : Step Unit :=
  modify fun simulation => { simulation with relay := simulation.relay ++ [flight] }

/-- Whether a message would run into positions that either party has used,
which its sender need not have seen yet. -/
def wouldCollide (simulation : Simulation) (length : Nat) : Checked Bool := do
  let needed ← Word.add (UInt64.ofNat (← Padding.paddedLength length))
    (UInt64.ofNat Authenticator.keySize)
  let used ← Word.add simulation.initiator.conversation.ledger.sent
    simulation.responder.conversation.ledger.sent
  let claimed ← Word.add used needed
  return decide (UInt64.ofNat simulation.config.regionLength < claimed)

/-- The span that a frame has consumed. -/
def spanOf (frame : Frame) : Checked Span := do
  let keyStart ← Word.add frame.offset (UInt64.ofNat frame.ciphertext.length)
  let stop ← Word.add keyStart (UInt64.ofNat Authenticator.keySize)
  return ⟨frame.offset, stop⟩

/-- Let the span of a frame that was just made through the audit, and hand the
frame to the relay. -/
def dispatch (role : Role) (message bytes : List UInt8) : Step Unit := do
  match ← (Frame.ofBytes bytes).run with
  | .error error => fail "Send" error.message
  | .ok frame => do
      let span ← spanOf frame
      let simulation ← get
      match simulation.audit.record role span with
      | .error violation => throw (.violation violation)
      | .ok audit => do
          let sender := simulation.party role
          let sender :=
            { sender with
              spans := span :: sender.spans
              sent := (frame.offset, message) :: sender.sent }
          set
            { simulation.setParty role sender with
              audit
              stats.sent := simulation.stats.sent + 1 }
          if ← chance simulation.config.echoRate then
            enqueue ⟨role, role, bytes⟩
          enqueue ⟨role, role.peer, bytes⟩

/-- Let a party send a message. -/
def send (role : Role) : Step Unit := do
  let length ← drawBelow ((← get).config.longestMessage + 1)
  let message ← draw fun generator => generator.bytes length
  let simulation ← get
  if ← simulation.wouldCollide length then
    countExhausted
  else
    let sender := simulation.party role
    let reply ← sender.conversation.send message
    set (simulation.setParty role { sender with conversation := reply.after })
    match reply.answer with
    | .ok bytes => dispatch role message bytes
    | .error (.padExhausted _ _) => countExhausted
    | .error error => fail "Send" (role.name ++ ": " ++ error.message)

/-! ## Delivering -/

/-- Flip a bit of octets. -/
def flipBit (bytes : List UInt8) (bit : Nat) : List UInt8 :=
  bytes.modify (bit / 8) fun byte => byte ^^^ ((1 : UInt8) <<< UInt8.ofNat (bit % 8))

/-- The octets of a frame as they arrive, and whether they were damaged. -/
def transport (bytes : List UInt8) : Step (List UInt8 × Bool) := do
  if ← chance (← get).config.tamperRate then
    let bit ← drawBelow (bytes.length * 8)
    return (flipBit bytes bit, true)
  else
    return (bytes, false)

/-- Take a frame from the relay, mostly the first one, and sometimes leave a
copy of it there. -/
def takeFlight : Step (Option Flight) := do
  let simulation ← get
  let index ←
    if ← chance simulation.config.reorderRate then drawBelow simulation.relay.length else pure 0
  match simulation.relay[index]? with
  | none => return none
  | some flight => do
      modify fun simulation => { simulation with relay := simulation.relay.eraseIdx index }
      if ← chance simulation.config.duplicateRate then
        enqueue flight
      return some flight

/-- A frame was delivered: it has to be new, undamaged, from the other party,
and to say what was sent. -/
def acceptDelivery (flight : Flight) (tampered : Bool) (message : Message) : Step Unit := do
  let offset := message.offset.toNat
  if tampered then
    fail "Receive" s!"tampered frame at {offset} delivered"
  if flight.source = flight.target then
    fail "Receive" s!"own frame at {offset} delivered"
  let simulation ← get
  let receiver := simulation.party flight.target
  if message.offset ∈ receiver.delivered then
    fail "Receive" s!"frame at {offset} delivered twice"
  set (simulation.setParty flight.target
    { receiver with
      delivered := message.offset :: receiver.delivered
      history := receiver.conversation.ledger.seen :: receiver.history })
  if (simulation.party flight.source).sent.lookup message.offset ≠ some message.plaintext then
    fail "Receive" s!"plaintext mismatch at {offset}"
  modify fun simulation =>
    { simulation with stats.delivered := simulation.stats.delivered + 1 }

/-- A frame was skipped: the books must not have changed, and only own frames
may be taken for own ones. -/
def acceptSkip (flight : Flight) (tampered changed : Bool) (reason : SkipReason) :
    Step Unit := do
  if changed then
    fail "Receive" ("skip (" ++ reason.message ++ ") changed the ledger")
  if reason = .own ∧ flight.source ≠ flight.target ∧ !tampered then
    fail "Receive" "peer frame classified as own"
  modify fun simulation =>
    match reason with
    | .own => { simulation with stats.skippedOwn := simulation.stats.skippedOwn + 1 }
    | .alreadyProcessed =>
        { simulation with stats.skippedProcessed := simulation.stats.skippedProcessed + 1 }

/-- A frame was refused: it has to be damaged, and the books must not have
changed. -/
def acceptRefusal (flight : Flight) (tampered changed : Bool) (error : LedgerError) :
    Step Unit := do
  if tampered && error.isRecoverable then
    if changed then
      fail "Receive" ("rejected frame changed the ledger: " ++ error.message)
    modify fun simulation =>
      { simulation with stats.rejected := simulation.stats.rejected + 1 }
  else
    fail "Receive" (flight.target.name ++ " rejected clean frame: " ++ error.message)

/-- Let a frame arrive. -/
def deliver : Step Unit := do
  match ← takeFlight with
  | none => return ()
  | some flight => do
      let (bytes, tampered) ← transport flight.bytes
      let simulation ← get
      let receiver := simulation.party flight.target
      let reply ← receiver.conversation.receive bytes
      set (simulation.setParty flight.target { receiver with conversation := reply.after })
      let changed := decide (reply.after.snapshot ≠ receiver.conversation.snapshot)
      match reply.answer with
      | .ok (.delivered message) => acceptDelivery flight tampered message
      | .ok (.skipped reason) => acceptSkip flight tampered changed reason
      | .error error => acceptRefusal flight tampered changed error

/-! ## Running -/

/-- Run the standard checks.  The first violation is reported with the seed and
the number of the step. -/
def check (step : Nat) : Step Unit := do
  let simulation ← get
  match ← Check.runAll Check.standard simulation.view with
  | [] => return ()
  | first :: _ =>
      let seed := simulation.config.seed.toNat
      fail first.invariant (s!"seed {seed} step {step}: " ++ first.message)

/-- Let a party send or a frame arrive. -/
def act : Step Unit := do
  let idle := (← get).relay.isEmpty
  if ← (if idle then pure true else chance half) then
    let role : Role := if ← chance half then .initiator else .responder
    send role
  else
    deliver

/-- Run the steps that are left, the next one having the number `step`. -/
def runSteps : (left step : Nat) → Step Unit
  | 0, _ => return ()
  | left + 1, step => do
      act
      check step
      runSteps left (step + 1)

/-- Empty the relay. -/
def drain : (turns : Nat) → Step Unit
  | 0 => do if (← get).relay.isEmpty then return () else throw .outOfTurns
  | turns + 1 => do
      if (← get).relay.isEmpty then
        return ()
      else
        deliver
        drain turns

/-- Run all steps, and empty the relay within this many turns. -/
def run (turns : Nat) (simulation : Simulation) : Attempt Halt SimulationStats := do
  let steps := simulation.config.steps
  let finish : Step SimulationStats := do
    runSteps steps 0
    drain turns
    check steps
    return (← get).stats
  finish.run' simulation

end Simulation

end OneTimePad
