import Mathlib.Algebra.GroupWithZero.Nat
import Mathlib.Logic.Function.Basic
import OneTimePad.Proofs.Conversation.Run
import OneTimePad.Proofs.Conversation.Sequence

/-!
# Exchanges of letters

Two parties that began with one pad send letters to each other, numbered from
zero in the order in which they were sent.  A party sends only what both can
still afford.  Its letters arrive at the other party in any order, late, again,
or not at all.

For each party there is a record of which letters of the other one have arrived,
and of which of these were delivered.
-/

namespace OneTimePad

open Conversation (cost)

/-- A message and the octets that carry it. -/
structure Letter where
  message : List UInt8
  bytes : List UInt8

/-- What letters consume together. -/
def Letter.consumption (letters : List Letter) : Nat :=
  (letters.map fun letter => cost letter.message).sum

/-- One of two parties. -/
structure Correspondent where
  conversation : Conversation
  /-- The letters that it has sent, in order. -/
  letters : List Letter := []
  /-- The numbers of the letters that have arrived from the other party, the
  latest one first. -/
  arrived : List Nat := []
  /-- The numbers of those that were delivered, the latest one first. -/
  delivered : List Nat := []

/-- Two parties, by their roles. -/
abbrev Exchange : Type :=
  Role → Correspondent

/-- How many letters count as seen: one more than the largest number, and none
without a number. -/
def covered (numbers : List Nat) : Nat :=
  numbers.foldr (fun number most => max (number + 1) most) 0

/-- First copies arrive in the order of the letters: every arrival, the latest
one being the first of the list, is a repetition or comes after all earlier
ones. -/
def InOrder : List Nat → Prop
  | [] => True
  | number :: earlier => (number ∈ earlier ∨ ∀ other ∈ earlier, other < number) ∧ InOrder earlier

namespace Exchange

/-- Two conversations before anything was sent. -/
def opening (start : Role → Conversation) : Exchange :=
  fun role => { conversation := start role }

/-- Put a party in its place. -/
def setParty (exchange : Exchange) (role : Role) (party : Correspondent) : Exchange :=
  Function.update exchange role party

/-- Whether both parties together can afford a message, given what each of them
has really sent. -/
def Affords (exchange : Exchange) (message : List UInt8) : Prop :=
  (exchange .initiator).conversation.ledger.sent.toNat +
      (exchange .responder).conversation.ledger.sent.toNat + cost message ≤
    (exchange .initiator).conversation.ledger.total.toNat

/-- Let a party send a message. -/
def send (exchange : Exchange) (role : Role) (message : List UInt8) : Checked Exchange := do
  let sender := exchange role
  let reply ← sender.conversation.send message
  let sender := { sender with conversation := reply.after }
  match reply.answer with
  | .ok bytes =>
      return exchange.setParty role
        { sender with letters := sender.letters ++ [{ message, bytes }] }
  | .error _ => return exchange.setParty role sender

/-- Let a letter with this number arrive at a party. -/
def arrive (exchange : Exchange) (role : Role) (number : Nat) (letter : Letter) :
    Checked Exchange := do
  let receiver := exchange role
  let reply ← receiver.conversation.receive letter.bytes
  let receiver :=
    { receiver with conversation := reply.after, arrived := number :: receiver.arrived }
  match reply.answer with
  | .ok (.delivered _) =>
      return exchange.setParty role { receiver with delivered := number :: receiver.delivered }
  | _ => return exchange.setParty role receiver

/-- The exchanges that can come about, by messages that both parties can afford
and letters that arrive in any order and any number of times. -/
inductive Reachable (start : Role → Conversation) : Exchange → Prop where
  | opened : Reachable start (opening start)
  | sent {exchange after : Exchange} {role : Role} {message : List UInt8}
      (reachable : Reachable start exchange) (affords : exchange.Affords message)
      (sent : exchange.send role message = .ok after) : Reachable start after
  | arrived {exchange after : Exchange} {role : Role} {number : Nat} {letter : Letter}
      (reachable : Reachable start exchange)
      (letter_eq : (exchange role.peer).letters[number]? = some letter)
      (arrived : exchange.arrive role number letter = .ok after) : Reachable start after

end Exchange

/-! ## Consumption -/

namespace Letter

variable {letters : List Letter} {letter : Letter} {number less more : Nat}

theorem consumption_append (first second : List Letter) :
    consumption (first ++ second) = consumption first + consumption second := by
  rw [consumption, List.map_append, List.sum_append, consumption, consumption]

theorem consumption_concat (letters : List Letter) (letter : Letter) :
    consumption (letters ++ [letter]) = consumption letters + cost letter.message := by
  rw [consumption_append]
  rfl

theorem consumption_take_succ (present : letters[number]? = some letter) :
    consumption (letters.take (number + 1)) =
      consumption (letters.take number) + cost letter.message := by
  rw [List.take_add_one, present, Option.toList_some, consumption_concat]

theorem consumption_take_le (letters : List Letter) (number : Nat) :
    consumption (letters.take number) ≤ consumption letters := by
  have parts := consumption_append (letters.take number) (letters.drop number)
  rw [List.take_append_drop] at parts
  omega

theorem consumption_take_mono (le : less ≤ more) :
    consumption (letters.take less) ≤ consumption (letters.take more) := by
  have shorter := consumption_take_le (letters.take more) less
  rwa [List.take_take, Nat.min_eq_left le] at shorter

end Letter

/-! ## Numbers -/

theorem covered_cons (number : Nat) (numbers : List Nat) :
    covered (number :: numbers) = max (number + 1) (covered numbers) :=
  rfl

theorem covered_le_iff {numbers : List Nat} {bound : Nat} :
    covered numbers ≤ bound ↔ ∀ number ∈ numbers, number < bound := by
  induction numbers with
  | nil => simp [covered]
  | cons number numbers inductionHypothesis =>
      rw [covered_cons, Nat.max_le, inductionHypothesis, List.forall_mem_cons, Nat.succ_le_iff]

/-! ## Parties in their places -/

namespace Exchange

variable (exchange : Exchange) (role : Role) (party : Correspondent)

theorem setParty_self : exchange.setParty role (exchange role) = exchange :=
  Function.update_eq_self role exchange

theorem setParty_apply_self : exchange.setParty role party role = party := by
  rw [setParty, Function.update_self]

theorem setParty_apply_peer : exchange.setParty role party role.peer = exchange role.peer := by
  rw [setParty, Function.update_of_ne role.peer_ne]

end Exchange

end OneTimePad
