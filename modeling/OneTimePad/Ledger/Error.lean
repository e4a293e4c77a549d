import OneTimePad.Frame.Error

/-!
# Errors of conversations

What a ledger, a conversation or a registry answers when it refuses.  Some of
it concerns a single frame, after which all goes on; some of it is final.
-/

namespace OneTimePad

/-- Why a ledger, a conversation or a registry refused. -/
inductive LedgerError where
  /-- Too little of the pad is left. -/
  | padExhausted (requested remaining : UInt64)
  /-- The conversation was burned. -/
  | burned
  /-- A frame or stored counters contradict the ledger. -/
  | invalidFormat (reason : String)
  /-- The pad is shorter than what is set aside of it. -/
  | insufficientPad (required actual : Nat)
  /-- A setting is out of its range. -/
  | invalidSettings (reason : String)
  /-- Someone failed while holding the lock of a conversation. -/
  | lockPoisoned
  /-- A frame could not be read, opened or made. -/
  | frame (error : FrameError)
  /-- A primitive refused its arguments. -/
  | primitive (error : PadError)
  /-- Stored counters could not be read. -/
  | snapshot (reason : String)
  /-- No conversation has this identifier. -/
  | unknownConversation (id : String)
  /-- A conversation with this identifier is registered already. -/
  | duplicateConversation (id : String)
deriving DecidableEq, Repr

namespace LedgerError

/-- The text of an error. -/
def message : LedgerError → String
  | padExhausted requested remaining =>
      let wanted := requested.toNat
      let left := remaining.toNat
      s!"pad exhausted: requested {wanted} bytes, {left} remaining"
  | burned => "conversation burned"
  | invalidFormat reason => s!"invalid format: {reason}"
  | insufficientPad required actual =>
      s!"insufficient pad size: need {required} bytes, got {actual}"
  | invalidSettings reason => s!"invalid config: {reason}"
  | lockPoisoned => "lock poisoned"
  | frame error => "protocol error: " ++ error.message
  | primitive error => "crypto error: " ++ error.message
  | snapshot reason => s!"snapshot error: {reason}"
  | unknownConversation id => s!"unknown conversation: {id}"
  | duplicateConversation id => s!"duplicate conversation: {id}"

/-- Whether the offending frame is dropped and all goes on. -/
def isRecoverable : LedgerError → Bool
  | invalidFormat _ => true
  | frame error => error.isDroppable
  | _ => false

/-- Whether the conversation will never send again. -/
def isTerminal : LedgerError → Bool
  | padExhausted _ _ => true
  | burned => true
  | _ => false

/-- The answer of a primitive, as a conversation gives it. -/
def ofPrimitive {α : Type} : Except PadError α → Except LedgerError α
  | .ok value => .ok value
  | .error error => .error (primitive error)

end LedgerError

/-- The answer of an operation on a state, and the state after it.  The state
is there whether the answer is a value or an error, so that a theorem can say
what a refusal leaves behind. -/
structure Reply (σ α : Type) where
  answer : Except LedgerError α
  after : σ

namespace Reply

/-- Refuse, and leave the state as it is. -/
def refuse {σ α : Type} (state : σ) (error : LedgerError) : Reply σ α :=
  ⟨.error error, state⟩

end Reply

end OneTimePad
