import OneTimePad.Conversation

/-!
# Registries

A registry holds conversations under their identifiers.  Whoever registers or
looks up a conversation gets a handle to it, and all handles to a conversation
see the same one, also after it was taken off the registry.

A conversation is locked while it is used.  Who fails while holding the lock
poisons it, and no one locks that conversation again.
-/

namespace OneTimePad

/-- A conversation behind its lock. -/
structure Cell where
  conversation : Conversation
  poisoned : Bool := false
deriving DecidableEq, Repr

/-- A reference to a conversation that was once registered. -/
structure Handle where
  index : Nat
deriving DecidableEq, Repr

/-- Conversations under their identifiers.  The cells are all conversations
that were ever registered; the entries say which of them still are. -/
structure Registry where
  cells : List Cell := []
  entries : List (String × Handle) := []
deriving DecidableEq, Repr

namespace Registry

/-! ## Handles -/

/-- The conversation behind a handle, locked. -/
def lock (registry : Registry) (handle : Handle) : Except LedgerError Conversation :=
  match registry.cells[handle.index]? with
  | some cell => if cell.poisoned then .error .lockPoisoned else .ok cell.conversation
  | none => .error .lockPoisoned

/-- Put a conversation back behind its handle. -/
def store (registry : Registry) (handle : Handle) (conversation : Conversation) : Registry :=
  { registry with
    cells := registry.cells.modify handle.index fun cell => { cell with conversation } }

/-- Make the lock behind a handle unusable. -/
def poison (registry : Registry) (handle : Handle) : Registry :=
  { registry with
    cells := registry.cells.modify handle.index fun cell => { cell with poisoned := true } }

/-- Use the conversation behind a handle, under its lock. -/
def act {α : Type} (registry : Registry) (handle : Handle)
    (action : Conversation → Checked (Reply Conversation α)) : Checked (Reply Registry α) := do
  match registry.lock handle with
  | .error error => return .refuse registry error
  | .ok conversation =>
      let reply ← action conversation
      return ⟨reply.answer, registry.store handle reply.after⟩

/-! ## Identifiers -/

/-- The handle of a registered conversation. -/
def get (registry : Registry) (id : String) : Except LedgerError Handle :=
  match registry.entries.lookup id with
  | some handle => .ok handle
  | none => .error (.unknownConversation id)

/-- Register a conversation, unless its identifier is taken. -/
def insert (registry : Registry) (conversation : Conversation) : Reply Registry Handle :=
  match registry.entries.lookup conversation.id with
  | some _ => .refuse registry (.duplicateConversation conversation.id)
  | none =>
      let handle : Handle := ⟨registry.cells.length⟩
      ⟨.ok handle,
        { cells := registry.cells ++ [{ conversation }]
          entries := (conversation.id, handle) :: registry.entries }⟩

/-- Take a conversation off the registry. -/
def remove (registry : Registry) (id : String) : Reply Registry Handle :=
  match registry.get id with
  | .error error => .refuse registry error
  | .ok handle =>
      ⟨.ok handle, { registry with entries := registry.entries.filter fun entry => entry.1 ≠ id }⟩

/-- Take a conversation off the registry and destroy its pad. -/
def burn (registry : Registry) (id : String) : Checked (Reply Registry Unit) :=
  let removed := registry.remove id
  match removed.answer with
  | .error error => .ok (.refuse removed.after error)
  | .ok handle => removed.after.act handle fun conversation => .ok ⟨.ok (), conversation.burn⟩

/-- Seal a message in a registered conversation. -/
def send (registry : Registry) (id : String) (message : List UInt8) :
    Checked (Reply Registry (List UInt8)) :=
  match registry.get id with
  | .error error => .ok (.refuse registry error)
  | .ok handle => registry.act handle fun conversation => conversation.send message

/-- Hand an envelope to the conversation that it is addressed to. -/
def receive (registry : Registry) (envelope : Envelope) : Checked (Reply Registry Receipt) :=
  match registry.get envelope.conversation with
  | .error error => .ok (.refuse registry error)
  | .ok handle => registry.act handle fun conversation => conversation.receiveEnvelope envelope

/-- How many conversations are registered. -/
def size (registry : Registry) : Nat :=
  registry.entries.length

/-- The identifiers of the registered conversations, in order. -/
def ids (registry : Registry) : List String :=
  (registry.entries.map (·.1)).mergeSort

end Registry

end OneTimePad
