import OneTimePad.Proofs.Conversation.Identity
import OneTimePad.Registry

/-!
# Requests to a registry

A request is about one identifier.  If a conversation is registered under it,
the request looks at that conversation and may leave another one in its place, or
take it off the registry; if there is none, only registering does anything.
Besides, whoever has a handle may use the conversation behind it, whether it is
still registered or not.

In every registry that comes about like this, each conversation is registered
under its own identifier, and no identifier is registered twice.
-/

namespace OneTimePad.Registry

/-- A use of one operation of a registry.  The list of the identifiers is a
function of the registry, and no request. -/
inductive Request where
  | insert (conversation : Conversation)
  | get (id : String)
  | remove (id : String)
  | burn (id : String)
  | send (id : String) (message : List UInt8)
  | receive (envelope : Envelope)

/-- What a request comes to. -/
inductive Response where
  | handle (answer : Except LedgerError Handle)
  | burned (answer : Except LedgerError Unit)
  | sent (answer : Except LedgerError (List UInt8))
  | received (answer : Except LedgerError Receipt)

/-- The request was refused. -/
def Response.Failed : Response → Prop
  | handle answer => ∃ error, answer = .error error
  | burned answer => ∃ error, answer = .error error
  | sent answer => ∃ error, answer = .error error
  | received answer => ∃ error, answer = .error error

namespace Request

/-- The identifier that a request is about. -/
def target : Request → String
  | insert conversation => conversation.id
  | get id => id
  | remove id => id
  | burn id => id
  | send id _ => id
  | receive envelope => envelope.conversation

/-- A conversation to register was begun or restored, and a message to send is
short enough to be a byte string. -/
def Allowed : Request → Prop
  | insert conversation => conversation.Reachable
  | send _ message => (Move.send message).Sized
  | _ => True

end Request

/-- Make a request. -/
def perform (registry : Registry) : Request → Checked (Response × Registry)
  | .insert conversation =>
      let reply := registry.insert conversation
      return (.handle reply.answer, reply.after)
  | .get id => return (.handle (registry.get id), registry)
  | .remove id =>
      let reply := registry.remove id
      return (.handle reply.answer, reply.after)
  | .burn id => do
      let reply ← registry.burn id
      return (.burned reply.answer, reply.after)
  | .send id message => do
      let reply ← registry.send id message
      return (.sent reply.answer, reply.after)
  | .receive envelope => do
      let reply ← registry.receive envelope
      return (.received reply.answer, reply.after)

/-- Make several requests, one after the other. -/
def run (registry : Registry) : List Request → Checked (List Response × Registry)
  | [] => return ([], registry)
  | request :: requests => do
      let (response, middle) ← registry.perform request
      let (responses, final) ← middle.run requests
      return (response :: responses, final)

/-- Make a move of the conversation behind a handle, under its lock. -/
def use (registry : Registry) (handle : Handle) (move : Move) :
    Checked (Reply Registry Outcome) :=
  registry.act handle fun conversation => do
    let (outcome, after) ← conversation.play move
    return ⟨.ok outcome, after⟩

/-- What becomes of a registry that was empty, by requests and by moves of the
conversations behind its handles. -/
inductive Reachable : Registry → Prop where
  | empty : Reachable {}
  | performed {registry after : Registry} {request : Request} {response : Response}
      (reachable : Reachable registry) (allowed : request.Allowed)
      (performed : registry.perform request = .ok (response, after)) : Reachable after
  | used {registry : Registry} {handle : Handle} {move : Move} {reply : Reply Registry Outcome}
      (reachable : Reachable registry) (used : registry.use handle move = .ok reply) :
      Reachable reply.after

variable {registry : Registry} {id other : String} {handle elsewhere : Handle}
  {conversation after : Conversation} {stays : Bool}

/-! ## Handles -/

theorem lock_eq_ok_iff :
    registry.lock handle = .ok conversation ↔
      registry.cells[handle.index]? = some ⟨conversation, false⟩ := by
  unfold lock
  cases registry.cells[handle.index]? with
  | none => simp
  | some cell =>
      rcases cell with ⟨content, poisoned⟩
      cases poisoned <;> simp

theorem index_lt_of_lock (locked : registry.lock handle = .ok conversation) :
    handle.index < registry.cells.length := by
  rw [lock_eq_ok_iff] at locked
  exact (List.getElem?_eq_some_iff.mp locked).1

/-- The handle of the conversation that is registered next. -/
def fresh (registry : Registry) : Handle :=
  ⟨registry.cells.length⟩

theorem ne_fresh_of_lock (locked : registry.lock handle = .ok conversation) :
    handle ≠ registry.fresh := by
  rintro rfl
  exact absurd (index_lt_of_lock locked) (Nat.lt_irrefl _)

theorem get_cases (registry : Registry) (id : String) :
    (∃ handle, registry.get id = .ok handle) ∨
      registry.get id = .error (.unknownConversation id) := by
  unfold get
  cases registry.entries.lookup id with
  | none => exact .inr rfl
  | some handle => exact .inl ⟨handle, rfl⟩

theorem lookup_eq_none_of_get (free : registry.get id = .error (.unknownConversation id)) :
    registry.entries.lookup id = none := by
  unfold get at free
  cases found : registry.entries.lookup id with
  | none => rfl
  | some handle => simp [found] at free

theorem lookup_eq_some_of_get (found : registry.get id = .ok handle) :
    registry.entries.lookup id = some handle := by
  unfold get at found
  cases known : registry.entries.lookup id with
  | none => simp [known] at found
  | some other =>
      rw [known] at found
      exact congrArg some (Except.ok.inj found)

/-- The identifiers that are registered are those that something is found
under. -/
theorem mem_keys_iff :
    id ∈ registry.entries.map Prod.fst ↔ ∃ handle, registry.get id = .ok handle := by
  constructor
  · intro mem
    rcases registry.get_cases id with found | free
    · exact found
    · rcases List.mem_map.mp mem with ⟨entry, entryMem, rfl⟩
      have apart := List.lookup_eq_none_iff.mp (lookup_eq_none_of_get free) entry entryMem
      exact absurd rfl (bne_iff_ne.mp apart)
  · rintro ⟨handle, found⟩
    rcases List.lookup_eq_some_iff.mp (lookup_eq_some_of_get found) with ⟨front, back, same, -⟩
    rw [same]
    exact List.mem_map.mpr ⟨(id, handle), List.mem_append_right _ List.mem_cons_self, rfl⟩

/-! ## Changes to what is registered -/

/-- Put a conversation behind a handle, and take the identifier off the registry
unless it stays. -/
def amend (registry : Registry) (id : String) (handle : Handle) (conversation : Conversation)
    (stays : Bool) : Registry :=
  { cells := registry.cells.modify handle.index fun cell => { cell with conversation }
    entries :=
      if stays then registry.entries else registry.entries.filter fun entry => entry.1 ≠ id }

/-- To use a conversation does not take it off the registry. -/
theorem store_eq_amend (registry : Registry) (id : String) (handle : Handle)
    (conversation : Conversation) :
    registry.store handle conversation = registry.amend id handle conversation true :=
  rfl

/-- Register a conversation under a new handle. -/
def register (registry : Registry) (conversation : Conversation) : Registry :=
  { cells := registry.cells ++ [{ conversation }]
    entries := (conversation.id, registry.fresh) :: registry.entries }

theorem lookup_filter_ne (entries : List (String × Handle)) (id other : String) :
    (entries.filter fun entry => entry.1 ≠ id).lookup other =
      if other = id then none else entries.lookup other := by
  induction entries with
  | nil => simp
  | cons entry entries inductionHypothesis =>
      rcases entry with ⟨name, handle⟩
      by_cases taken : name = id
      · rw [List.filter_cons_of_neg (by simpa using taken), inductionHypothesis, List.lookup_cons]
        by_cases same : other = id
        · rw [if_pos same, if_pos same]
        · have unlike : (other == name) = false := by
            rw [taken]
            exact beq_false_of_ne same
          rw [unlike]
      · rw [List.filter_cons_of_pos (by simpa using taken), List.lookup_cons, List.lookup_cons,
          inductionHypothesis]
        by_cases same : other = id
        · have unlike : (other == name) = false := by
            rw [same]
            exact beq_false_of_ne (Ne.symm taken)
          rw [unlike, if_pos same]
        · rw [if_neg same, if_neg same]

theorem get_amend (registry : Registry) (id other : String) (handle : Handle)
    (conversation : Conversation) (stays : Bool) :
    (registry.amend id handle conversation stays).get other =
      if stays = false ∧ other = id then .error (.unknownConversation other)
      else registry.get other := by
  cases stays with
  | true => rfl
  | false =>
      simp only [get, amend, Bool.false_eq_true, if_false, lookup_filter_ne, true_and]
      by_cases same : other = id
      · rw [if_pos same, if_pos same]
      · rw [if_neg same, if_neg same]

theorem get_amend_of_ne (unlike : other ≠ id) :
    (registry.amend id handle conversation stays).get other = registry.get other := by
  rw [get_amend, if_neg fun both => unlike both.2]

theorem lock_amend_self {before : Conversation} (locked : registry.lock handle = .ok before) :
    (registry.amend id handle conversation stays).lock handle = .ok conversation := by
  rw [lock_eq_ok_iff] at locked ⊢
  simp [amend, locked]

theorem lock_amend_of_ne (unlike : elsewhere ≠ handle) :
    (registry.amend id handle conversation stays).lock elsewhere = registry.lock elsewhere := by
  have away : handle.index ≠ elsewhere.index := by
    intro same
    exact unlike (congrArg Handle.mk same.symm)
  simp [lock, amend, away]

/-- A conversation that stays as it is changes no cell. -/
theorem amend_of_lock (locked : registry.lock handle = .ok conversation) (stays : Bool) :
    registry.amend id handle conversation stays =
      { registry with
        entries :=
          if stays then registry.entries
          else registry.entries.filter fun entry => entry.1 ≠ id } := by
  rw [lock_eq_ok_iff] at locked
  have same : registry.cells.modify handle.index
      (fun cell => { cell with conversation }) = registry.cells := by
    apply List.ext_getElem?
    intro index
    rw [List.getElem?_modify]
    by_cases here : handle.index = index
    · subst here
      simp [locked]
    · simp [here]
  rw [amend, same]

/-- Changes to different conversations can be made in any order. -/
theorem amend_comm (apart : handle ≠ elsewhere) (one two : Conversation) (first second : Bool) :
    (registry.amend id handle one first).amend other elsewhere two second =
      (registry.amend other elsewhere two second).amend id handle one first := by
  have away : handle.index ≠ elsewhere.index := by
    intro same
    exact apart (congrArg Handle.mk same)
  rw [amend, amend, mk.injEq]
  constructor
  · exact List.modify_modify_ne _ _ _ away
  · cases first with
    | true => rfl
    | false =>
        cases second with
        | true => rfl
        | false => simp [amend, List.filter_filter, Bool.and_comm]

theorem modify_append_of_lt {α : Type} {front : List α} {index : Nat} (change : α → α)
    (back : List α) (inside : index < front.length) :
    (front ++ back).modify index change = front.modify index change ++ back := by
  induction front generalizing index with
  | nil => exact absurd inside (Nat.not_lt_zero _)
  | cons head front inductionHypothesis =>
      cases index with
      | zero => rfl
      | succ index => simp [inductionHypothesis (Nat.lt_of_succ_lt_succ inside)]

theorem get_register (registry : Registry) (conversation : Conversation) (other : String) :
    (registry.register conversation).get other =
      if other = conversation.id then .ok registry.fresh else registry.get other := by
  unfold get register
  rw [List.lookup_cons]
  by_cases same : other = conversation.id
  · rw [if_pos same, same, beq_self_eq_true]
  · rw [if_neg same, beq_false_of_ne same]

theorem lock_register_self (registry : Registry) (conversation : Conversation) :
    (registry.register conversation).lock registry.fresh = .ok conversation := by
  rw [lock_eq_ok_iff]
  simp [register, fresh]

theorem lock_register_of_ne (unlike : handle ≠ registry.fresh) :
    (registry.register conversation).lock handle = registry.lock handle := by
  have away : handle.index ≠ registry.cells.length := by
    intro same
    exact unlike (congrArg Handle.mk same)
  have same : (registry.register conversation).cells[handle.index]? =
      registry.cells[handle.index]? := by
    rcases Nat.lt_or_gt_of_ne away with before | beyond
    · exact List.getElem?_append_left before
    · have past : (registry.register conversation).cells.length ≤ handle.index := by
        rw [register, List.length_append]
        exact beyond
      exact (List.getElem?_eq_none past).trans (List.getElem?_eq_none (Nat.le_of_lt beyond)).symm
  rw [lock, lock, same]

/-- Registering a conversation and changing another one can be done in any
order. -/
theorem amend_register {before one : Conversation} (locked : registry.lock handle = .ok before)
    (unlike : conversation.id ≠ id) :
    (registry.register conversation).amend id handle one stays =
      (registry.amend id handle one stays).register conversation := by
  have cells := modify_append_of_lt (fun cell : Cell => { cell with conversation := one })
    [{ conversation }] (index_lt_of_lock locked)
  rw [amend, register, register, amend, mk.injEq]
  constructor
  · exact cells
  · cases stays with
    | true => simp [fresh]
    | false => simp [unlike, fresh]

/-! ## What a request comes to -/

/-- What a request comes to when a conversation is registered under its
identifier: the response, the conversation afterwards, and whether it stays
registered. -/
def Request.meet (handle : Handle) (conversation : Conversation) :
    Request → Checked (Response × Conversation × Bool)
  | insert _ =>
      return (.handle (.error (.duplicateConversation conversation.id)), conversation, true)
  | get _ => return (.handle (.ok handle), conversation, true)
  | remove _ => return (.handle (.ok handle), conversation, false)
  | burn _ => return (.burned (.ok ()), conversation.burn, false)
  | send _ message => do
      let reply ← conversation.send message
      return (.sent reply.answer, reply.after, true)
  | receive envelope => do
      let reply ← conversation.receiveEnvelope envelope
      return (.received reply.answer, reply.after, true)

/-- What a request comes to when no conversation is registered under its
identifier. -/
def Request.miss (registry : Registry) : Request → Response × Registry
  | insert conversation =>
      (.handle (.ok registry.fresh), registry.register conversation)
  | get id => (.handle (.error (.unknownConversation id)), registry)
  | remove id => (.handle (.error (.unknownConversation id)), registry)
  | burn id => (.burned (.error (.unknownConversation id)), registry)
  | send id _ => (.sent (.error (.unknownConversation id)), registry)
  | receive envelope =>
      (.received (.error (.unknownConversation envelope.conversation)), registry)

/-- A conversation that is registered under its own identifier, and its
handle. -/
structure Holds (registry : Registry) (handle : Handle) (conversation : Conversation) : Prop where
  found : registry.get conversation.id = .ok handle
  locked : registry.lock handle = .ok conversation

theorem perform_insert_of_free
    (free : registry.get conversation.id = .error (.unknownConversation conversation.id)) :
    registry.perform (.insert conversation) =
      .ok (.handle (.ok registry.fresh), registry.register conversation) := by
  have absent : registry.entries.lookup conversation.id = none := lookup_eq_none_of_get free
  simp [perform, insert, absent, register, fresh]

theorem perform_of_free {request : Request}
    (free : registry.get request.target = .error (.unknownConversation request.target)) :
    registry.perform request = .ok (request.miss registry) := by
  cases request with
  | insert conversation => exact perform_insert_of_free free
  | get id =>
      have unknown : registry.get id = .error (.unknownConversation id) := free
      simp [perform, unknown, Request.miss]
  | remove id =>
      have unknown : registry.get id = .error (.unknownConversation id) := free
      simp [perform, remove, unknown, Request.miss, Reply.refuse]
  | burn id =>
      have unknown : registry.get id = .error (.unknownConversation id) := free
      simp [perform, burn, remove, unknown, Request.miss, Reply.refuse]
  | send id message =>
      have unknown : registry.get id = .error (.unknownConversation id) := free
      simp [perform, send, unknown, Request.miss, Reply.refuse]
  | receive envelope =>
      have unknown : registry.get envelope.conversation =
          .error (.unknownConversation envelope.conversation) := free
      simp [perform, receive, unknown, Request.miss, Reply.refuse]

theorem act_of_lock {α : Type} (action : Conversation → Checked (Reply Conversation α))
    (locked : registry.lock handle = .ok conversation) :
    registry.act handle action = do
      let reply ← action conversation
      return ⟨reply.answer, registry.store handle reply.after⟩ := by
  rw [act, locked]

section Holds

variable (holds : registry.Holds handle conversation)

include holds

theorem remove_of_holds :
    registry.remove conversation.id =
      ⟨.ok handle, registry.amend conversation.id handle conversation false⟩ := by
  rw [amend_of_lock holds.locked, remove, holds.found]
  rfl

theorem burn_of_holds :
    registry.burn conversation.id =
      .ok ⟨.ok (), registry.amend conversation.id handle conversation.burn false⟩ := by
  have locked : ({ registry with
      entries := registry.entries.filter fun entry => entry.1 ≠ conversation.id } :
        Registry).lock handle = .ok conversation :=
    holds.locked
  simp only [burn, remove, holds.found, act_of_lock _ locked]
  rfl

theorem send_of_holds (message : List UInt8) :
    registry.send conversation.id message = do
      let reply ← conversation.send message
      return ⟨reply.answer, registry.store handle reply.after⟩ := by
  rw [send, holds.found]
  exact act_of_lock _ holds.locked

theorem receive_of_holds {envelope : Envelope}
    (addressed : envelope.conversation = conversation.id) :
    registry.receive envelope = do
      let reply ← conversation.receiveEnvelope envelope
      return ⟨reply.answer, registry.store handle reply.after⟩ := by
  rw [receive, addressed, holds.found]
  exact act_of_lock _ holds.locked

theorem insert_of_holds {others : Conversation} (taken : others.id = conversation.id) :
    registry.insert others = .refuse registry (.duplicateConversation conversation.id) := by
  rw [insert, taken, lookup_eq_some_of_get holds.found]

theorem perform_of_holds {request : Request} (about : request.target = conversation.id) :
    registry.perform request = do
      let (response, after, stays) ← request.meet handle conversation
      return (response, registry.amend conversation.id handle after stays) := by
  have same : registry.amend conversation.id handle conversation true = registry :=
    amend_of_lock holds.locked true
  cases request with
  | insert others =>
      simp only [perform, insert_of_holds holds about, Request.meet, Checked.pure_eq_ok,
        Checked.ok_bind, same, Reply.refuse]
  | get id =>
      rcases about with rfl
      simp only [perform, holds.found, Request.meet, Checked.pure_eq_ok, Checked.ok_bind, same]
  | remove id =>
      rcases about with rfl
      simp only [perform, remove_of_holds holds, Request.meet, Checked.pure_eq_ok,
        Checked.ok_bind]
  | burn id =>
      rcases about with rfl
      simp only [perform, burn_of_holds holds, Request.meet, Checked.pure_eq_ok, Checked.ok_bind]
  | send id message =>
      rcases about with rfl
      simp only [perform, send_of_holds holds, Request.meet]
      cases conversation.send message <;> rfl
  | receive envelope =>
      simp only [perform, receive_of_holds holds about, Request.meet]
      cases conversation.receiveEnvelope envelope <;> rfl

end Holds

/-! ## What requests keep up -/

/-- What a request leaves of a conversation has made at most a move, and so it
has the same identifier; and if the request is refused, it is the same
conversation, which stays registered. -/
theorem Request.of_meet {request : Request} {response : Response}
    (reachable : conversation.Reachable)
    (met : request.meet handle conversation = .ok (response, after, stays)) :
    after.Reachable ∧ after.id = conversation.id ∧
      (response.Failed → after = conversation ∧ stays = true) := by
  cases request with
  | insert _ =>
      cases met
      exact ⟨reachable, rfl, fun _ => ⟨rfl, rfl⟩⟩
  | get _ =>
      cases met
      exact ⟨reachable, rfl, fun _ => ⟨rfl, rfl⟩⟩
  | remove _ =>
      cases met
      exact ⟨reachable, rfl, nofun⟩
  | burn _ =>
      cases met
      have played : conversation.play .burn = .ok (.burned, conversation.burn) := rfl
      exact ⟨reachable.played played, rfl, nofun⟩
  | send _ message =>
      rcases Checked.bind_eq_ok_iff.mp met with ⟨reply, sent, same⟩
      cases same
      have played := Conversation.play_send sent
      refine ⟨reachable.played played, reachable.id_of_play played, ?_⟩
      rintro ⟨error, failed⟩
      have effect := reachable.sound.effect_of_play played
      exact ⟨effect.eq_of_refused (.inl (congrArg Outcome.sent failed)), rfl⟩
  | receive envelope =>
      rcases Checked.bind_eq_ok_iff.mp met with ⟨reply, received, same⟩
      cases same
      have played := Conversation.play_receiveEnvelope received
      refine ⟨reachable.played played, reachable.id_of_play played, ?_⟩
      rintro ⟨error, failed⟩
      have effect := reachable.sound.effect_of_play played
      exact ⟨effect.eq_of_refused (.inr (congrArg Outcome.received failed)), rfl⟩

/-- Every request on a message that fits into memory is answered. -/
theorem Request.exists_meet {request : Request} (reachable : conversation.Reachable)
    (allowed : request.Allowed) (handle : Handle) :
    ∃ response after stays, request.meet handle conversation = .ok (response, after, stays) := by
  cases request with
  | send _ message =>
      rcases reachable.exists_reply_of_send allowed with ⟨reply, sent⟩
      exact ⟨.sent reply.answer, reply.after, true, by simp [meet, sent]⟩
  | receive envelope =>
      rcases reachable.exists_reply_of_receive envelope with ⟨reply, received⟩
      exact ⟨.received reply.answer, reply.after, true, by simp [meet, received]⟩
  | _ => exact ⟨_, _, _, rfl⟩

/-- Conversations are registered under their own identifiers, each identifier
once, and all conversations behind handles are ones that make moves. -/
structure Tidy (registry : Registry) : Prop where
  distinct : (registry.entries.map Prod.fst).Nodup
  keyed : ∀ {id : String} {handle : Handle}, registry.get id = .ok handle →
    ∃ conversation, conversation.id = id ∧ registry.lock handle = .ok conversation
  reachable : ∀ {handle : Handle} {conversation : Conversation},
    registry.lock handle = .ok conversation → conversation.Reachable

theorem tidy_empty : Tidy {} := by
  refine ⟨List.nodup_nil, nofun, ?_⟩
  intro handle conversation locked
  exact absurd (index_lt_of_lock locked) (Nat.not_lt_zero _)

theorem Tidy.amend {before : Conversation} (tidy : registry.Tidy)
    (locked : registry.lock handle = .ok before) (reachable : after.Reachable)
    (same : after.id = before.id) (id : String) (stays : Bool) :
    (registry.amend id handle after stays).Tidy := by
  refine ⟨?_, ?_, ?_⟩
  · cases stays with
    | true => exact tidy.distinct
    | false => exact tidy.distinct.sublist (List.filter_sublist.map _)
  · intro other elsewhere found
    rw [get_amend] at found
    split at found
    · cases found
    · rcases tidy.keyed found with ⟨conversation, name, behind⟩
      by_cases here : elsewhere = handle
      · subst here
        rw [locked] at behind
        rcases Except.ok.inj behind with rfl
        exact ⟨after, same.trans name, lock_amend_self locked⟩
      · exact ⟨conversation, name, (lock_amend_of_ne here).trans behind⟩
  · intro elsewhere conversation behind
    by_cases here : elsewhere = handle
    · subst here
      rw [lock_amend_self locked] at behind
      rcases Except.ok.inj behind with rfl
      exact reachable
    · rw [lock_amend_of_ne here] at behind
      exact tidy.reachable behind

theorem Tidy.register (tidy : registry.Tidy) (reachable : conversation.Reachable)
    (free : registry.get conversation.id = .error (.unknownConversation conversation.id)) :
    (registry.register conversation).Tidy := by
  refine ⟨?_, ?_, ?_⟩
  · refine List.nodup_cons.mpr ⟨?_, tidy.distinct⟩
    intro mem
    rcases mem_keys_iff.mp mem with ⟨handle, found⟩
    rw [free] at found
    cases found
  · intro other elsewhere found
    rw [get_register] at found
    split at found
    · rename_i same
      rcases Except.ok.inj found with rfl
      exact ⟨conversation, same.symm, lock_register_self registry conversation⟩
    · rcases tidy.keyed found with ⟨known, name, behind⟩
      exact ⟨known, name, (lock_register_of_ne (ne_fresh_of_lock behind)).trans behind⟩
  · intro elsewhere known behind
    by_cases here : elsewhere = registry.fresh
    · subst here
      rw [lock_register_self] at behind
      rcases Except.ok.inj behind with rfl
      exact reachable
    · rw [lock_register_of_ne here] at behind
      exact tidy.reachable behind

/-- What is found under an identifier is held. -/
theorem Tidy.exists_holds (tidy : registry.Tidy) (found : registry.get id = .ok handle) :
    ∃ conversation, conversation.id = id ∧ registry.Holds handle conversation := by
  rcases tidy.keyed found with ⟨conversation, rfl, locked⟩
  exact ⟨conversation, rfl, found, locked⟩

/-- Every request keeps a registry tidy. -/
theorem Tidy.perform (tidy : registry.Tidy) {next : Registry} {request : Request}
    {response : Response} (allowed : request.Allowed)
    (performed : registry.perform request = .ok (response, next)) : next.Tidy := by
  rcases registry.get_cases request.target with ⟨handle, found⟩ | free
  · rcases tidy.exists_holds found with ⟨conversation, name, holds⟩
    rw [perform_of_holds holds name.symm] at performed
    rcases Checked.bind_eq_ok_iff.mp performed with ⟨⟨answer, after, stays⟩, met, same⟩
    cases same
    rcases Request.of_meet (tidy.reachable holds.locked) met with ⟨reachable, kept, -⟩
    exact tidy.amend holds.locked reachable kept _ _
  · rw [perform_of_free free] at performed
    cases request with
    | insert conversation =>
        cases performed
        exact tidy.register allowed free
    | _ =>
        cases performed
        exact tidy

/-- So does every use of a handle. -/
theorem Tidy.use (tidy : registry.Tidy) {move : Move} {reply : Reply Registry Outcome}
    (used : registry.use handle move = .ok reply) : reply.after.Tidy := by
  cases locked : registry.lock handle with
  | error error =>
      simp only [Registry.use, act, locked, Checked.pure_eq_ok, Except.ok.injEq] at used
      rw [← used]
      exact tidy
  | ok conversation =>
      rw [Registry.use, act_of_lock _ locked] at used
      rcases Checked.bind_eq_ok_iff.mp used with ⟨result, acted, same⟩
      rcases Checked.bind_eq_ok_iff.mp acted with ⟨⟨outcome, after⟩, played, again⟩
      cases same
      cases again
      have reachable := tidy.reachable locked
      rw [store_eq_amend registry conversation.id]
      exact tidy.amend locked (reachable.played played) (reachable.id_of_play played) _ _

theorem Reachable.tidy (reachable : registry.Reachable) : registry.Tidy := by
  induction reachable with
  | empty => exact tidy_empty
  | performed _ allowed performed inductionHypothesis =>
      exact inductionHypothesis.perform allowed performed
  | used _ used inductionHypothesis => exact inductionHypothesis.use used

theorem Reachable.run {requests : List Request} {responses : List Response} {final : Registry}
    (reachable : registry.Reachable) (allowed : ∀ request ∈ requests, request.Allowed)
    (ran : registry.run requests = .ok (responses, final)) : final.Reachable := by
  induction requests generalizing registry responses with
  | nil =>
      obtain ⟨-, rfl⟩ := Prod.mk.inj (Except.ok.inj ran)
      exact reachable
  | cons request requests inductionHypothesis =>
      rcases List.forall_mem_cons.mp allowed with ⟨first, rest⟩
      rcases Checked.bind_eq_ok_iff.mp ran with ⟨⟨response, middle⟩, performed, others⟩
      rcases Checked.bind_eq_ok_iff.mp others with ⟨⟨answers, last⟩, restRan, same⟩
      obtain ⟨-, rfl⟩ := Prod.mk.inj (Except.ok.inj same)
      exact inductionHypothesis (.performed reachable first performed) rest restRan

end OneTimePad.Registry
