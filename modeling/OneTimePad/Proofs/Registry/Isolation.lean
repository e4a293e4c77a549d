import Mathlib.Logic.Equiv.Basic
import OneTimePad.Proofs.Registry.Basic

/-!
# Isolation and routing

A registry routes every request to the conversation that is registered under its
identifier, and to no other one.  What the request comes to is what the
conversation answers; nothing but this conversation changes behind any handle,
and nothing but this identifier on the registry.  A request that is refused
changes nothing at all.

So requests about different identifiers do not meet, and may change places.  Only
when both of them register a conversation is there a difference: the two new
handles trade their names.
-/

namespace OneTimePad.Registry

/-! ## Renaming -/

/-- A response with other names for the handles. -/
def Response.rename (names : Equiv.Perm Handle) : Response → Response
  | handle answer => handle (answer.map names)
  | response => response

/-- The same registry with other names for the handles. -/
structure Renamed (names : Equiv.Perm Handle) (registry renamed : Registry) : Prop where
  get : ∀ id, renamed.get id = (registry.get id).map names
  lock : ∀ handle, renamed.lock (names handle) = registry.lock handle

/-- The request would register a conversation. -/
def Request.Inserts : Request → Prop
  | insert _ => True
  | _ => False

/-- Two requests may change places.  Handles that are there keep their names, and
if the requests do not both register a conversation, so do all handles, and the
same registry comes out. -/
def Commute (registry : Registry) (first second : Request) : Prop :=
  ∃ (names : Equiv.Perm Handle) (one two : Response) (final swapped : Registry),
    registry.run [first, second] = .ok ([one, two], final) ∧
      registry.run [second, first] = .ok ([two.rename names, one.rename names], swapped) ∧
      Renamed names final swapped ∧
      (∀ handle conversation, registry.lock handle = .ok conversation → names handle = handle) ∧
      (first.Inserts ∧ second.Inserts ∨ names = 1 ∧ swapped = final)

variable {registry middle final : Registry} {id other : String} {handle elsewhere : Handle}
  {conversation after : Conversation} {stays : Bool} {first second request : Request}
  {one two : Response}

theorem Response.rename_one (response : Response) : response.rename 1 = response := by
  cases response with
  | handle answer => cases answer <;> rfl
  | _ => rfl

theorem renamed_one (registry : Registry) : Renamed 1 registry registry := by
  refine ⟨?_, fun _ => rfl⟩
  intro id
  cases registry.get id <;> rfl

/-- Requests that come to the same in both orders may change places. -/
theorem commute_of_run (forth : registry.run [first, second] = .ok ([one, two], final))
    (back : registry.run [second, first] = .ok ([two, one], final)) :
    registry.Commute first second := by
  refine ⟨1, one, two, final, final, forth, ?_, renamed_one final, fun _ _ _ => rfl,
    .inr ⟨rfl, rfl⟩⟩
  rw [Response.rename_one, Response.rename_one]
  exact back

theorem run_pair (performed : registry.perform first = .ok (one, middle))
    (next : middle.perform second = .ok (two, final)) :
    registry.run [first, second] = .ok ([one, two], final) := by
  simp [run, performed, next]

/-! ## Requests about different identifiers -/

theorem perform_of_meet {response : Response} (holds : registry.Holds handle conversation)
    (about : request.target = conversation.id)
    (met : request.meet handle conversation = .ok (response, after, stays)) :
    registry.perform request =
      .ok (response, registry.amend conversation.id handle after stays) := by
  rw [perform_of_holds holds about, met]
  rfl

/-- A conversation is still held when another one has changed. -/
theorem Holds.amend {held : Conversation} (holds : registry.Holds handle held)
    (apart : handle ≠ elsewhere) (unlike : held.id ≠ other) (changed : Conversation)
    (stays : Bool) : (registry.amend other elsewhere changed stays).Holds handle held :=
  ⟨(get_amend_of_ne unlike).trans holds.found, (lock_amend_of_ne apart).trans holds.locked⟩

/-- Conversations with different identifiers are behind different handles. -/
theorem Holds.ne {others : Conversation} (holds : registry.Holds handle conversation)
    (also : registry.Holds elsewhere others) (unlike : conversation.id ≠ others.id) :
    handle ≠ elsewhere := by
  rintro rfl
  have same := holds.locked.symm.trans also.locked
  exact unlike (congrArg Conversation.id (Except.ok.inj same))

/-- What a request comes to when nothing is registered under its identifier has
nothing to do with a conversation under another one. -/
theorem miss_amend {before : Conversation} (locked : registry.lock handle = .ok before)
    (unlike : request.target ≠ id) :
    request.miss (registry.amend id handle after stays) =
      ((request.miss registry).1, (request.miss registry).2.amend id handle after stays) := by
  cases request with
  | insert conversation =>
      have same : (registry.amend id handle after stays).fresh = registry.fresh :=
        congrArg Handle.mk (List.length_modify _ _ _)
      simp only [Request.miss, same, amend_register locked unlike]
  | _ => rfl

theorem get_miss (unlike : id ≠ request.target) :
    (request.miss registry).2.get id = registry.get id := by
  cases request with
  | insert added => exact (get_register _ _ _).trans (if_neg unlike)
  | _ => rfl

theorem lock_miss (locked : registry.lock handle = .ok conversation) :
    (request.miss registry).2.lock handle = .ok conversation := by
  cases request with
  | insert added => exact (lock_register_of_ne (ne_fresh_of_lock locked)).trans locked
  | _ => exact locked

theorem Holds.miss (holds : registry.Holds handle conversation)
    (unlike : conversation.id ≠ request.target) :
    (request.miss registry).2.Holds handle conversation :=
  ⟨(get_miss unlike).trans holds.found, lock_miss holds.locked⟩

theorem Request.Inserts.exists_eq (inserts : request.Inserts) :
    ∃ conversation, request = .insert conversation := by
  cases request with
  | insert conversation => exact ⟨conversation, rfl⟩
  | _ => exact inserts.elim

/-- Only registering does anything where nothing is registered. -/
theorem miss_of_not_inserts (quiet : ¬ request.Inserts) :
    ∃ response, ∀ registry, request.miss registry = (response, registry) := by
  cases request with
  | insert conversation => exact absurd trivial quiet
  | _ => exact ⟨_, fun _ => rfl⟩

/-- Whatever is registered first, the second handle is the same. -/
theorem fresh_register_eq (registry : Registry) (added others : Conversation) :
    (registry.register added).fresh = (registry.register others).fresh := by
  simp [fresh, register]

theorem fresh_ne_fresh_register (registry : Registry) (added : Conversation) :
    registry.fresh ≠ (registry.register added).fresh := by
  simp [fresh, register]

/-- A handle that is there is neither of the next two. -/
theorem swap_fresh_of_lock (locked : registry.lock handle = .ok conversation)
    (added : Conversation) :
    Equiv.swap registry.fresh (registry.register added).fresh handle = handle := by
  have later : (registry.register added).lock handle = .ok conversation :=
    (lock_register_of_ne (ne_fresh_of_lock locked)).trans locked
  exact Equiv.swap_apply_of_ne_of_ne (ne_fresh_of_lock locked) (ne_fresh_of_lock later)

/-- Two conversations that are registered in either order come behind the same
two handles, the other way round. -/
theorem Tidy.renamed_register (tidy : registry.Tidy) {added others : Conversation}
    (unlike : added.id ≠ others.id) :
    Renamed (Equiv.swap registry.fresh (registry.register added).fresh)
      ((registry.register added).register others)
      ((registry.register others).register added) := by
  have second := registry.fresh_register_eq others added
  have apart := registry.fresh_ne_fresh_register added
  constructor
  · intro id
    rw [get_register, get_register, get_register, get_register, second]
    by_cases isAdded : id = added.id
    · rw [if_pos isAdded, if_neg (isAdded ▸ unlike), if_pos isAdded]
      exact congrArg Except.ok (Equiv.swap_apply_left _ _).symm
    · rw [if_neg isAdded, if_neg isAdded]
      by_cases isOther : id = others.id
      · rw [if_pos isOther, if_pos isOther]
        exact congrArg Except.ok (Equiv.swap_apply_right _ _).symm
      · rw [if_neg isOther, if_neg isOther]
        rcases registry.get_cases id with ⟨handle, found⟩ | free
        · rcases tidy.keyed found with ⟨conversation, -, locked⟩
          rw [found]
          exact congrArg Except.ok (swap_fresh_of_lock locked added).symm
        · rw [free]
          rfl
  · intro handle
    by_cases isFirst : handle = registry.fresh
    · rw [isFirst, Equiv.swap_apply_left, ← second, lock_register_self,
        lock_register_of_ne apart, lock_register_self]
    · by_cases isSecond : handle = (registry.register added).fresh
      · rw [isSecond, Equiv.swap_apply_right, lock_register_self,
          lock_register_of_ne (second ▸ apart), lock_register_self]
      · rw [Equiv.swap_apply_of_ne_of_ne isFirst isSecond, lock_register_of_ne isSecond,
          lock_register_of_ne isFirst, lock_register_of_ne (second ▸ isSecond),
          lock_register_of_ne isFirst]

section Commutation

variable (tidy : registry.Tidy) (firstAllowed : first.Allowed) (secondAllowed : second.Allowed)

include tidy

include firstAllowed secondAllowed in
/-- Both identifiers are registered. -/
theorem Tidy.commute_of_holds {others : Conversation}
    (holds : registry.Holds handle conversation) (about : first.target = conversation.id)
    (also : registry.Holds elsewhere others) (aboutOther : second.target = others.id)
    (unlike : conversation.id ≠ others.id) : registry.Commute first second := by
  have apart := holds.ne also unlike
  rcases Request.exists_meet (tidy.reachable holds.locked) firstAllowed handle with
    ⟨one, changed, stays, met⟩
  rcases Request.exists_meet (tidy.reachable also.locked) secondAllowed elsewhere with
    ⟨two, otherChanged, otherStays, metOther⟩
  have forth := run_pair (perform_of_meet holds about met)
    (perform_of_meet (also.amend apart.symm unlike.symm changed stays) aboutOther metOther)
  have back := run_pair (perform_of_meet also aboutOther metOther)
    (perform_of_meet (holds.amend apart unlike otherChanged otherStays) about met)
  rw [amend_comm apart.symm] at back
  exact commute_of_run forth back

include firstAllowed in
/-- Only the first identifier is registered. -/
theorem Tidy.runs_of_free (holds : registry.Holds handle conversation)
    (about : first.target = conversation.id)
    (free : registry.get second.target = .error (.unknownConversation second.target))
    (unlike : second.target ≠ conversation.id) :
    ∃ one two final, registry.run [first, second] = .ok ([one, two], final) ∧
      registry.run [second, first] = .ok ([two, one], final) := by
  rcases Request.exists_meet (tidy.reachable holds.locked) firstAllowed handle with
    ⟨one, changed, stays, met⟩
  have stillFree : (registry.amend conversation.id handle changed stays).get second.target = _ :=
    (get_amend_of_ne unlike).trans free
  have next := perform_of_free stillFree
  rw [miss_amend holds.locked unlike] at next
  exact ⟨_, _, _, run_pair (perform_of_meet holds about met) next,
    run_pair (perform_of_free free) (perform_of_meet (holds.miss unlike.symm) about met)⟩

omit tidy in
/-- Neither identifier is registered, and the first request registers nothing. -/
theorem runs_of_not_inserts (quiet : ¬ first.Inserts)
    (free : registry.get first.target = .error (.unknownConversation first.target))
    (alsoFree : registry.get second.target = .error (.unknownConversation second.target))
    (unlike : first.target ≠ second.target) :
    ∃ one two final, registry.run [first, second] = .ok ([one, two], final) ∧
      registry.run [second, first] = .ok ([two, one], final) := by
  rcases miss_of_not_inserts quiet with ⟨response, misses⟩
  have performed := perform_of_free free
  rw [misses] at performed
  have last := perform_of_free ((get_miss unlike).trans free)
  rw [misses] at last
  exact ⟨_, _, _, run_pair performed (perform_of_free alsoFree),
    run_pair (perform_of_free alsoFree) last⟩

/-- Two conversations are registered. -/
theorem Tidy.commute_inserts {added others : Conversation} (unlike : added.id ≠ others.id)
    (free : registry.get added.id = .error (.unknownConversation added.id))
    (alsoFree : registry.get others.id = .error (.unknownConversation others.id)) :
    registry.Commute (.insert added) (.insert others) := by
  have forth := run_pair (perform_insert_of_free free)
    (perform_insert_of_free ((get_register _ _ _).trans ((if_neg unlike.symm).trans alsoFree)))
  have back := run_pair (perform_insert_of_free alsoFree)
    (perform_insert_of_free ((get_register _ _ _).trans ((if_neg unlike).trans free)))
  refine ⟨_, _, _, _, _, forth, ?_, tidy.renamed_register unlike,
    fun _ _ locked => swap_fresh_of_lock locked added, .inl ⟨trivial, trivial⟩⟩
  have oneName : (Response.handle (.ok registry.fresh)).rename
      (Equiv.swap registry.fresh (registry.register added).fresh) =
        .handle (.ok (registry.register others).fresh) := by
    rw [registry.fresh_register_eq others added]
    exact congrArg (fun name => Response.handle (.ok name)) (Equiv.swap_apply_left _ _)
  have twoName : (Response.handle (.ok (registry.register added).fresh)).rename
      (Equiv.swap registry.fresh (registry.register added).fresh) =
        .handle (.ok registry.fresh) :=
    congrArg (fun name => Response.handle (.ok name)) (Equiv.swap_apply_right _ _)
  rw [oneName, twoName]
  exact back

/-- Requests about different identifiers may change places. -/
theorem Tidy.commute (firstAllowed : first.Allowed) (secondAllowed : second.Allowed)
    (unlike : first.target ≠ second.target) : registry.Commute first second := by
  rcases registry.get_cases first.target with ⟨handle, found⟩ | free
  · rcases tidy.exists_holds found with ⟨conversation, name, holds⟩
    rcases registry.get_cases second.target with ⟨elsewhere, alsoFound⟩ | alsoFree
    · rcases tidy.exists_holds alsoFound with ⟨others, otherName, also⟩
      rw [← name, ← otherName] at unlike
      exact tidy.commute_of_holds firstAllowed secondAllowed holds name.symm also otherName.symm
        unlike
    · rw [← name] at unlike
      rcases tidy.runs_of_free firstAllowed holds name.symm alsoFree unlike.symm with
        ⟨one, two, final, forth, back⟩
      exact commute_of_run forth back
  · rcases registry.get_cases second.target with ⟨elsewhere, alsoFound⟩ | alsoFree
    · rcases tidy.exists_holds alsoFound with ⟨others, otherName, also⟩
      rw [← otherName] at unlike
      rcases tidy.runs_of_free secondAllowed also otherName.symm free unlike with
        ⟨two, one, final, back, forth⟩
      exact commute_of_run forth back
    · by_cases inserts : first.Inserts
      · by_cases alsoInserts : second.Inserts
        · rcases inserts.exists_eq with ⟨added, rfl⟩
          rcases alsoInserts.exists_eq with ⟨others, rfl⟩
          exact tidy.commute_inserts unlike free alsoFree
        · rcases runs_of_not_inserts alsoInserts alsoFree free unlike.symm with
            ⟨two, one, final, back, forth⟩
          exact commute_of_run forth back
      · rcases runs_of_not_inserts inserts free alsoFree unlike with
          ⟨one, two, final, forth, back⟩
        exact commute_of_run forth back

end Commutation

/-! ## Routing -/

/-- This conversation is behind the handle now, and nothing else has changed
behind any handle. -/
structure Puts (registry : Registry) (handle : Handle) (conversation : Conversation)
    (after : Registry) : Prop where
  here : after.lock handle = .ok conversation
  elsewhere : ∀ other, other ≠ handle → after.lock other = registry.lock other

/-- The identifier is free now, and nothing else is found elsewhere. -/
def Drops (registry : Registry) (id : String) (after : Registry) : Prop :=
  ∀ other, after.get other =
    if other = id then .error (.unknownConversation other) else registry.get other

/-- Requests are routed by identifiers, and do not meet. -/
structure Isolated (registry : Registry) : Prop where
  /-- A conversation is found under its own identifier. -/
  keyed : ∀ id handle, registry.get id = .ok handle →
    ∃ conversation, registry.lock handle = .ok conversation ∧ conversation.id = id
  /-- An identifier that is taken is not given away again. -/
  refuses : ∀ conversation handle, registry.get conversation.id = .ok handle →
    registry.insert conversation = .refuse registry (.duplicateConversation conversation.id)
  /-- Otherwise a conversation is registered behind a handle that nothing was
  behind before. -/
  registers : ∀ conversation, (∀ handle, registry.get conversation.id ≠ .ok handle) →
    ∃ handle after, registry.insert conversation = ⟨.ok handle, after⟩ ∧
      (∀ before, registry.lock handle ≠ .ok before) ∧ registry.Puts handle conversation after ∧
      ∀ id, after.get id = if id = conversation.id then .ok handle else registry.get id
  /-- A conversation that is taken off the registry stays behind its handle. -/
  removes : ∀ id handle, registry.get id = .ok handle →
    ∃ after, registry.remove id = ⟨.ok handle, after⟩ ∧ registry.Drops id after ∧
      ∀ other, after.lock other = registry.lock other
  /-- Burning takes a conversation off the registry, and burns it for whoever has
  a handle to it. -/
  burns : ∀ conversation handle, registry.Holds handle conversation →
    ∃ after, registry.burn conversation.id = .ok ⟨.ok (), after⟩ ∧
      registry.Drops conversation.id after ∧ registry.Puts handle conversation.burn after
  /-- A message is sent as the conversation sends it. -/
  sends : ∀ conversation handle message, registry.Holds handle conversation →
    (Move.send message).Sized →
    ∃ reply after, conversation.send message = .ok reply ∧
      registry.send conversation.id message = .ok ⟨reply.answer, after⟩ ∧
      after.entries = registry.entries ∧ registry.Puts handle reply.after after
  /-- An envelope is received as the conversation receives it. -/
  receives : ∀ conversation handle envelope, registry.Holds handle conversation →
    envelope.conversation = conversation.id →
    ∃ reply after, conversation.receiveEnvelope envelope = .ok reply ∧
      registry.receive envelope = .ok ⟨reply.answer, after⟩ ∧
      after.entries = registry.entries ∧ registry.Puts handle reply.after after
  /-- Every request is answered, and changes nothing if it is refused. -/
  unchanged : ∀ request : Request, request.Allowed →
    ∃ response after, registry.perform request = .ok (response, after) ∧
      (response.Failed → after = registry)
  /-- Requests about different identifiers may change places. -/
  commutes : ∀ first second : Request, first.Allowed → second.Allowed →
    first.target ≠ second.target → registry.Commute first second
  /-- The identifiers that something is found under are listed in order, each of
  them once. -/
  ordered : registry.ids.Pairwise (· < ·)
  listed : ∀ id, id ∈ registry.ids ↔ ∃ handle, registry.get id = .ok handle

theorem puts_amend {before : Conversation} (locked : registry.lock handle = .ok before)
    (id : String) (conversation : Conversation) (stays : Bool) :
    registry.Puts handle conversation (registry.amend id handle conversation stays) :=
  ⟨lock_amend_self locked, fun _ => lock_amend_of_ne⟩

theorem drops_amend (registry : Registry) (id : String) (handle : Handle)
    (conversation : Conversation) :
    registry.Drops id (registry.amend id handle conversation false) := by
  intro other
  rw [get_amend]
  simp only [true_and]

theorem puts_register (registry : Registry) (conversation : Conversation) :
    registry.Puts registry.fresh conversation (registry.register conversation) :=
  ⟨lock_register_self registry conversation, fun _ => lock_register_of_ne⟩

/-- Every request is answered; a refused one changes nothing. -/
theorem Tidy.exists_perform (tidy : registry.Tidy) (allowed : request.Allowed) :
    ∃ response after, registry.perform request = .ok (response, after) ∧
      (response.Failed → after = registry) := by
  rcases registry.get_cases request.target with ⟨handle, found⟩ | free
  · rcases tidy.exists_holds found with ⟨conversation, name, holds⟩
    have reachable := tidy.reachable holds.locked
    rcases Request.exists_meet reachable allowed handle with ⟨response, after, stays, met⟩
    refine ⟨_, _, perform_of_meet holds name.symm met, ?_⟩
    intro failed
    rcases (Request.of_meet reachable met).2.2 failed with ⟨rfl, rfl⟩
    exact amend_of_lock holds.locked true
  · refine ⟨_, _, perform_of_free free, ?_⟩
    intro failed
    cases request with
    | insert conversation => exact absurd failed nofun
    | _ => rfl

/-- What a conversation replies is what the registry replies, and only that
conversation goes on. -/
theorem Holds.send (holds : registry.Holds handle conversation) {message : List UInt8}
    {reply : Reply Conversation (List UInt8)} (sent : conversation.send message = .ok reply) :
    ∃ after, registry.send conversation.id message = .ok ⟨reply.answer, after⟩ ∧
      after.entries = registry.entries ∧ registry.Puts handle reply.after after := by
  refine ⟨registry.store handle reply.after, ?_, rfl, puts_amend holds.locked "" _ true⟩
  rw [send_of_holds holds, sent]
  rfl

theorem Holds.receive (holds : registry.Holds handle conversation) {envelope : Envelope}
    {reply : Reply Conversation Receipt} (addressed : envelope.conversation = conversation.id)
    (received : conversation.receiveEnvelope envelope = .ok reply) :
    ∃ after, registry.receive envelope = .ok ⟨reply.answer, after⟩ ∧
      after.entries = registry.entries ∧ registry.Puts handle reply.after after := by
  refine ⟨registry.store handle reply.after, ?_, rfl, puts_amend holds.locked "" _ true⟩
  rw [receive_of_holds holds addressed, received]
  rfl

theorem Tidy.ids_ordered (tidy : registry.Tidy) : registry.ids.Pairwise (· < ·) := by
  have sorted : registry.ids.Pairwise fun left right => decide (left ≤ right) = true := by
    apply List.pairwise_mergeSort
    · intro left middle right
      simp only [decide_eq_true_eq]
      exact String.le_trans
    · intro left right
      simp only [Bool.or_eq_true, decide_eq_true_eq]
      exact String.le_total left right
  have distinct : registry.ids.Nodup := (List.mergeSort_perm _ _).nodup_iff.mpr tidy.distinct
  apply (sorted.and distinct).imp
  rintro left right ⟨le, ne⟩
  exact Std.lt_of_le_of_ne (of_decide_eq_true le) ne

theorem mem_ids_iff : id ∈ registry.ids ↔ ∃ handle, registry.get id = .ok handle := by
  rw [ids, List.mem_mergeSort]
  exact mem_keys_iff

theorem Tidy.isolated (tidy : registry.Tidy) : registry.Isolated where
  keyed := by
    intro id handle found
    rcases tidy.keyed found with ⟨conversation, name, locked⟩
    exact ⟨conversation, locked, name⟩
  refuses := by
    intro conversation handle taken
    rcases tidy.exists_holds taken with ⟨known, name, holds⟩
    rw [insert_of_holds holds name.symm, name]
  registers := by
    intro conversation vacant
    rcases registry.get_cases conversation.id with ⟨handle, found⟩ | free
    · exact absurd found (vacant handle)
    · refine ⟨registry.fresh, registry.register conversation, ?_, ?_,
        puts_register registry conversation, get_register registry conversation⟩
      · rw [insert, lookup_eq_none_of_get free]
        rfl
      · intro before locked
        exact ne_fresh_of_lock locked rfl
  removes := by
    intro id handle found
    rcases tidy.exists_holds found with ⟨conversation, rfl, holds⟩
    refine ⟨_, remove_of_holds holds, drops_amend registry _ handle conversation, ?_⟩
    intro other
    rw [amend_of_lock holds.locked]
    rfl
  burns := by
    intro conversation handle holds
    exact ⟨_, burn_of_holds holds, drops_amend registry _ handle _,
      puts_amend holds.locked _ _ false⟩
  sends := by
    intro conversation handle message holds sized
    rcases (tidy.reachable holds.locked).exists_reply_of_send sized with ⟨reply, sent⟩
    rcases holds.send sent with ⟨after, routed⟩
    exact ⟨reply, after, sent, routed⟩
  receives := by
    intro conversation handle envelope holds addressed
    rcases (tidy.reachable holds.locked).exists_reply_of_receive envelope with
      ⟨reply, received⟩
    rcases holds.receive addressed received with ⟨after, routed⟩
    exact ⟨reply, after, received, routed⟩
  unchanged := fun _ => tidy.exists_perform
  commutes := fun _ _ => tidy.commute
  ordered := tidy.ids_ordered
  listed := fun _ => mem_ids_iff

/-- Whatever has been asked of a registry, and whatever has been done through its
handles, requests are routed by identifiers, and do not meet. -/
theorem isolated_of_reachable (reachable : registry.Reachable) : registry.Isolated :=
  reachable.tidy.isolated

/-- Two conversations are registered, of which the first one was registered
twice: another one like it was taken off the registry, and is still behind the
first handle. -/
def reinserted (old first second : Conversation) : Registry where
  cells := [{ conversation := old }, { conversation := second }, { conversation := first }]
  entries := [(first.id, ⟨2⟩), (second.id, ⟨1⟩)]

section Reinserted

variable {old first second : Conversation} (unlike : second.id ≠ first.id)

theorem holds_reinserted_first : (reinserted old first second).Holds ⟨2⟩ first :=
  ⟨by simp [get, reinserted], rfl⟩

include unlike

theorem holds_reinserted_second : (reinserted old first second).Holds ⟨1⟩ second :=
  ⟨by simp [get, reinserted, List.lookup_cons, beq_false_of_ne unlike], rfl⟩

theorem run_reinsert :
    run {} [.insert first, .insert second, .remove first.id, .insert first] =
      .ok ([.handle (.ok ⟨0⟩), .handle (.ok ⟨1⟩), .handle (.ok ⟨0⟩), .handle (.ok ⟨2⟩)],
        reinserted first first second) := by
  have apart := beq_false_of_ne unlike
  have away := beq_false_of_ne unlike.symm
  simp [run, perform, insert, remove, get, List.lookup_cons, reinserted, apart, away, unlike]

end Reinserted

/-- One of two conversations is taken off the registry, another one like it is
registered, and the old one is burned behind its stale handle.  What is
registered is found as it was, and requests about it do not meet. -/
theorem isolated_of_reachable_stale_handle :
    ∃ first second registry after burned,
      Conversation.begin Conversation.smallPad .initiator {} = pure first ∧
        Conversation.begin (List.replicate 352 1) .responder {} = pure second ∧
        run {} [.insert first, .insert second, .remove first.id, .insert first] =
          .ok ([.handle (.ok ⟨0⟩), .handle (.ok ⟨1⟩), .handle (.ok ⟨0⟩), .handle (.ok ⟨2⟩)],
            registry) ∧
        registry.use ⟨0⟩ .burn = .ok ⟨.ok .burned, after⟩ ∧ after.Isolated ∧
        after.lock ⟨0⟩ = .ok first.burn ∧ after.Holds ⟨2⟩ first ∧ after.Holds ⟨1⟩ second ∧
        after.insert second = .refuse after (.duplicateConversation second.id) ∧
        after.Commute (.burn first.id) (.send second.id [7]) ∧
        after.burn first.id = .ok ⟨.ok (), burned⟩ ∧ burned.lock ⟨2⟩ = .ok first.burn ∧
        burned.lock ⟨1⟩ = .ok second := by
  have inside : ({} : Settings).reserved ≤ (List.replicate 352 (1 : UInt8)).length := by
    rw [List.length_replicate]
    decide
  have fits : (List.replicate 352 (1 : UInt8)).length < wordLimit := by
    rw [List.length_replicate]
    decide
  rcases Conversation.exists_begin_smallPad .initiator with ⟨first, begun⟩
  rcases Conversation.exists_begin rfl inside .responder with ⟨second, secondBegun⟩
  have unlike : second.id ≠ first.id :=
    Conversation.id_ne_of_begin secondBegun begun (by decide +kernel)
  have firstReachable : first.Reachable := .begun Conversation.length_smallPad_lt begun
  have secondReachable : second.Reachable := .begun fits secondBegun
  have allowed : ∀ request ∈ [Request.insert first, .insert second, .remove first.id,
      .insert first], request.Allowed := by
    simp [Request.Allowed, firstReachable, secondReachable]
  have used : (reinserted first first second).use ⟨0⟩ .burn =
      .ok ⟨.ok .burned, reinserted first.burn first second⟩ := rfl
  have isolated :=
    isolated_of_reachable (.used (Reachable.empty.run allowed (run_reinsert unlike)) used)
  have secondHolds : (reinserted first.burn first second).Holds ⟨1⟩ second :=
    holds_reinserted_second unlike
  rcases isolated.burns first ⟨2⟩ holds_reinserted_first with ⟨burned, burns, -, puts⟩
  have sized : (Request.send second.id [7]).Allowed := by
    rw [Request.Allowed, Move.Sized]
    decide
  exact ⟨first, second, _, _, burned, begun, secondBegun, run_reinsert unlike, used, isolated, rfl,
    holds_reinserted_first, secondHolds, isolated.refuses second ⟨1⟩ secondHolds.found,
    isolated.commutes _ _ trivial sized unlike.symm, burns, puts.here,
    (puts.elsewhere ⟨1⟩ (by decide)).trans secondHolds.locked⟩

end OneTimePad.Registry
