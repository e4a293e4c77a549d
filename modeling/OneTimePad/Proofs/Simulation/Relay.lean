import OneTimePad.Proofs.Simulation.Draws
import OneTimePad.Proofs.Simulation.Steps

/-!
# Frames at the relay

What the steps of a simulation do to the frames at the relay.  A delivery takes
one of them away, and puts it back if the frame is kept; a message adds at most
two.  Nothing else changes what is there.
-/

namespace OneTimePad.Simulation

variable {endings : Endings} {before middle after : Simulation}

/-! ## Taking a frame -/

/-- The place at the relay of the frame that is delivered next, and the
generator after it was drawn. -/
def nextPlace (simulation : Simulation) : Option (Nat × Generator) :=
  let (reordered, generator) := simulation.generator.chance simulation.config.reorderRate
  if reordered then Generator.below simulation.relay.length drawTurns generator
  else some (0, generator)

/-- Take the frame at a place of the relay, and put it back at the end if it is
kept. -/
def take (simulation : Simulation) (index : Nat) (generator : Generator) (flight : Flight) :
    Simulation :=
  let (kept, generator) := generator.chance simulation.config.duplicateRate
  { simulation with
    generator
    relay := simulation.relay.eraseIdx index ++ if kept then [flight] else [] }

/-- Whether the next delivery keeps its frame at the relay. -/
def keeps (simulation : Simulation) : Bool :=
  match simulation.nextPlace with
  | none => false
  | some (_, generator) => (generator.chance simulation.config.duplicateRate).1

theorem nextPlace_lt {index : Nat} {generator : Generator} (waiting : before.relay ≠ [])
    (place : before.nextPlace = some (index, generator)) : index < before.relay.length := by
  have positive : 0 < before.relay.length := List.length_pos_iff.mpr waiting
  simp only [nextPlace] at place
  split at place
  · exact Generator.below_lt positive place
  · cases place
    exact positive

theorem relay_take_subset {index : Nat} {generator : Generator} {flight : Flight}
    (waiting : flight ∈ before.relay) :
    (before.take index generator flight).relay ⊆ before.relay := by
  intro other mem
  simp only [take, List.mem_append] at mem
  rcases mem with mem | mem
  · exact List.mem_of_mem_eraseIdx mem
  · split at mem
    · rw [List.mem_singleton.mp mem]
      exact waiting
    · cases mem

theorem yields_takeFlight {holds : Option Flight → Simulation → Prop} :
    Yields endings takeFlight before holds ↔
      match before.nextPlace with
      | none => endings.halt .outOfTurns
      | some (index, generator) =>
          match before.relay[index]? with
          | none => holds none { before with generator }
          | some flight => holds (some flight) (before.take index generator flight) := by
  simp only [takeFlight, yields_bind, yields_get, yields_chance, nextPlace]
  cases reordered : (before.generator.chance before.config.reorderRate).1 with
  | false =>
      cases present : before.relay[0]? with
      | none => simp [present]
      | some flight =>
          cases kept : ((before.generator.chance before.config.reorderRate).2.chance
            before.config.duplicateRate).1 <;> simp [present, take, kept]
  | true =>
      cases drawn : Generator.below before.relay.length drawTurns
          (before.generator.chance before.config.reorderRate).2 with
      | none => simp [drawn]
      | some place =>
          cases present : before.relay[place.1]? with
          | none => simp [drawn, present]
          | some flight =>
              cases kept : (place.2.chance before.config.duplicateRate).1 <;>
                simp [drawn, present, take, kept]

/-- If every frame is kept, so is the next one. -/
theorem keeps_of_sure (sure : before.config.duplicateRate.magnitude = Binary64.one)
    (placed : before.nextPlace ≠ none) : before.keeps = true := by
  unfold keeps
  split
  · contradiction
  · exact Generator.chance_of_sure sure _

/-- If no frame is kept, the next one is not. -/
theorem keeps_of_never (never : before.config.duplicateRate.timesWordRange = 0) :
    before.keeps = false := by
  unfold keeps
  split
  · rfl
  · exact Generator.chance_of_never never _

/-! ## Steps that leave the relay alone -/

@[simp]
theorem config_setParty (simulation : Simulation) (role : Role) (party : Party) :
    (simulation.setParty role party).config = simulation.config := by
  cases role <;> rfl

@[simp]
theorem relay_setParty (simulation : Simulation) (role : Role) (party : Party) :
    (simulation.setParty role party).relay = simulation.relay := by
  cases role <;> rfl

@[simp]
theorem stats_setParty (simulation : Simulation) (role : Role) (party : Party) :
    (simulation.setParty role party).stats = simulation.stats := by
  cases role <;> rfl

@[simp]
theorem party_setParty_self (simulation : Simulation) (role : Role) (party : Party) :
    (simulation.setParty role party).party role = party := by
  cases role <;> rfl

@[simp]
theorem party_setParty_peer (simulation : Simulation) (role : Role) (party : Party) :
    (simulation.setParty role party).party role.peer = simulation.party role.peer := by
  cases role <;> rfl

@[simp]
theorem setParty_party (simulation : Simulation) (role : Role) :
    simulation.setParty role (simulation.party role) = simulation := by
  cases role <;> rfl

@[simp]
theorem setParty_setParty (simulation : Simulation) (role : Role) (party other : Party) :
    (simulation.setParty role party).setParty role other = simulation.setParty role other := by
  cases role <;> rfl

@[simp]
theorem audit_setParty (simulation : Simulation) (role : Role) (party : Party) :
    (simulation.setParty role party).audit = simulation.audit := by
  cases role <;> rfl

/-- Nothing is sent, and the relay is left alone. -/
structure Rests (before after : Simulation) : Prop where
  config : after.config = before.config
  relay : after.relay = before.relay
  sent : after.stats.sent = before.stats.sent

theorem Rests.trans (first : Rests before middle) (last : Rests middle after) :
    Rests before after where
  config := last.config.trans first.config
  relay := last.relay.trans first.relay
  sent := last.sent.trans first.sent

/-- A draw changes nothing but the generator. -/
theorem rests_redraw (before : Simulation) (generator : Generator) :
    Rests before { before with generator } :=
  ⟨rfl, rfl, rfl⟩

theorem rests_transport (bytes : List UInt8) (before : Simulation) :
    Yields .all (transport bytes) before fun _ => Rests before := by
  simp only [transport, yields_bind, yields_get, yields_chance, yields_ite, yields_drawBelow,
    yields_pure]
  constructor
  · intro _
    split
    · trivial
    · exact ⟨rfl, rfl, rfl⟩
  · exact fun _ => ⟨rfl, rfl, rfl⟩

theorem rests_acceptDelivery (flight : Flight) (tampered : Bool) (message : Message)
    (before : Simulation) :
    Yields .all (acceptDelivery flight tampered message) before fun _ => Rests before := by
  simp only [acceptDelivery, yields_bind, yields_ite, yields_fail, yields_get, yields_set,
    yields_modify, halt_all, implies_true, true_and]
  intros
  constructor <;> simp

theorem rests_acceptSkip (flight : Flight) (tampered changed : Bool) (reason : SkipReason)
    (before : Simulation) :
    Yields .all (acceptSkip flight tampered changed reason) before fun _ => Rests before := by
  simp only [acceptSkip, yields_bind, yields_ite, yields_fail, yields_modify, halt_all,
    implies_true, true_and]
  intros
  cases reason <;> exact ⟨rfl, rfl, rfl⟩

theorem rests_acceptRefusal (flight : Flight) (tampered changed : Bool) (error : LedgerError)
    (before : Simulation) :
    Yields .all (acceptRefusal flight tampered changed error) before fun _ => Rests before := by
  simp only [acceptRefusal, yields_bind, yields_ite, yields_fail, yields_modify, halt_all,
    implies_true, true_and, and_true]
  intros
  exact ⟨rfl, rfl, rfl⟩

/-- The checks change nothing at all. -/
theorem yields_check (step : Nat) (before : Simulation) :
    Yields .all (check step) before fun _ after => after = before := by
  simp only [check, yields_bind, yields_get, yields_all_lift]
  intro violations _
  cases violations with
  | nil => rfl
  | cons first others => trivial

/-! ## Deliveries -/

/-- What the simulation makes of the answer to octets that have arrived. -/
def judge (flight : Flight) (tampered changed : Bool) : Except LedgerError Receipt → Step Unit
  | .ok (.delivered message) => acceptDelivery flight tampered message
  | .ok (.skipped reason) => acceptSkip flight tampered changed reason
  | .error error => acceptRefusal flight tampered changed error

/-- Let octets arrive in place of a frame that was taken from the relay. -/
def arrive (flight : Flight) (bytes : List UInt8) (tampered : Bool) : Step Unit := do
  let simulation ← get
  let receiver := simulation.party flight.target
  let reply ← receiver.conversation.receive bytes
  set (simulation.setParty flight.target { receiver with conversation := reply.after })
  let changed := decide (reply.after.snapshot ≠ receiver.conversation.snapshot)
  judge flight tampered changed reply.answer

/-- A delivery takes a frame, carries its octets, and lets them arrive. -/
theorem deliver_eq : deliver = takeFlight >>= fun taken =>
    match taken with
    | none => pure ()
    | some flight => transport flight.bytes >>= fun carried =>
        arrive flight carried.1 carried.2 :=
  rfl

/-- Whatever arrives, the relay is left alone. -/
theorem rests_arrive (flight : Flight) (bytes : List UInt8) (tampered : Bool)
    (before : Simulation) :
    Yields .all (arrive flight bytes tampered) before fun _ => Rests before := by
  simp only [arrive, yields_bind, yields_get, yields_all_lift, yields_set]
  intro reply _
  rcases reply.answer with error | message | reason
  · apply (rests_acceptRefusal ..).mono
    intro _ _ last
    exact .trans (by constructor <;> simp) last
  · apply (rests_acceptDelivery ..).mono
    intro _ _ last
    exact .trans (by constructor <;> simp) last
  · apply (rests_acceptSkip ..).mono
    intro _ _ last
    exact .trans (by constructor <;> simp) last

/-- A delivery takes one frame from the relay, and then leaves it alone. -/
theorem yields_deliver (waiting : before.relay ≠ []) :
    Yields .all deliver before fun _ after => ∃ index generator flight,
      before.nextPlace = some (index, generator) ∧
        Rests (before.take index generator flight) after := by
  simp only [deliver_eq, yields_bind, yields_takeFlight]
  split
  · trivial
  · rename_i index generator place
    rw [List.getElem?_eq_getElem (nextPlace_lt waiting place)]
    apply (rests_transport ..).mono
    intro carried moved rests
    apply (rests_arrive ..).mono
    intro _ after last
    exact ⟨_, _, _, place, rests.trans last⟩

/-- One frame was delivered; the relay has lost it unless it was kept. -/
structure Delivered (before after : Simulation) : Prop where
  placed : before.nextPlace ≠ none
  config : after.config = before.config
  relay : after.relay.length + [before.keeps].count false = before.relay.length
  sent : after.stats.sent = before.stats.sent

theorem delivered_deliver (waiting : before.relay ≠ []) :
    Yields .all deliver before fun _ => Delivered before := by
  apply (yields_deliver waiting).mono
  rintro ⟨⟩ after ⟨index, generator, flight, place, rests⟩
  have inside := nextPlace_lt waiting place
  constructor
  case placed => simp [place]
  case config => exact rests.config
  case relay =>
    rw [rests.relay]
    cases kept : (generator.chance before.config.duplicateRate).1 with
    | false =>
        simp only [keeps, place, kept, take, List.length_append,
          List.length_eraseIdx_of_lt inside, Bool.false_eq_true, if_false, List.length_nil,
          List.count_singleton_self]
        omega
    | true =>
        simp only [keeps, place, kept, take, List.length_append,
          List.length_eraseIdx_of_lt inside, if_true, List.length_singleton]
        change _ + 0 = _
        omega
  case sent => exact rests.sent

/-! ## All steps -/

/-- The relay gains no more frames than this; and if every frame is kept, it has
all that were sent in between. -/
structure Grows (most : Nat) (before after : Simulation) : Prop where
  config : after.config = before.config
  relay : after.relay.length ≤ before.relay.length + most
  sent : before.stats.sent ≤ after.stats.sent
  kept : before.config.duplicateRate.magnitude = Binary64.one →
    before.relay.length + after.stats.sent ≤ after.relay.length + before.stats.sent

theorem Grows.trans {most more : Nat} (first : Grows most before middle)
    (last : Grows more middle after) : Grows (most + more) before after where
  config := last.config.trans first.config
  relay := by
    have := first.relay
    have := last.relay
    omega
  sent := Nat.le_trans first.sent last.sent
  kept := by
    intro sure
    have := first.kept sure
    have := last.kept (by rwa [first.config])
    omega

theorem Rests.grows (most : Nat) (rests : Rests before after) : Grows most before after where
  config := rests.config
  relay := by
    rw [rests.relay]
    exact Nat.le_add_right ..
  sent := Nat.le_of_eq rests.sent.symm
  kept := by
    intro _
    exact Nat.le_of_eq (by rw [rests.relay, rests.sent])

theorem Rests.trans_grows {most : Nat} (first : Rests before middle)
    (last : Grows most middle after) : Grows most before after := by
  have grows := (first.grows 0).trans last
  rwa [Nat.zero_add] at grows

theorem Delivered.grows (most : Nat) (delivered : Delivered before after) :
    Grows most before after where
  config := delivered.config
  relay := by
    have := delivered.relay
    omega
  sent := Nat.le_of_eq delivered.sent.symm
  kept := by
    intro sure
    have relay := delivered.relay
    rw [keeps_of_sure sure delivered.placed] at relay
    change after.relay.length + 0 = _ at relay
    rw [delivered.sent]
    omega

theorem grows_dispatch (role : Role) (message bytes : List UInt8) (before : Simulation) :
    Yields .all (dispatch role message bytes) before fun _ => Grows 2 before := by
  simp only [dispatch, yields_bind, yields_all_lift]
  intro parsed _
  cases parsed with
  | error error => trivial
  | ok frame =>
      simp only [yields_bind, yields_all_lift, yields_get]
      intro span _
      cases before.audit.record role span with
      | error violation => trivial
      | ok audit =>
          simp only [yields_bind, yields_set, yields_chance, yields_ite, yields_enqueue]
          constructor
          · intro _
            constructor <;> simp
            omega
          · intro _
            constructor <;> simp
            omega

theorem grows_send (role : Role) (before : Simulation) :
    Yields .all (send role) before fun _ => Grows 2 before := by
  simp only [send, yields_bind, yields_get, yields_drawBelow]
  split
  · trivial
  · simp only [yields_bind, yields_draw, yields_all_lift, yields_ite, yields_set]
    intro collides _
    constructor
    · intro _
      exact Rests.grows 2 ⟨rfl, rfl, rfl⟩
    · intro _ reply _
      rcases reply.answer with error | bytes
      · cases error <;> first | trivial | exact Rests.grows 2 (by constructor <;> simp)
      · apply (grows_dispatch ..).mono
        intro _ after grows
        exact Rests.trans_grows (by constructor <;> simp) grows

theorem grows_act (before : Simulation) : Yields .all act before fun _ => Grows 2 before := by
  simp only [act, yields_bind, yields_get, yields_ite, yields_pure, yields_chance, forall_const,
    not_true, false_implies, and_true]
  refine ⟨fun _ => ?_, fun busy => ⟨fun _ => ?_, fun _ => ?_⟩⟩
  · apply (grows_send ..).mono
    intro _ after grows
    exact (rests_redraw before _).trans_grows grows
  · apply (grows_send ..).mono
    intro _ after grows
    exact (rests_redraw before _).trans_grows grows
  · refine Yields.mono (delivered_deliver (mt List.isEmpty_iff.mpr busy)) ?_
    intro _ after delivered
    exact (rests_redraw before _).trans_grows (delivered.grows 2)

/-- Every step adds at most two frames to the relay. -/
theorem grows_runSteps (left step : Nat) (before : Simulation) :
    Yields .all (runSteps left step) before fun _ => Grows (2 * left) before := by
  induction left generalizing step before with
  | zero => exact Rests.grows 0 ⟨rfl, rfl, rfl⟩
  | succ left inductionHypothesis =>
      simp only [runSteps, yields_bind]
      apply (grows_act before).mono
      intro _ acted first
      apply (yields_check step acted).mono
      rintro _ _ rfl
      apply (inductionHypothesis ..).mono
      intro _ after others
      rw [Nat.mul_succ, Nat.add_comm]
      exact first.trans others

end OneTimePad.Simulation
