import OneTimePad.Proofs.Exchange.Offsets
import OneTimePad.Proofs.Network.Safety
import OneTimePad.Proofs.Simulation.Draws
import OneTimePad.Proofs.Simulation.Relay

/-!
# A simulation reflects an exchange

The parties of a simulation are those of an exchange of letters, though it does
not keep the letters.  What each of them remembers by the offsets of frames
agrees with the letters, and whatever is at the relay was sent.  So a frame that
arrives undamaged is delivered, or skipped, as the exchange says it is, and the
simulation has nothing to object to.

Of a damaged frame nothing is known but that it is refused, skipped, or
authentic.
-/

namespace OneTimePad.Simulation

/-! ## What a simulation shows -/

/-- The two parties and the audit.  Nothing is asked here about frames. -/
def network (simulation : Simulation) : Network where
  party := simulation.party
  audit := simulation.audit
  wire := []

/-- Every message fits a frame, and so does any sum of what both parties use and
what a message needs fit a word. -/
structure Moderate (config : SimulationConfig) : Prop where
  short : Padding.overhead + config.longestMessage ≤ Frame.maximumCiphertext
  room : config.regionLength + Frame.maximumCiphertext + Authenticator.keySize < wordLimit

/-- A frame at the relay is a letter of its sender. -/
def Carries (exchange : Exchange) (flight : Flight) : Prop :=
  ∃ (number : Nat) (letter : Letter),
    (exchange flight.source).letters[number]? = some letter ∧ letter.bytes = flight.bytes

/-- The parties are those of an exchange of letters.  Each of them remembers its
letters and what was delivered to it by the offsets of frames, and all that is
at the relay are letters. -/
structure Reflects (config : SimulationConfig) (total : UInt64) (region : List UInt8)
    (simulation : Simulation) (exchange : Exchange) : Prop where
  moderate : Moderate config
  config_eq : simulation.config = config
  size : config.regionLength = total.toNat
  sane : Network.Invariant total simulation.network
  lawful : Exchange.Invariant total.toNat region exchange
  conversation : ∀ role, (simulation.party role).conversation = (exchange role).conversation
  sent : ∀ role number letter frame, exchange.Posted role number letter frame →
    (simulation.party role).sent.lookup frame.offset = some letter.message
  delivered : ∀ role, ∀ offset ∈ (simulation.party role).delivered,
    ∃ number ∈ (exchange role).delivered, ∃ letter frame,
      exchange.Posted role.peer number letter frame ∧ frame.offset = offset
  relay : ∀ flight ∈ simulation.relay, Carries exchange flight

variable {config : SimulationConfig} {total : UInt64} {region : List UInt8}
  {simulation after : Simulation} {exchange : Exchange} {role : Role}

/-- Only the parties, the audit and the relay matter. -/
theorem Reflects.congr (reflects : Reflects config total region simulation exchange)
    (unchanged : after.config = simulation.config) (party : after.party = simulation.party)
    (audit : after.audit = simulation.audit)
    (relay : ∀ flight ∈ after.relay, Carries exchange flight) :
    Reflects config total region after exchange where
  moderate := reflects.moderate
  config_eq := unchanged.trans reflects.config_eq
  size := reflects.size
  sane := by
    have same : after.network = simulation.network := by rw [network, network, party, audit]
    rw [same]
    exact reflects.sane
  lawful := reflects.lawful
  conversation := by rw [party]; exact reflects.conversation
  sent := by rw [party]; exact reflects.sent
  delivered := by rw [party]; exact reflects.delivered
  relay := relay

/-- Nothing is lost by a step that only takes frames from the relay, draws, or
counts. -/
theorem Reflects.mono (reflects : Reflects config total region simulation exchange)
    (unchanged : after.config = simulation.config) (party : after.party = simulation.party)
    (audit : after.audit = simulation.audit) (relay : after.relay ⊆ simulation.relay) :
    Reflects config total region after exchange :=
  reflects.congr unchanged party audit fun flight mem => reflects.relay flight (relay mem)

/-- Draws do not matter. -/
theorem Reflects.redraw (reflects : Reflects config total region simulation exchange)
    (generator : Generator) :
    Reflects config total region { simulation with generator } exchange :=
  reflects.mono rfl rfl rfl (List.Subset.refl _)

theorem Reflects.sound (reflects : Reflects config total region simulation exchange)
    (role : Role) : (simulation.party role).conversation.Sound := by
  rw [reflects.conversation]
  exact (reflects.lawful.writes role).sound

theorem Reflects.live (reflects : Reflects config total region simulation exchange)
    (role : Role) : (simulation.party role).conversation.ledger.burned = false := by
  rw [reflects.conversation]
  exact (reflects.lawful.writes role).live

theorem party_setParty (simulation : Simulation) (role : Role) (party : Party) :
    (simulation.setParty role party).party = Function.update simulation.party role party := by
  funext other
  rcases role.eq_or_eq_peer other with rfl | rfl
  · rw [party_setParty_self, Function.update_self]
  · rw [party_setParty_peer, Function.update_of_ne role.peer_ne]

/-! ## Endings -/

/-- The violation by a damaged frame that was delivered. -/
def forgery (offset : Nat) : Violation :=
  ⟨"Receive", s!"tampered frame at {offset} delivered"⟩

/-- Whether frames are ever damaged. -/
def Damages (config : SimulationConfig) : Prop :=
  config.tamperRate.timesWordRange ≠ 0

/-- A simulation may run out of turns, and a damaged frame may be authentic;
nothing else may end it. -/
def excused (config : SimulationConfig) : Endings where
  fault := False
  halt halt :=
    halt = .outOfTurns ∨ Damages config ∧ ∃ offset, halt = .violation (forgery offset)

theorem excused_outOfTurns : (excused config).halt .outOfTurns :=
  .inl rfl

/-! ## Arriving -/

theorem yields_transport (bytes : List UInt8) (before : Simulation) :
    Yields (excused config) (transport bytes) before fun arrived after =>
      (arrived.2 = false → arrived.1 = bytes) ∧ (arrived.2 = true → Damages before.config) ∧
        ∃ generator, after = { before with generator } := by
  simp only [transport, yields_bind, yields_get, yields_chance, yields_ite, yields_drawBelow,
    yields_pure]
  constructor
  · intro damaged
    split
    · exact excused_outOfTurns
    · refine ⟨by simp, fun _ never => ?_, _, rfl⟩
      rw [Generator.chance_of_never never] at damaged
      cases damaged
  · intro _
    exact ⟨fun _ => trivial, by simp, _, rfl⟩

theorem reflects_judge_skipped {flight : Flight} {tampered : Bool} {reason : SkipReason}
    (reflects : Reflects config total region simulation exchange)
    (proper : reason = .own → flight.source ≠ flight.target → tampered = true) :
    Yields (excused config) (judge flight tampered false (.ok (.skipped reason))) simulation
      fun _ after => ∃ exchange, Reflects config total region after exchange := by
  have fair : ¬ (reason = .own ∧ flight.source ≠ flight.target ∧ (!tampered) = true) := by
    rintro ⟨own, foreign, clean⟩
    rw [proper own foreign] at clean
    cases clean
  simp only [judge, acceptSkip, Bool.false_eq_true, if_false, fair, yields_modify]
  refine ⟨exchange, ?_⟩
  cases reason with
  | own => exact reflects.mono rfl rfl rfl (List.Subset.refl _)
  | alreadyProcessed => exact reflects.mono rfl rfl rfl (List.Subset.refl _)

theorem reflects_judge_refused {flight : Flight} {error : LedgerError}
    (reflects : Reflects config total region simulation exchange)
    (recoverable : error.isRecoverable = true) :
    Yields (excused config) (judge flight true false (.error error)) simulation fun _ after =>
      ∃ exchange, Reflects config total region after exchange := by
  simp only [judge, acceptRefusal, recoverable, Bool.and_self, if_true, Bool.false_eq_true,
    if_false, yields_modify]
  exact ⟨exchange, reflects.mono rfl rfl rfl (List.Subset.refl _)⟩

/-- The exchange goes on with a letter that is delivered. -/
theorem Reflects.accept (reflects : Reflects config total region simulation exchange) {number : Nat}
    {letter : Letter} {frame : Frame} (posted : exchange.Posted role.peer number letter frame)
    (latest : covered (exchange role).delivered ≤ number) :
    Reflects config total region (simulation.setParty role ((simulation.party role).heed frame))
      (exchange.setParty role ((exchange role).accept number frame)) where
  moderate := reflects.moderate
  config_eq := by rw [config_setParty, reflects.config_eq]
  size := reflects.size
  sane := by
    rcases reflects.lawful.receive_of_posted posted latest with ⟨-, delivers, -⟩
    have same : (simulation.setParty role ((simulation.party role).heed frame)).network =
        simulation.network.heed role frame := by
      rw [network, party_setParty, audit_setParty]
      rfl
    rw [same]
    have subset := reflects.lawful.extent_subset_side posted
    rw [← reflects.conversation] at delivers subset
    exact reflects.sane.heed delivers subset
  lawful := reflects.lawful.accept posted latest
  conversation := by
    intro other
    rcases role.eq_or_eq_peer other with rfl | rfl
    · rw [party_setParty_self, Exchange.setParty_apply_self, Party.heed, Correspondent.accept,
        reflects.conversation]
    · rw [party_setParty_peer, Exchange.setParty_apply_peer, reflects.conversation]
  sent := by
    intro other another sent continuation listed
    have remembered := reflects.sent other another sent continuation
      (listed.congr (Exchange.letters_accept other).symm)
    rcases role.eq_or_eq_peer other with rfl | rfl
    · rw [party_setParty_self]
      exact remembered
    · rw [party_setParty_peer]
      exact remembered
  delivered := by
    intro other
    rcases role.eq_or_eq_peer other with rfl | rfl
    · rw [party_setParty_self, Exchange.setParty_apply_self]
      intro offset mem
      rcases List.mem_cons.mp mem with rfl | mem
      · exact ⟨number, List.mem_cons_self, letter, frame,
          posted.congr (Exchange.letters_accept other.peer), rfl⟩
      · rcases reflects.delivered other offset mem with
          ⟨earlier, known, before, continuation, listed, same⟩
        exact ⟨earlier, List.mem_cons_of_mem _ known, before, continuation,
          listed.congr (Exchange.letters_accept other.peer), same⟩
    · rw [party_setParty_peer, Exchange.setParty_apply_peer]
      intro offset mem
      rcases reflects.delivered role.peer offset mem with
        ⟨earlier, known, before, continuation, listed, same⟩
      exact ⟨earlier, known, before, continuation,
        listed.congr (Exchange.letters_accept role.peer.peer), same⟩
  relay := by
    intro flight mem
    rw [relay_setParty] at mem
    rcases reflects.relay flight mem with ⟨carried, sent, present, same⟩
    refine ⟨carried, sent, ?_, same⟩
    rw [Exchange.letters_accept]
    exact present

/-- Octets that change nothing for their receiver. -/
theorem yields_arrive_of_unchanged {endings : Endings} {flight : Flight} {bytes : List UInt8}
    {tampered : Bool} {answer : Except LedgerError Receipt} {holds : Unit → Simulation → Prop}
    (received : (simulation.party flight.target).conversation.receive bytes =
      .ok ⟨answer, (simulation.party flight.target).conversation⟩) :
    Yields endings (arrive flight bytes tampered) simulation holds ↔
      Yields endings (judge flight tampered false answer) simulation holds := by
  simp only [arrive, yields_bind, yields_get, received, yields_lift_ok, yields_set]
  have same := simulation.setParty_party flight.target
  change Yields endings _
    (simulation.setParty flight.target (simulation.party flight.target)) holds ↔ _
  simp only [same, ne_eq, not_true, decide_false]

theorem yields_judge_delivered_of_damaged (damages : Damages config) {flight : Flight}
    {message : Message} {changed : Bool} {before : Simulation}
    {holds : Unit → Simulation → Prop} :
    Yields (excused config) (judge flight true changed (.ok (.delivered message))) before
      holds := by
  simp only [judge, acceptDelivery, if_true, yields_bind, yields_fail]
  exact .inr ⟨damages, message.offset.toNat, rfl⟩

theorem reflects_judge_delivered {flight : Flight} {changed : Bool} {number : Nat}
    {letter : Letter} {frame : Frame}
    (reflects : Reflects config total region simulation exchange)
    (posted : exchange.Posted flight.target.peer number letter frame)
    (foreign : flight.source = flight.target.peer)
    (latest : covered (exchange flight.target).delivered ≤ number) :
    Yields (excused config)
      (judge flight false changed
        (.ok (.delivered (Conversation.messageOf frame letter.message))))
      (simulation.setParty flight.target
        { simulation.party flight.target with
          conversation := (simulation.party flight.target).conversation.heed frame })
      fun _ after => ∃ exchange, Reflects config total region after exchange := by
  have unequal : flight.source ≠ flight.target := by
    rw [foreign]
    exact flight.target.peer_ne
  have new : frame.offset ∉ (simulation.party flight.target).delivered := by
    intro known
    rcases reflects.delivered flight.target _ known with
      ⟨earlier, mem, before, continuation, listed, same⟩
    have number_eq := reflects.lawful.number_eq_of_offset_eq listed posted same
    have below := covered_le_iff.mp latest earlier mem
    omega
  have remembered := reflects.sent flight.target.peer number letter frame posted
  simp only [judge, acceptDelivery, Bool.false_eq_true, if_false, unequal, yields_bind, yields_ite,
    yields_fail, yields_get, yields_set, yields_modify, party_setParty_self, setParty_setParty]
  refine ⟨fun known => absurd known new, fun _ => ⟨fun missing => ?_, fun _ => ?_⟩⟩
  · rw [foreign, party_setParty_peer] at missing
    exact absurd remembered missing
  · refine ⟨_, (reflects.accept posted latest).mono rfl ?_ rfl (List.Subset.refl _)⟩
    funext other
    cases other <;> rfl

/-- Damaged octets are refused or skipped, or they are authentic. -/
theorem reflects_arrive_of_damaged (reflects : Reflects config total region simulation exchange)
    (damages : Damages config) (flight : Flight) (bytes : List UInt8) :
    Yields (excused config) (arrive flight bytes true) simulation fun _ after =>
      ∃ exchange, Reflects config total region after exchange := by
  rcases (reflects.sound flight.target).receive_cases_of_live (reflects.live flight.target) bytes
    with ⟨error, recoverable, received⟩ | ⟨reason, received⟩ | ⟨frame, plaintext, -, -, received⟩
  · rw [yields_arrive_of_unchanged received]
    exact reflects_judge_refused reflects recoverable
  · rw [yields_arrive_of_unchanged received]
    exact reflects_judge_skipped reflects fun _ _ => rfl
  · simp only [arrive, yields_bind, yields_get, received, yields_lift_ok, yields_set]
    exact yields_judge_delivered_of_damaged damages

/-- A letter is skipped by its sender.  The other party reads it, unless it has
read a later one. -/
theorem reflects_arrive {flight : Flight} {number : Nat} {letter : Letter}
    (reflects : Reflects config total region simulation exchange)
    (present : (exchange flight.source).letters[number]? = some letter) :
    Yields (excused config) (arrive flight letter.bytes false) simulation fun _ after =>
      ∃ exchange, Reflects config total region after exchange := by
  have conversation_eq := reflects.conversation flight.target
  rcases flight.target.eq_or_eq_peer flight.source with echo | foreign
  · have received := reflects.lawful.receive_of_echo present
    rw [echo, ← conversation_eq] at received
    rw [yields_arrive_of_unchanged received]
    exact reflects_judge_skipped reflects fun _ foreign => absurd echo foreign
  · rw [foreign] at present
    by_cases latest : covered (exchange flight.target).delivered ≤ number
    · rcases reflects.lawful.exists_posted present with ⟨frame, -, posted, -⟩
      rcases reflects.lawful.receive_of_posted posted latest with ⟨received, -, -⟩
      rw [← conversation_eq] at received
      simp only [arrive, yields_bind, yields_get, received, yields_lift_ok, yields_set]
      exact reflects_judge_delivered reflects posted foreign latest
    · have received := reflects.lawful.receive_of_passed present (Nat.lt_of_not_le latest)
      rw [← conversation_eq] at received
      rw [yields_arrive_of_unchanged received]
      exact reflects_judge_skipped reflects (by simp)

theorem reflects_deliver (reflects : Reflects config total region simulation exchange) :
    Yields (excused config) deliver simulation fun _ after =>
      ∃ exchange, Reflects config total region after exchange := by
  simp only [deliver_eq, yields_bind, yields_takeFlight]
  split
  · exact excused_outOfTurns
  · rename_i index generator _
    cases taken : simulation.relay[index]? with
    | none => exact ⟨exchange, reflects.mono rfl rfl rfl (List.Subset.refl _)⟩
    | some flight =>
        have waiting := List.mem_of_getElem? taken
        rcases reflects.relay flight waiting with ⟨number, letter, present, bytes_eq⟩
        have others : Reflects config total region (simulation.take index generator flight)
            exchange :=
          reflects.mono rfl rfl rfl (relay_take_subset waiting)
        apply (yields_transport ..).mono
        rintro ⟨bytes, tampered⟩ _ ⟨clean, damages, _, rfl⟩
        have arriving := others.redraw
        cases tampered with
        | true => exact reflects_arrive_of_damaged (arriving _) (others.config_eq ▸ damages rfl) ..
        | false =>
            obtain rfl := clean rfl
            rw [← bytes_eq]
            exact reflects_arrive (arriving _) present

end OneTimePad.Simulation
