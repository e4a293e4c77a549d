import OneTimePad.Proofs.Simulation.Reflection

/-!
# Promises of a simulation

A simulation of short messages, on a pad that is not huge, ends with an answer.
Only two things can prevent this.  It may run out of turns, and a damaged frame
may pass for authentic, if frames are damaged at all.
-/

namespace OneTimePad.Simulation

variable {config : SimulationConfig} {total : UInt64} {region : List UInt8}
  {simulation : Simulation} {exchange : Exchange} {role : Role}

/-! ## Sending -/

/-- A message that is not held back can be afforded by both parties. -/
theorem exists_wouldCollide (reflects : Reflects config total region simulation exchange)
    {message : List UInt8} (short : (Padding.padded message).length ≤ Frame.maximumCiphertext) :
    ∃ collides, simulation.wouldCollide message.length = .ok collides ∧
      (collides = false → exchange.Affords message) := by
  have room := reflects.moderate.room
  have fits : (simulation.party .initiator).conversation.ledger.sent.toNat +
      (simulation.party .responder).conversation.ledger.sent.toNat ≤ total.toNat :=
    reflects.sane.fits .initiator
  rw [reflects.size] at room
  have padded : (UInt64.ofNat (Padding.padded message).length).toNat =
      (Padding.padded message).length := Word.toNat_ofNat (by omega)
  have key : (UInt64.ofNat Authenticator.keySize).toNat = Authenticator.keySize := rfl
  obtain ⟨needed, needed_eq, neededNat⟩ :=
    Word.exists_add (UInt64.ofNat (Padding.padded message).length)
      (UInt64.ofNat Authenticator.keySize) (by omega)
  obtain ⟨used, used_eq, usedNat⟩ :=
    Word.exists_add simulation.initiator.conversation.ledger.sent
      simulation.responder.conversation.ledger.sent (Nat.lt_of_le_of_lt fits (by omega))
  rw [padded, key] at neededNat
  obtain ⟨claimed, claimed_eq, claimedNat⟩ := Word.exists_add used needed (by
    rw [usedNat, neededNat]
    exact Nat.lt_of_le_of_lt (Nat.add_le_add fits (Nat.add_le_add_right short _)) (by omega))
  refine ⟨decide (UInt64.ofNat simulation.config.regionLength < claimed), ?_, ?_⟩
  · simp only [wouldCollide, Conversation.paddedLength_of_short short, Checked.ok_bind, needed_eq,
      used_eq, claimed_eq, Checked.pure_eq_ok]
  · intro clear
    have within := UInt64.not_lt.mp (of_decide_eq_false clear)
    rw [UInt64.le_iff_toNat_le, reflects.config_eq, reflects.size, UInt64.ofNat_toNat,
      claimedNat, usedNat, neededNat] at within
    rw [Exchange.Affords, (reflects.lawful.writes .initiator).total_eq, ← reflects.conversation,
      ← reflects.conversation]
    exact within

theorem network_affords (reflects : Reflects config total region simulation exchange)
    {message : List UInt8} (affords : exchange.Affords message) :
    simulation.network.Affords message := by
  rw [Exchange.Affords, ← reflects.conversation, ← reflects.conversation] at affords
  exact affords

/-- A simulation in which a party has sent a frame with a message. -/
def commit (simulation : Simulation) (role : Role) (message : List UInt8) (frame : Frame)
    (span : Span) : Simulation :=
  { simulation.setParty role ((simulation.party role).commit message frame span) with
    audit := simulation.audit.accept role span }

theorem party_commit (simulation : Simulation) (role : Role) (message : List UInt8)
    (frame : Frame) (span : Span) :
    (simulation.commit role message frame span).party =
      (simulation.setParty role ((simulation.party role).commit message frame span)).party := by
  funext other
  cases other <;> rfl

/-- The exchange goes on with a letter that is posted. -/
theorem Reflects.post (reflects : Reflects config total region simulation exchange)
    {message : List UInt8} {frame : Frame} {span : Span} (affords : exchange.Affords message)
    (seals : frame.Seals (exchange role).conversation.region
      ((exchange role).conversation.nextOffset message) message)
    (takes : Network.Takes total role (simulation.party role) message frame span) :
    Reflects config total region (simulation.commit role message frame span)
      (exchange.setParty role ((exchange role).post message frame)) := by
  have sends := takes.sends
  rw [reflects.conversation] at sends
  have lawful := reflects.lawful.post affords sends seals
  constructor
  case moderate => exact reflects.moderate
  case config_eq => rw [commit, config_setParty, reflects.config_eq]
  case size => exact reflects.size
  case sane =>
    have committed := reflects.sane.commit (network_affords reflects affords) takes
    have same : (simulation.commit role message frame span).network =
        { simulation.network.commit role message frame span with wire := [] } := by
      rw [network, party_commit, party_setParty]
      rfl
    rw [same]
    exact { committed with traced := by simp, apart := .nil }
  case lawful => exact lawful
  case conversation =>
    rw [party_commit]
    intro other
    rcases role.eq_or_eq_peer other with rfl | rfl
    · rw [party_setParty_self, Exchange.setParty_apply_self, Party.commit, Correspondent.post,
        reflects.conversation]
    · rw [party_setParty_peer, Exchange.setParty_apply_peer, reflects.conversation]
  case sent =>
    rw [party_commit]
    intro other number letter continuation posted
    have last : (exchange.setParty role ((exchange role).post message frame)).Posted role
        (exchange role).letters.length ⟨message, frame.toBytes⟩ frame :=
      Exchange.posted_post takes.long
    rcases Exchange.posted_of_post posted with earlier | ⟨rfl, rfl, rfl⟩
    · have remembered := reflects.sent other number letter continuation earlier
      rcases role.eq_or_eq_peer other with rfl | rfl
      · have lt := (List.getElem?_eq_some_iff.mp earlier.present).1
        have apart := lawful.offset_ne lt posted last
        rw [party_setParty_self, Party.commit, List.lookup_cons, beq_eq_false_iff_ne.mpr apart]
        exact remembered
      · rw [party_setParty_peer]
        exact remembered
    · obtain rfl := Attempt.pure_inj.mp (last.parsed.symm.trans posted.parsed)
      rw [party_setParty_self, Party.commit, List.lookup_cons, beq_self_eq_true]
  case delivered =>
    rw [party_commit]
    intro other offset mem
    have known : offset ∈ (simulation.party other).delivered := by
      rcases role.eq_or_eq_peer other with rfl | rfl
      · rwa [party_setParty_self] at mem
      · rwa [party_setParty_peer] at mem
    rcases reflects.delivered other offset known with
      ⟨number, numberMem, letter, continuation, posted, same⟩
    refine ⟨number, ?_, letter, continuation, ⟨?_, posted.parsed⟩, same⟩
    · rcases role.eq_or_eq_peer other with rfl | rfl
      · rw [Exchange.setParty_apply_self]
        exact numberMem
      · rw [Exchange.setParty_apply_peer]
        exact numberMem
    · exact Exchange.getElem?_letters_post posted.present
  case relay =>
    intro flight mem
    rw [commit, relay_setParty] at mem
    rcases reflects.relay flight mem with ⟨carried, sent, present, same⟩
    exact ⟨carried, sent, Exchange.getElem?_letters_post present, same⟩

theorem reflects_dispatch (reflects : Reflects config total region simulation exchange)
    {message : List UInt8} {frame : Frame} {span : Span} (affords : exchange.Affords message)
    (seals : frame.Seals (exchange role).conversation.region
      ((exchange role).conversation.nextOffset message) message)
    (spanEq : spanOf frame = .ok span)
    (takes : Network.Takes total role (simulation.party role) message frame span) :
    Yields (excused config) (dispatch role message frame.toBytes)
      (simulation.setParty role
        { simulation.party role with
          conversation := (simulation.party role).conversation.spend message })
      fun _ after => ∃ exchange, Reflects config total region after exchange := by
  have posted := reflects.post affords seals takes
  have affords := network_affords reflects affords
  have recorded : simulation.audit.record role span = .ok (simulation.audit.accept role span) :=
    reflects.sane.audited.record_eq_ok takes.start_lt_stop (reflects.sane.clear affords takes)
      (reflects.sane.stop_le_total affords takes) role
  have parsed : (Frame.ofBytes frame.toBytes).run = .ok (.ok frame) :=
    Frame.ofBytes_toBytes takes.long
  have goes : ∀ (generator : Generator) (relay : List Flight) (stats : SimulationStats),
      (∀ flight ∈ relay,
        flight ∈ simulation.relay ∨ flight.source = role ∧ flight.bytes = frame.toBytes) →
      ∃ exchange, Reflects config total region
        { simulation.commit role message frame span with generator, relay, stats } exchange := by
    intro generator relay stats known
    refine ⟨_, posted.congr rfl rfl rfl fun flight mem => ?_⟩
    rcases known flight mem with earlier | ⟨source, bytes_eq⟩
    · exact posted.relay flight (by rwa [commit, relay_setParty])
    · refine ⟨(exchange role).letters.length, ⟨message, frame.toBytes⟩, ?_, bytes_eq.symm⟩
      rw [source]
      exact (Exchange.posted_post takes.long).present
  simp only [dispatch, yields_bind, parsed, yields_lift_ok, spanEq, yields_get, audit_setParty,
    recorded, yields_set, yields_chance, yields_ite, yields_enqueue, party_setParty_self,
    setParty_setParty, relay_setParty]
  constructor
  · intro _
    refine goes _ _ _ ?_
    simp only [List.mem_append, List.mem_singleton]
    rintro flight ((mem | rfl) | rfl)
    · exact .inl mem
    · exact .inr ⟨rfl, rfl⟩
    · exact .inr ⟨rfl, rfl⟩
  · intro _
    refine goes _ _ _ ?_
    simp only [List.mem_append, List.mem_singleton]
    rintro flight (mem | rfl)
    · exact .inl mem
    · exact .inr ⟨rfl, rfl⟩

/-- Let a party send a message that was drawn. -/
def offer (role : Role) (length : Nat) (message : List UInt8) : Step Unit := do
  let simulation ← get
  if ← simulation.wouldCollide length then
    countExhausted
  else
    let sender := simulation.party role
    let reply ← sender.conversation.send message
    set (simulation.setParty role { sender with conversation := reply.after })
    match reply.answer with
    | .ok bytes => dispatch role message bytes
    | .error (.padExhausted _ _) => countExhausted
    | .error error => fail "Send" (role.name ++ ": " ++ error.message)

/-- A party draws a message and offers it. -/
theorem send_eq (role : Role) :
    send role = get >>= fun simulation =>
      drawBelow (simulation.config.longestMessage + 1) >>= fun length =>
        (draw fun generator => generator.bytes length) >>= offer role length :=
  rfl

theorem reflects_offer (reflects : Reflects config total region simulation exchange) (role : Role)
    {message : List UInt8} (short : message.length ≤ config.longestMessage) :
    Yields (excused config) (offer role message.length message) simulation fun _ after =>
      ∃ exchange, Reflects config total region after exchange := by
  have counted : Yields (excused config) countExhausted simulation fun _ after =>
      ∃ exchange, Reflects config total region after exchange :=
    ⟨exchange, reflects.mono rfl rfl rfl (List.Subset.refl _)⟩
  have fits : (Padding.padded message).length ≤ Frame.maximumCiphertext := by
    have short := reflects.moderate.short
    rw [Padding.length_padded]
    have : Padding.minimumLength ≤ Frame.maximumCiphertext := by decide
    omega
  rcases exists_wouldCollide reflects fits with ⟨collides, collidesEq, affordable⟩
  simp only [offer, yields_bind, yields_get, collidesEq, yields_lift_ok, yields_ite]
  refine ⟨fun _ => counted, fun clear => ?_⟩
  have affords := affordable (Bool.eq_false_iff.mpr clear)
  have sized : Padding.overhead + message.length < wordLimit := by
    have room := reflects.moderate.room
    have short := reflects.moderate.short
    omega
  rcases (reflects.sound role).send_cases sized with ⟨error, unsent, refused⟩ | sends
  · simp only [refused, Reply.refuse, yields_lift_ok, yields_set]
    have same := simulation.setParty_party role
    change Yields (excused config) _ (simulation.setParty role (simulation.party role)) _
    rw [same]
    cases unsent with
    | large long => exact absurd fits (Nat.not_le.mpr long)
    | refused _ _ =>
        rw [if_neg (by rw [reflects.live]; decide)]
        exact counted
  · rcases Conversation.send_eq_ok sends with ⟨frame, seals, sent⟩
    rcases (reflects.sane.keeps role).exists_takes sends seals with ⟨span, spanEq, takes⟩
    simp only [sent, yields_lift_ok, yields_set]
    rw [reflects.conversation] at seals
    exact reflects_dispatch reflects affords seals spanEq takes

theorem reflects_send (reflects : Reflects config total region simulation exchange) (role : Role) :
    Yields (excused config) (send role) simulation fun _ after =>
      ∃ exchange, Reflects config total region after exchange := by
  simp only [send_eq, yields_bind, yields_get, yields_drawBelow]
  split
  · exact excused_outOfTurns
  · rename_i length generator drawn
    have short := Nat.le_of_lt_succ (Generator.below_lt (Nat.succ_pos _) drawn)
    rw [reflects.config_eq, ← generator.length_bytes length] at short
    have offered := reflects_offer (reflects.redraw (generator.bytes length).2) role short
    rw [generator.length_bytes length] at offered
    exact offered

/-! ## Running -/

theorem reflects_check (reflects : Reflects config total region simulation exchange) (step : Nat) :
    Yields (excused config) (check step) simulation fun _ after =>
      ∃ exchange, Reflects config total region after exchange := by
  have checked : Check.runAll Check.standard simulation.view = .ok [] :=
    reflects.sane.safe.checked
  simp only [check, yields_bind, yields_get, checked, yields_lift_ok, yields_pure]
  exact ⟨exchange, reflects⟩

theorem reflects_act (reflects : Reflects config total region simulation exchange) :
    Yields (excused config) act simulation fun _ after =>
      ∃ exchange, Reflects config total region after exchange := by
  simp only [act, yields_bind, yields_get, yields_ite, yields_pure, yields_chance, forall_const,
    not_true, false_implies, and_true]
  exact ⟨fun _ => reflects_send (reflects.redraw _) _, fun _ =>
    ⟨fun _ => reflects_send (reflects.redraw _) _, fun _ => reflects_deliver (reflects.redraw _)⟩⟩

theorem reflects_runSteps (reflects : Reflects config total region simulation exchange)
    (left step : Nat) :
    Yields (excused config) (runSteps left step) simulation fun _ after =>
      ∃ exchange, Reflects config total region after exchange := by
  induction left generalizing simulation exchange step with
  | zero => exact ⟨exchange, reflects⟩
  | succ left inductionHypothesis =>
      simp only [runSteps, yields_bind]
      apply (reflects_act reflects).mono
      rintro _ acted ⟨exchange, reflects⟩
      apply (reflects_check reflects step).mono
      rintro _ checked ⟨exchange, reflects⟩
      exact inductionHypothesis reflects (step + 1)

theorem reflects_drain (reflects : Reflects config total region simulation exchange) (turns : Nat) :
    Yields (excused config) (drain turns) simulation fun _ after =>
      ∃ exchange, Reflects config total region after exchange := by
  induction turns generalizing simulation exchange with
  | zero =>
      simp only [drain, yields_bind, yields_get, yields_ite, yields_pure, yields_throw]
      exact ⟨fun _ => ⟨exchange, reflects⟩, fun _ => excused_outOfTurns⟩
  | succ turns inductionHypothesis =>
      simp only [drain, yields_bind, yields_get, yields_ite, yields_pure]
      refine ⟨fun _ => ⟨exchange, reflects⟩, fun _ => ?_⟩
      apply (reflects_deliver reflects).mono
      rintro _ delivered ⟨exchange, reflects⟩
      exact inductionHypothesis reflects

/-! ## Beginning -/

/-- A party begins with nothing but its conversation. -/
theorem openParty_eq_pure {pad : List UInt8} {party : Party}
    (opened : openParty pad role = pure party) :
    ∃ conversation, Conversation.begin pad role = pure conversation ∧ party = { conversation } := by
  rcases Attempt.bind_eq_pure_iff.mp opened with ⟨answer, begun, opened⟩
  rw [Attempt.lift_eq_pure_iff] at begun
  cases answer with
  | error error => cases opened
  | ok conversation =>
      cases Attempt.pure_inj.mp opened
      exact ⟨conversation, begun, rfl⟩

theorem exists_openParty {pad : List UInt8} (inside : ({} : Settings).reserved ≤ pad.length)
    (role : Role) : ∃ party, openParty pad role = pure party := by
  rcases Conversation.exists_begin rfl inside role with ⟨conversation, begun⟩
  refine ⟨{ conversation }, ?_⟩
  rw [openParty, begun]
  rfl

/-- A simulation begins exactly if its rates are probabilities and the length of
its pad fits a word. -/
theorem exists_start_iff :
    (∃ simulation, start config = pure simulation) ↔
      config.validate = .ok () ∧ Identity.seedLength + config.regionLength < wordLimit := by
  simp only [start, Attempt.bind_eq_pure_iff, Attempt.answer_eq_pure_iff,
    Attempt.lift_eq_pure_iff]
  constructor
  · rintro ⟨_, ⟨⟩, valid, length, sized, -⟩
    rcases Size.add_eq_ok_iff.mp sized with ⟨rfl, fits⟩
    exact ⟨valid, fits⟩
  · rintro ⟨valid, fits⟩
    have inside : ({} : Settings).reserved ≤ ((Generator.ofSeed config.seed).bytes
        (Identity.seedLength + config.regionLength)).1.length := by
      rw [Generator.length_bytes]
      exact Nat.le_add_right ..
    rcases exists_openParty inside .initiator with ⟨initiator, openedInitiator⟩
    rcases exists_openParty inside .responder with ⟨responder, openedResponder⟩
    exact ⟨_, (), valid, _, Size.add_eq_ok_iff.mpr ⟨rfl, fits⟩, initiator, openedInitiator,
      responder, openedResponder, rfl⟩

/-- A simulation in which nothing was sent, on a pad with a region of the size
that was asked for. -/
structure Begun (config : SimulationConfig) (simulation : Simulation) (pad : List UInt8) :
    Prop where
  length_eq : pad.length = Identity.seedLength + config.regionLength
  fits : pad.length < wordLimit
  opened : ∀ role, Conversation.begin pad role = pure (simulation.party role).conversation
  config_eq : simulation.config = config
  party_eq : ∀ role,
    simulation.party role = { conversation := (simulation.party role).conversation }
  relay_eq : simulation.relay = []
  audit_eq : simulation.audit = { total := UInt64.ofNat config.regionLength }

theorem exists_begun_of_start (started : start config = pure simulation) :
    ∃ pad, Begun config simulation pad := by
  simp only [start, Attempt.bind_eq_pure_iff, Attempt.answer_eq_pure_iff,
    Attempt.lift_eq_pure_iff] at started
  rcases started with
    ⟨_, -, length, sized, initiator, openedInitiator, responder, openedResponder, same⟩
  rcases Size.add_eq_ok_iff.mp sized with ⟨rfl, fits⟩
  rcases openParty_eq_pure openedInitiator with ⟨first, begunFirst, rfl⟩
  rcases openParty_eq_pure openedResponder with ⟨second, begunSecond, rfl⟩
  cases Attempt.pure_inj.mp same
  refine ⟨((Generator.ofSeed config.seed).bytes
    (Identity.seedLength + config.regionLength)).1, ?_⟩
  constructor
  case length_eq => exact Generator.length_bytes ..
  case fits =>
    rw [Generator.length_bytes]
    exact fits
  case opened =>
    rintro (_ | _)
    · exact begunFirst
    · exact begunSecond
  case config_eq => rfl
  case party_eq =>
    rintro (_ | _)
    · rfl
    · rfl
  case relay_eq => rfl
  case audit_eq => rfl

/-- A simulation begins with an exchange in which nothing was sent. -/
theorem exists_reflects_of_start (moderate : Moderate config)
    (started : start config = pure simulation) :
    ∃ total region exchange, Reflects config total region simulation exchange := by
  rcases exists_begun_of_start started with ⟨pad, begun⟩
  have network := Network.invariant_opening begun.fits begun.opened
  have exchange := Exchange.invariant_opening begun.fits begun.opened
  have regionLength : pad.length - ({} : Settings).reserved = config.regionLength := by
    rw [begun.length_eq]
    exact Nat.add_sub_cancel_left ..
  have small : config.regionLength < wordLimit :=
    Nat.lt_of_le_of_lt (regionLength ▸ Nat.sub_le ..) begun.fits
  rw [regionLength] at network exchange
  refine ⟨UInt64.ofNat config.regionLength, pad.drop ({} : Settings).reserved,
    Exchange.opening fun role => (simulation.party role).conversation, ?_⟩
  constructor
  case moderate => exact moderate
  case config_eq => exact begun.config_eq
  case size => rw [Word.toNat_ofNat small]
  case sane =>
    have same : simulation.network =
        Network.opening fun role => (simulation.party role).conversation := by
      rcases Conversation.begin_eq_pure (begun.opened .initiator) with ⟨-, -, -, ledger⟩
      rw [regionLength] at ledger
      rw [Simulation.network, Network.opening, ← funext begun.party_eq, begun.audit_eq, ledger]
      rfl
    rw [same]
    exact network
  case lawful =>
    rw [Word.toNat_ofNat small]
    exact exchange
  case conversation =>
    intro role
    rw [begun.party_eq]
    rfl
  case sent =>
    intro role number letter frame posted
    cases posted.present
  case delivered =>
    intro role offset mem
    rw [begun.party_eq] at mem
    cases mem
  case relay =>
    intro flight mem
    rw [begun.relay_eq] at mem
    cases mem

/-! ## Whole runs -/

/-- A simulation of short messages on a pad that is not huge returns, unless it
runs out of turns or a damaged frame passes for authentic.  No step of it is a
fault, and the checks never find anything. -/
theorem run_cases (moderate : Moderate config) (started : start config = pure simulation)
    (turns : Nat) :
    (∃ stats, simulation.run turns = pure stats) ∨ simulation.run turns = throw .outOfTurns ∨
      Damages config ∧ ∃ offset, simulation.run turns = throw (.violation (forgery offset)) := by
  rcases exists_reflects_of_start moderate started with ⟨total, region, exchange, reflects⟩
  have finishes : Yields (excused config)
      (do
        runSteps simulation.config.steps 0
        drain turns
        check simulation.config.steps
        return (← get).stats) simulation fun _ _ => True := by
    simp only [yields_bind, yields_get, yields_pure]
    apply (reflects_runSteps reflects _ 0).mono
    rintro _ stepped ⟨exchange, reflects⟩
    apply (reflects_drain reflects turns).mono
    rintro _ drained ⟨exchange, reflects⟩
    apply (reflects_check reflects _).mono
    exact fun _ _ _ => trivial
  rcases finishes.run'_cases id with returned | ⟨_, rfl | ⟨damages, offset, rfl⟩, ended⟩
  · exact .inl returned
  · exact .inr (.inl ended)
  · exact .inr (.inr ⟨damages, offset, ended⟩)

theorem moderate_ofSeed (seed : UInt64) : Moderate (.ofSeed seed) where
  short := show Padding.overhead + 200 ≤ Frame.maximumCiphertext by decide
  room := show 16384 + Frame.maximumCiphertext + Authenticator.keySize < wordLimit by decide

/-- With the ordinary parameters this is so for every seed. -/
theorem run_ofSeed_cases (seed : UInt64) :
    ∃ simulation, start (.ofSeed seed) = pure simulation ∧ ∀ turns,
      (∃ stats, simulation.run turns = pure stats) ∨ simulation.run turns = throw .outOfTurns ∨
        ∃ offset, simulation.run turns = throw (.violation (forgery offset)) := by
  have fits : Identity.seedLength + 16384 < wordLimit := by decide
  obtain ⟨simulation, started⟩ : ∃ simulation, start (.ofSeed seed) = pure simulation :=
    exists_start_iff.mpr ⟨rfl, fits⟩
  refine ⟨simulation, started, fun turns => ?_⟩
  rcases run_cases (moderate_ofSeed seed) started turns with
    returned | ended | ⟨-, offset, ended⟩
  · exact .inl returned
  · exact .inr (.inl ended)
  · exact .inr (.inr ⟨offset, ended⟩)

end OneTimePad.Simulation
