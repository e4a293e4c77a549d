import OneTimePad.Proofs.Simulation.Promises

/-!
# Emptying the relay

The loop at the end of a simulation delivers frames until none is left at the
relay.  It is not the number of frames that decides when it ends, since a frame
that is kept is put back: the loop ends when as many deliveries as there were
frames have let theirs go.  If every frame is kept, that never happens.
-/

namespace OneTimePad.Simulation

variable {before middle after : Simulation} {trace : List Bool} {turns : Nat}

/-! ## Deliveries -/

/-- Deliveries one after the other, each from a relay that is not empty.  The
trace says of each of them whether it kept its frame. -/
inductive Deliveries : (trace : List Bool) → (before after : Simulation) → Prop where
  | nil (simulation : Simulation) : Deliveries [] simulation simulation
  | cons {trace : List Bool} {before middle after : Simulation} (waiting : before.relay ≠ [])
      (delivered : deliver.run before = pure ((), middle))
      (others : Deliveries trace middle after) :
      Deliveries (before.keeps :: trace) before after

theorem delivered_of_run (waiting : before.relay ≠ [])
    (delivered : deliver.run before = pure ((), middle)) : Delivered before middle :=
  yields_all_iff.mp (delivered_deliver waiting) () middle delivered

/-- The relay loses one frame for each delivery that does not keep its frame. -/
theorem Deliveries.length_eq (deliveries : Deliveries trace before after) :
    after.relay.length + trace.count false = before.relay.length := by
  induction deliveries with
  | nil => rfl
  | @cons trace before middle after waiting delivered _ inductionHypothesis =>
      have first := (delivered_of_run waiting delivered).relay
      rw [← List.singleton_append, List.count_append]
      omega

/-- The relay is empty after deliveries exactly when they have let go of as many
frames as it had. -/
theorem Deliveries.relay_eq_nil_iff (deliveries : Deliveries trace before after) :
    after.relay = [] ↔ trace.count false = before.relay.length := by
  rw [← deliveries.length_eq, ← List.length_eq_zero_iff]
  omega

/-! ## The loop -/

theorem run_drain_of_empty (turns : Nat) (empty : before.relay = []) :
    (drain turns).run before = pure ((), before) := by
  cases turns <;> simp [drain, empty]

theorem run_drain_of_waiting (turns : Nat) (waiting : before.relay ≠ []) :
    (drain (turns + 1)).run before = (deliver >>= fun _ => drain turns).run before := by
  simp [drain, waiting]

theorem exists_deliveries_of_drain (drained : (drain turns).run before = pure ((), after)) :
    ∃ trace, Deliveries trace before after ∧ after.relay = [] ∧ trace.length ≤ turns := by
  induction turns generalizing before with
  | zero =>
      by_cases empty : before.relay = []
      · rw [run_drain_of_empty 0 empty] at drained
        obtain ⟨-, rfl⟩ := Prod.mk.inj (Attempt.pure_inj.mp drained)
        exact ⟨[], .nil before, empty, Nat.le_refl 0⟩
      · have stopped : (drain 0).run before = throw .outOfTurns := by
          simp only [drain, StateT.run_bind, StateT.run_get, pure_bind, List.isEmpty_iff,
            if_neg empty]
          rfl
        cases stopped.symm.trans drained
  | succ turns inductionHypothesis =>
      by_cases empty : before.relay = []
      · rw [run_drain_of_empty _ empty] at drained
        obtain ⟨-, rfl⟩ := Prod.mk.inj (Attempt.pure_inj.mp drained)
        exact ⟨[], .nil before, empty, Nat.zero_le _⟩
      · rw [run_drain_of_waiting turns empty] at drained
        rcases run_bind_eq_pure_iff.mp drained with ⟨⟨⟩, middle, delivered, others⟩
        rcases inductionHypothesis others with ⟨trace, deliveries, emptied, short⟩
        exact ⟨_, .cons empty delivered deliveries, emptied, Nat.succ_le_succ short⟩

theorem Deliveries.run_drain (deliveries : Deliveries trace before after)
    (emptied : after.relay = []) (short : trace.length ≤ turns) :
    (drain turns).run before = pure ((), after) := by
  induction deliveries generalizing turns with
  | nil => exact run_drain_of_empty turns emptied
  | @cons trace before middle after waiting delivered _ inductionHypothesis =>
      cases turns with
      | zero => cases short
      | succ turns =>
          rw [run_drain_of_waiting turns waiting]
          exact run_bind_eq_pure_iff.mpr
            ⟨_, _, delivered, inductionHypothesis emptied (Nat.le_of_succ_le_succ short)⟩

/-- The loop ends after the deliveries that let go of all frames, whatever
number of deliveries in between keep theirs. -/
theorem run_drain_eq_pure_iff :
    (drain turns).run before = pure ((), after) ↔
      ∃ trace, Deliveries trace before after ∧ trace.count false = before.relay.length ∧
        trace.length ≤ turns := by
  constructor
  · intro drained
    rcases exists_deliveries_of_drain drained with ⟨trace, deliveries, emptied, short⟩
    exact ⟨trace, deliveries, deliveries.relay_eq_nil_iff.mp emptied, short⟩
  · rintro ⟨trace, deliveries, counted, short⟩
    exact deliveries.run_drain (deliveries.relay_eq_nil_iff.mpr counted) short

/-- If every frame is kept, the relay loses none. -/
theorem Deliveries.count_of_sure (deliveries : Deliveries trace before after)
    (sure : before.config.duplicateRate.magnitude = Binary64.one) : trace.count false = 0 := by
  induction deliveries with
  | nil => rfl
  | @cons trace before middle after waiting delivered _ inductionHypothesis =>
      have first := delivered_of_run waiting delivered
      rw [keeps_of_sure sure first.placed]
      exact inductionHypothesis (by rwa [first.config])

/-- Where the loop ends, and with what: the relay is empty, or the next delivery
ends the simulation. -/
inductive Ends (final : Simulation) : Attempt Halt (Unit × Simulation) → Prop where
  | emptied (empty : final.relay = []) : Ends final (pure ((), final))
  | stopped (waiting : final.relay ≠ []) (stops : ∀ result, deliver.run final ≠ pure result) :
      Ends final (deliver.run final)

/-- If no frame is kept, the loop ends after as many deliveries as there are
frames, or one of them ends the simulation before. -/
theorem exists_ends_of_never (never : before.config.duplicateRate.timesWordRange = 0) :
    ∃ trace final outcome, Deliveries trace before final ∧
      trace.length + final.relay.length = before.relay.length ∧ Ends final outcome ∧
      ∀ turns, before.relay.length ≤ turns → (drain turns).run before = outcome := by
  induction count : before.relay.length generalizing before with
  | zero =>
      have empty := List.length_eq_zero_iff.mp count
      exact ⟨[], before, _, .nil before, by rw [count]; rfl, .emptied empty,
        fun turns _ => run_drain_of_empty turns empty⟩
  | succ left inductionHypothesis =>
      have waiting : before.relay ≠ [] := by
        rw [← List.length_pos_iff, count]
        exact Nat.succ_pos left
      by_cases goes : ∃ result, deliver.run before = pure result
      · rcases goes with ⟨⟨⟨⟩, middle⟩, delivered⟩
        have first := delivered_of_run waiting delivered
        have relay := first.relay
        rw [keeps_of_never never, List.count_singleton_self, count, Nat.succ.injEq] at relay
        rcases inductionHypothesis (by rwa [first.config]) relay with
          ⟨trace, final, outcome, deliveries, size, ends, drains⟩
        refine ⟨_, final, outcome, .cons waiting delivered deliveries, ?_, ends, ?_⟩
        · rw [List.length_cons]
          omega
        · intro turns enough
          obtain ⟨turns, rfl⟩ :=
            Nat.exists_eq_add_of_le' (Nat.le_trans (Nat.succ_pos left) enough)
          rw [run_drain_of_waiting turns waiting, StateT.run_bind, delivered, pure_bind]
          exact drains turns (Nat.le_of_succ_le_succ enough)
      · have stops : ∀ result, deliver.run before ≠ pure result :=
          fun result same => goes ⟨result, same⟩
        refine ⟨[], before, _, .nil before, by rw [count]; exact Nat.zero_add _,
          .stopped waiting stops, ?_⟩
        intro turns enough
        obtain ⟨turns, rfl⟩ := Nat.exists_eq_add_of_le' (Nat.le_trans (Nat.succ_pos left) enough)
        rw [run_drain_of_waiting turns waiting, run_bind_of_ended stops]

/-- If no frame is kept, there is no use for more turns than there are
frames. -/
theorem run_drain_of_never (never : before.config.duplicateRate.timesWordRange = 0)
    {more : Nat} (enough : before.relay.length ≤ turns) (le : turns ≤ more) :
    (drain more).run before = (drain turns).run before := by
  obtain ⟨_, _, outcome, -, -, -, drains⟩ := exists_ends_of_never never
  rw [drains turns enough, drains more (Nat.le_trans enough le)]

/-! ## Whole runs -/

/-- A simulation returns if its steps go on, the loop after them ends, and the
checks find nothing then. -/
theorem run_eq_pure_iff {simulation : Simulation} {stats : SimulationStats} :
    simulation.run turns = pure stats ↔
      ∃ waiting final,
        (runSteps simulation.config.steps 0).run simulation = pure ((), waiting) ∧
        (drain turns).run waiting = pure ((), final) ∧
        (check simulation.config.steps).run final = pure ((), final) ∧ final.stats = stats := by
  rw [run, run'_eq_pure_iff]
  simp only [run_bind_eq_pure_iff]
  constructor
  · rintro ⟨after, ⟨⟩, waiting, stepped, ⟨⟩, final, drained, ⟨⟩, same, checked, _, _, read,
      answered⟩
    obtain rfl := yields_all_iff.mp (yields_check _ final) () same checked
    obtain ⟨rfl, rfl⟩ := Prod.mk.inj (Attempt.pure_inj.mp read)
    obtain ⟨rfl, rfl⟩ := Prod.mk.inj (Attempt.pure_inj.mp answered)
    exact ⟨waiting, _, stepped, drained, checked, rfl⟩
  · rintro ⟨waiting, final, stepped, drained, checked, rfl⟩
    exact ⟨final, (), waiting, stepped, (), final, drained, (), final, checked,
      final, final, rfl, rfl⟩

/-- If every frame is kept, a simulation that returns has sent nothing. -/
theorem sent_of_run_of_sure {simulation : Simulation} {stats : SimulationStats}
    (sure : simulation.config.duplicateRate.magnitude = Binary64.one)
    (returned : simulation.run turns = pure stats) : stats.sent = simulation.stats.sent := by
  rcases run_eq_pure_iff.mp returned with ⟨waiting, final, stepped, drained, -, rfl⟩
  have grows := yields_all_iff.mp (grows_runSteps _ 0 simulation) () waiting stepped
  rcases run_drain_eq_pure_iff.mp drained with ⟨trace, deliveries, counted, -⟩
  rw [deliveries.count_of_sure (by rwa [grows.config])] at counted
  have empty : waiting.relay = [] := List.length_eq_zero_iff.mp counted.symm
  rw [run_drain_of_empty turns empty] at drained
  obtain ⟨-, rfl⟩ := Prod.mk.inj (Attempt.pure_inj.mp drained)
  have kept := grows.kept sure
  have sent := grows.sent
  omega

/-- If no frame is kept, there is no use for more turns than there can be
frames. -/
theorem run_of_never {simulation : Simulation}
    (never : simulation.config.duplicateRate.timesWordRange = 0) {more : Nat}
    (enough : simulation.relay.length + 2 * simulation.config.steps ≤ turns) (le : turns ≤ more) :
    simulation.run more = simulation.run turns := by
  rw [run, run, StateT.run', StateT.run']
  refine congrArg (Prod.fst <$> ·) (run_bind_congr ?_)
  apply (grows_runSteps _ 0 simulation).mono
  intro _ waiting grows
  rw [StateT.run_bind, StateT.run_bind, run_drain_of_never _ _ le]
  · rwa [grows.config]
  · exact Nat.le_trans grows.relay enough

/-- A simulation returns exactly if the deliveries after its steps come to let go
of as many frames as are then at the relay, however many times frames are kept
in between.  If every frame is kept, it returns only if it has sent nothing.  If
none is kept, it has no use for more turns than there can be frames: the loop
after the steps ends, since the relay is empty after one delivery for each frame,
or one of these deliveries has ended the simulation. -/
theorem run_returns_iff (simulation : Simulation) :
    (∀ turns stats, simulation.run turns = pure stats ↔
      ∃ waiting trace final,
        (runSteps simulation.config.steps 0).run simulation = pure ((), waiting) ∧
        Deliveries trace waiting final ∧ trace.count false = waiting.relay.length ∧
        trace.length ≤ turns ∧
        (check simulation.config.steps).run final = pure ((), final) ∧ final.stats = stats) ∧
    (simulation.config.duplicateRate.magnitude = Binary64.one → ∀ turns stats,
      simulation.run turns = pure stats → stats.sent = simulation.stats.sent) ∧
    (simulation.config.duplicateRate.timesWordRange = 0 → ∀ turns,
      simulation.relay.length + 2 * simulation.config.steps ≤ turns →
        simulation.run turns =
          simulation.run (simulation.relay.length + 2 * simulation.config.steps)) ∧
    (simulation.config.duplicateRate.timesWordRange = 0 → ∀ waiting,
      (runSteps simulation.config.steps 0).run simulation = pure ((), waiting) →
        waiting.relay.length ≤ simulation.relay.length + 2 * simulation.config.steps ∧
        ∃ trace final outcome, Deliveries trace waiting final ∧
          trace.length + final.relay.length = waiting.relay.length ∧ Ends final outcome ∧
          ∀ turns, waiting.relay.length ≤ turns → (drain turns).run waiting = outcome) := by
  refine ⟨?_, ?_, ?_, ?_⟩
  · intro turns stats
    rw [run_eq_pure_iff]
    constructor
    · rintro ⟨waiting, final, stepped, drained, checked, same⟩
      rcases run_drain_eq_pure_iff.mp drained with ⟨trace, deliveries, counted, short⟩
      exact ⟨waiting, trace, final, stepped, deliveries, counted, short, checked, same⟩
    · rintro ⟨waiting, trace, final, stepped, deliveries, counted, short, checked, same⟩
      have drained := run_drain_eq_pure_iff.mpr ⟨trace, deliveries, counted, short⟩
      exact ⟨waiting, final, stepped, drained, checked, same⟩
  · exact fun sure _ _ returned => sent_of_run_of_sure sure returned
  · exact fun never _ enough => run_of_never never (Nat.le_refl _) enough
  · intro never waiting stepped
    have grows := yields_all_iff.mp (grows_runSteps _ 0 simulation) () waiting stepped
    exact ⟨grows.relay, exists_ends_of_never (by rwa [grows.config])⟩

/-- Parameters that are accepted, although every frame is kept. -/
def keepingAll : SimulationConfig where
  seed := 1
  regionLength := 1024
  steps := 1
  longestMessage := 200
  duplicateRate := ⟨0x3ff0000000000000⟩
  echoRate := ⟨0⟩
  reorderRate := ⟨0⟩
  tamperRate := ⟨0⟩

/-- Whether an attempt comes to a value that passes a test. -/
def comesTo {ε α : Type} (attempt : Attempt ε α) (test : α → Bool) : Bool :=
  match attempt.run with
  | .ok (.ok value) => test value
  | _ => false

theorem exists_of_comesTo {ε α : Type} {attempt : Attempt ε α} {test : α → Bool}
    (comes : comesTo attempt test = true) : ∃ value, attempt = pure value ∧ test value = true := by
  revert comes
  rcases attempt with fault | error | value
  · exact nofun
  · exact nofun
  · exact fun comes => ⟨value, rfl, comes⟩

/-- Its only step sends a frame. -/
theorem exists_sent_keepingAll :
    ∃ simulation waiting, start keepingAll = pure simulation ∧
      (runSteps 1 0).run simulation = pure ((), waiting) ∧ waiting.stats.sent = 1 ∧
      waiting.relay.length = 1 := by
  have computed : (comesTo (start keepingAll) fun simulation =>
      comesTo ((runSteps 1 0).run simulation) fun result =>
        decide (result.2.stats.sent = 1 ∧ result.2.relay.length = 1)) = true := by
    decide +kernel
  rcases exists_of_comesTo computed with ⟨simulation, started, computed⟩
  rcases exists_of_comesTo computed with ⟨⟨⟨⟩, waiting⟩, stepped, computed⟩
  rcases of_decide_eq_true computed with ⟨sent, waits⟩
  exact ⟨simulation, waiting, started, stepped, sent, waits⟩

theorem moderate_keepingAll : Moderate keepingAll where
  short := show Padding.overhead + 200 ≤ Frame.maximumCiphertext by decide
  room := show 1024 + Frame.maximumCiphertext + Authenticator.keySize < wordLimit by decide

/-- An accepted simulation that sends one frame, and then runs out of turns, no
matter how many there are. -/
theorem run_returns_iff_keepingAll :
    keepingAll.validate = .ok () ∧
      ∃ simulation waiting, start keepingAll = pure simulation ∧
        (runSteps keepingAll.steps 0).run simulation = pure ((), waiting) ∧
        waiting.stats.sent = 1 ∧ waiting.relay.length = 1 ∧
        ∀ turns, simulation.run turns = throw .outOfTurns := by
  obtain ⟨simulation, waiting, started, stepped, sent, waits⟩ := exists_sent_keepingAll
  refine ⟨rfl, simulation, waiting, started, stepped, sent, waits, fun turns => ?_⟩
  rcases exists_begun_of_start started with ⟨pad, begun⟩
  have grows := yields_all_iff.mp (grows_runSteps 1 0 simulation) () waiting stepped
  have config : waiting.config = keepingAll := grows.config.trans begun.config_eq
  rcases run_cases moderate_keepingAll started turns with
    ⟨stats, returned⟩ | ended | ⟨damages, -⟩
  · rcases ((run_returns_iff simulation).1 turns stats).mp returned with
      ⟨others, trace, final, same, deliveries, counted, -⟩
    rw [begun.config_eq] at same
    obtain ⟨-, rfl⟩ := Prod.mk.inj (Attempt.pure_inj.mp (stepped.symm.trans same))
    rw [deliveries.count_of_sure (by rw [config]; rfl), waits] at counted
    cases counted
  · exact ended
  · exact absurd rfl damages

end OneTimePad.Simulation
