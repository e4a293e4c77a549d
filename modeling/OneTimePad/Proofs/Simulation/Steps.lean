import OneTimePad.Simulation.Basic

/-!
# Steps of a simulation

What a step comes to, worked out along the step: a sequence of steps comes to
what the last one does, from the state that the others have left behind.  How a
step may end the simulation early is a parameter.  If every ending is admitted,
only what holds when the step goes on is asked for.
-/

namespace OneTimePad.Simulation

/-- The ways in which a step may end a simulation. -/
structure Endings where
  fault : Prop
  halt : Halt → Prop

/-- All endings. -/
def Endings.all : Endings :=
  ⟨True, fun _ => True⟩

@[simp]
theorem halt_all (halt : Halt) : Endings.all.halt halt :=
  trivial

/-- A step goes on to an answer and a state of which something holds, or it ends
the simulation in one of the given ways. -/
def Yields {α : Type} (endings : Endings) (step : Step α) (before : Simulation)
    (holds : α → Simulation → Prop) : Prop :=
  match (step.run before).run with
  | .error _ => endings.fault
  | .ok (.error halt) => endings.halt halt
  | .ok (.ok (value, after)) => holds value after

section Rules

variable {α β : Type} {endings : Endings} {before after : Simulation}
  {holds : α → Simulation → Prop}

theorem yields_all_iff {step : Step α} :
    Yields .all step before holds ↔
      ∀ value after, step.run before = pure (value, after) → holds value after := by
  unfold Yields
  rcases step.run before with fault | halt | ⟨answer, middle⟩
  · constructor
    · intro _ value after same
      cases same
    · exact fun _ => trivial
  · constructor
    · intro _ value after same
      cases same
    · exact fun _ => trivial
  · constructor
    · intro holds value after same
      obtain ⟨rfl, rfl⟩ := Prod.mk.inj (Attempt.pure_inj.mp same)
      exact holds
    · exact fun yields => yields answer middle rfl

/-- What a step yields may be weakened. -/
theorem Yields.mono {step : Step α} {weaker : α → Simulation → Prop}
    (yields : Yields endings step before holds)
    (weaken : ∀ value after, holds value after → weaker value after) :
    Yields endings step before weaker := by
  revert yields
  unfold Yields
  rcases step.run before with fault | halt | ⟨value, after⟩
  · exact id
  · exact id
  · exact weaken value after

theorem run_bind_eq_pure_iff {first : Step β} {next : β → Step α} {value : α} :
    (first >>= next).run before = pure (value, after) ↔
      ∃ answer middle, first.run before = pure (answer, middle) ∧
        (next answer).run middle = pure (value, after) := by
  rw [StateT.run_bind, Attempt.bind_eq_pure_iff, Prod.exists]

theorem run'_eq_pure_iff {step : Step α} {value : α} :
    step.run' before = pure value ↔ ∃ after, step.run before = pure (value, after) := by
  change (fun answer => answer.1) <$> step.run before = _ ↔ _
  rw [← bind_pure_comp, Attempt.bind_eq_pure_iff]
  simp only [Attempt.pure_inj, Prod.exists]
  constructor
  · rintro ⟨_, after, stepped, rfl⟩
    exact ⟨after, stepped⟩
  · rintro ⟨after, stepped⟩
    exact ⟨value, after, stepped, rfl⟩

/-- A step that ends a simulation in given ways only, none of them a fault,
gives an answer or ends it in one of these ways. -/
theorem Yields.run'_cases {step : Step α} (yields : Yields endings step before holds)
    (faultless : ¬ endings.fault) :
    (∃ value, step.run' before = pure value) ∨
      ∃ halt, endings.halt halt ∧ step.run' before = throw halt := by
  revert yields
  rw [StateT.run']
  change _ → (∃ value, (fun answer => answer.1) <$> step.run before = pure value) ∨
    ∃ halt, endings.halt halt ∧ (fun answer => answer.1) <$> step.run before = throw halt
  unfold Yields
  rcases step.run before with fault | halt | ⟨value, after⟩
  · exact fun faulty => absurd faulty faultless
  · exact fun ended => .inr ⟨halt, ended, rfl⟩
  · exact fun _ => .inl ⟨value, rfl⟩

/-- What follows a step that ends the simulation makes no difference. -/
theorem run_bind_of_ended {first : Step α} {next : α → Step α}
    (ended : ∀ result, first.run before ≠ pure result) :
    (first >>= next).run before = first.run before := by
  revert ended
  rw [StateT.run_bind]
  rcases first.run before with fault | halt | result
  · exact fun _ => rfl
  · exact fun _ => rfl
  · exact fun ended => absurd rfl (ended result)

/-- Two ways to continue a step are the same if they are from wherever it goes
on. -/
theorem run_bind_congr {first : Step β} {next other : β → Step α}
    (same : Yields .all first before fun answer middle =>
      (next answer).run middle = (other answer).run middle) :
    (first >>= next).run before = (first >>= other).run before := by
  revert same
  unfold Yields
  rw [StateT.run_bind, StateT.run_bind]
  rcases first.run before with fault | halt | ⟨answer, middle⟩
  · exact fun _ => rfl
  · exact fun _ => rfl
  · exact id

@[simp]
theorem yields_pure {value : α} : Yields endings (pure value) before holds ↔ holds value before :=
  Iff.rfl

@[simp]
theorem yields_bind {first : Step β} {next : β → Step α} :
    Yields endings (first >>= next) before holds ↔
      Yields endings first before fun answer middle =>
        Yields endings (next answer) middle holds := by
  unfold Yields
  rw [StateT.run_bind]
  rcases first.run before with fault | halt | ⟨answer, middle⟩
  · exact Iff.rfl
  · exact Iff.rfl
  · exact Iff.rfl

@[simp]
theorem yields_map {first : Step β} {change : β → α} :
    Yields endings (change <$> first) before holds ↔
      Yields endings first before fun answer after => holds (change answer) after := by
  rw [← bind_pure_comp, yields_bind]
  simp only [yields_pure]

@[simp]
theorem yields_throw {halt : Halt} :
    Yields endings (throw halt : Step α) before holds ↔ endings.halt halt :=
  Iff.rfl

@[simp]
theorem yields_fail {invariant message : String} :
    Yields endings (fail invariant message : Step α) before holds ↔
      endings.halt (.violation ⟨invariant, message⟩) :=
  Iff.rfl

@[simp]
theorem yields_lift_error {fault : Fault} :
    Yields endings (liftM (.error fault : Checked α) : Step α) before holds ↔ endings.fault :=
  Iff.rfl

@[simp]
theorem yields_lift_ok {value : α} :
    Yields endings (liftM (.ok value : Checked α) : Step α) before holds ↔ holds value before :=
  Iff.rfl

@[simp]
theorem yields_all_lift {attempt : Checked α} :
    Yields .all (liftM attempt : Step α) before holds ↔
      ∀ value, attempt = .ok value → holds value before := by
  cases attempt <;> simp [Endings.all]

@[simp]
theorem yields_ite {condition : Prop} [Decidable condition] {first second : Step α} :
    Yields endings (if condition then first else second) before holds ↔
      (condition → Yields endings first before holds) ∧
        (¬ condition → Yields endings second before holds) := by
  by_cases holdsThen : condition <;> simp [holdsThen]

variable {holdsState : Simulation → Simulation → Prop} {holdsUnit : Unit → Simulation → Prop}

@[simp]
theorem yields_get : Yields endings get before holdsState ↔ holdsState before before :=
  Iff.rfl

@[simp]
theorem yields_set : Yields endings (set after) before holdsUnit ↔ holdsUnit () after :=
  Iff.rfl

@[simp]
theorem yields_modify {change : Simulation → Simulation} :
    Yields endings (modify change) before holdsUnit ↔ holdsUnit () (change before) :=
  Iff.rfl

@[simp]
theorem yields_draw {drawing : Generator → α × Generator} :
    Yields endings (draw drawing) before holds ↔
      holds (drawing before.generator).1
        { before with generator := (drawing before.generator).2 } :=
  Iff.rfl

@[simp]
theorem yields_chance {probability : Binary64} {holds : Bool → Simulation → Prop} :
    Yields endings (chance probability) before holds ↔
      holds (before.generator.chance probability).1
        { before with generator := (before.generator.chance probability).2 } :=
  Iff.rfl

@[simp]
theorem yields_enqueue {flight : Flight} :
    Yields endings (enqueue flight) before holdsUnit ↔
      holdsUnit () { before with relay := before.relay ++ [flight] } :=
  Iff.rfl

@[simp]
theorem yields_drawBelow {bound : Nat} {holds : Nat → Simulation → Prop} :
    Yields endings (drawBelow bound) before holds ↔
      match Generator.below bound drawTurns before.generator with
      | none => endings.halt .outOfTurns
      | some (number, generator) => holds number { before with generator } := by
  simp only [drawBelow, yields_bind, yields_get]
  rcases Generator.below bound drawTurns before.generator with _ | ⟨number, generator⟩
  · exact Iff.rfl
  · exact Iff.rfl

end Rules

end OneTimePad.Simulation
