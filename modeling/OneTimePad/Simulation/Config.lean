import OneTimePad.Audit.Violation
import OneTimePad.Number.Shortest

/-!
# Parameters of a simulation

The seed, the sizes, and how often the relay misbehaves.  Each rate is a
probability; a configuration with a rate that is none is refused.
-/

namespace OneTimePad

/-- The parameters of a simulation. -/
structure SimulationConfig where
  seed : UInt64
  /-- The size of the message region. -/
  regionLength : Nat
  /-- How many times a party sends or a frame arrives before the relay is
  emptied. -/
  steps : Nat
  /-- The length of the longest message. -/
  longestMessage : Nat
  /-- How often a frame that arrives stays at the relay as well. -/
  duplicateRate : Binary64
  /-- How often a frame is also delivered to its sender. -/
  echoRate : Binary64
  /-- How often a frame arrives out of turn. -/
  reorderRate : Binary64
  /-- How often a bit of a frame is flipped on the way. -/
  tamperRate : Binary64
deriving DecidableEq, Repr

namespace SimulationConfig

/-- One in ten. -/
def tenth : Binary64 := ⟨0x3fb999999999999a⟩

/-- One in twenty. -/
def twentieth : Binary64 := ⟨0x3fa999999999999a⟩

/-- The ordinary parameters, with a seed. -/
def ofSeed (seed : UInt64) : SimulationConfig :=
  { seed, regionLength := 16384, steps := 400, longestMessage := 200, duplicateRate := tenth
    echoRate := tenth, reorderRate := tenth, tamperRate := twentieth }

/-- All rates. -/
def rates (config : SimulationConfig) : List Binary64 :=
  [config.duplicateRate, config.echoRate, config.reorderRate, config.tamperRate]

/-- The violation by rates that are no probabilities. -/
def invalidRates (config : SimulationConfig) : Violation :=
  let rates := String.intercalate ", " (config.rates.map Binary64.describe)
  ⟨"SimConfig", "rates must lie in [0, 1]: [" ++ rates ++ "]"⟩

/-- Check that every rate is a probability. -/
def validate (config : SimulationConfig) : Except Violation Unit :=
  if config.rates.all Binary64.inUnitInterval then .ok () else .error config.invalidRates

end SimulationConfig

end OneTimePad
