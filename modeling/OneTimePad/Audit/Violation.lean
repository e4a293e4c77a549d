/-!
# Violations

A broken promise of the system: which promise it is, and the numbers that show
it.
-/

namespace OneTimePad

/-- A promise that does not hold. -/
structure Violation where
  /-- The name of the promise. -/
  invariant : String
  /-- The numbers that show it. -/
  message : String
deriving DecidableEq, Repr

/-- The text of a violation. -/
def Violation.describe (violation : Violation) : String :=
  "[" ++ violation.invariant ++ "] " ++ violation.message

end OneTimePad
