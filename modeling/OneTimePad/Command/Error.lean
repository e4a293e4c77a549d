import OneTimePad.Ledger.Error

/-!
# Errors of commands

Why a command prints no answer.
-/

namespace OneTimePad

/-- Why a command failed. -/
inductive CommandError where
  /-- The file cannot be read. -/
  | read (path reason : String)
  /-- The input is neither base64 nor hexadecimal text. -/
  | encoding (reason : String)
  /-- A primitive refused its arguments. -/
  | primitive (error : PadError)
  /-- A frame cannot be read. -/
  | frame (error : FrameError)
  /-- Settings or stored counters are refused. -/
  | ledger (error : LedgerError)
  /-- The checksum is not the expected one. -/
  | checksumMismatch (expected actual : String)
deriving DecidableEq, Repr

/-- The text of an error. -/
def CommandError.message : CommandError → String
  | read path reason => s!"cannot read {path}: {reason}"
  | encoding reason => s!"invalid encoding: {reason}"
  | primitive error => error.message
  | frame error => error.message
  | ledger error => error.message
  | checksumMismatch expected actual =>
      s!"checksum mismatch: expected {expected}, computed {actual}"

end OneTimePad
