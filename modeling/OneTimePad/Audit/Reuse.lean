import OneTimePad.Audit.Violation
import OneTimePad.Ledger.Role

/-!
# The reuse audit

The audit is told of every span the moment it is consumed, by either party, and
refuses the first one that touches a position consumed before.  Accepted spans
are kept in the order of their starts, so only the two neighbours of a new span
have to be looked at.
-/

namespace OneTimePad

/-- All spans consumed so far, in the order of their starts. -/
structure ReuseAudit where
  /-- The size of the message region. -/
  total : UInt64
  entries : List (Span × Role) := []
deriving DecidableEq, Repr

namespace ReuseAudit

/-- A violation that the audit has found. -/
def violation (message : String) : Violation :=
  ⟨"RangeAudit", message⟩

/-- The violation by a span that no party can consume. -/
def invalid (audit : ReuseAudit) (role : Role) (span : Span) : Violation :=
  let total := audit.total.toNat
  violation (role.name ++ " range " ++ span.describe ++ s!" invalid for total {total}")

/-- The violation by a span that touches an accepted one. -/
def overlap (role : Role) (span : Span) (accepted : Span × Role) : Violation :=
  violation (role.name ++ " range " ++ span.describe ++ " overlaps " ++ accepted.2.name ++
    " range " ++ accepted.1.describe)

/-- The entries that start at or before a position. -/
def upTo (audit : ReuseAudit) (position : UInt64) : List (Span × Role) :=
  audit.entries.takeWhile fun entry => decide (entry.1.start ≤ position)

/-- The entries that start after a position. -/
def beyond (audit : ReuseAudit) (position : UInt64) : List (Span × Role) :=
  audit.entries.dropWhile fun entry => decide (entry.1.start ≤ position)

/-- Record a span that a party consumes. -/
def record (audit : ReuseAudit) (role : Role) (span : Span) : Except Violation ReuseAudit :=
  if span.stop ≤ span.start ∨ audit.total < span.stop then .error (audit.invalid role span)
  else
    let before := audit.upTo span.start
    let after := audit.beyond span.start
    match before.getLast?.filter fun entry => decide (span.start < entry.1.stop) with
    | some entry => .error (overlap role span entry)
    | none =>
        match after.head?.filter fun entry => decide (entry.1.start < span.stop) with
        | some entry => .error (overlap role span entry)
        | none => .ok { audit with entries := before ++ (span, role) :: after }

/-- The accepted spans of a party, in order. -/
def spansOf (audit : ReuseAudit) (role : Role) : List Span :=
  (audit.entries.filter fun entry => entry.2 = role).map (·.1)

/-- The sum of the lengths of spans. -/
def totalLength (spans : List Span) : Checked UInt64 :=
  spans.foldlM (fun sum span => do Word.add sum (← span.length)) 0

/-- How many positions are consumed. -/
def consumed (audit : ReuseAudit) : Checked UInt64 :=
  totalLength (audit.entries.map (·.1))

/-- How many spans were accepted. -/
def size (audit : ReuseAudit) : Nat :=
  audit.entries.length

end ReuseAudit

end OneTimePad
