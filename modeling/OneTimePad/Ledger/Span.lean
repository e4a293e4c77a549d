import OneTimePad.Checked

/-!
# Spans

A span is a run of positions of the message region, from its start up to and
without its stop.
-/

namespace OneTimePad

/-- The positions from `start` up to and without `stop`. -/
structure Span where
  start : UInt64
  stop : UInt64
deriving DecidableEq, Repr

namespace Span

/-- Whether a position belongs to a span. -/
def contains (span : Span) (position : UInt64) : Bool :=
  span.start ≤ position && position < span.stop

/-- Whether a span has no position. -/
def isEmpty (span : Span) : Bool :=
  span.stop ≤ span.start

/-- How many positions a span has.  One that stops before it starts is a
fault. -/
def length (span : Span) : Checked UInt64 :=
  Word.sub span.stop span.start

/-- A span as texts show it. -/
def describe (span : Span) : String :=
  let start := span.start.toNat
  let stop := span.stop.toNat
  s!"{start}..{stop}"

theorem contains_iff {span : Span} {position : UInt64} :
    span.contains position = true ↔
      span.start.toNat ≤ position.toNat ∧ position.toNat < span.stop.toNat := by
  simp [contains, UInt64.le_iff_toNat_le, UInt64.lt_iff_toNat_lt]

theorem isEmpty_iff {span : Span} :
    span.isEmpty = true ↔ span.stop.toNat ≤ span.start.toNat := by
  simp [isEmpty, UInt64.le_iff_toNat_le]

end Span

end OneTimePad
