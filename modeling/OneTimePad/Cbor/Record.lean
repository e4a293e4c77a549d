import OneTimePad.Cbor.Value

/-!
# CBOR records

A record is a map from field names to values.  The fields come in any order,
each at most once; entries under other keys are passed over, and so is all that
follows the map.
-/

namespace OneTimePad.Cbor

/-- A field of a record under construction: absent until its entry is read. -/
abbrev Field (α : Type) := Option α

/-- Read the value of a field, which must not have been read before. -/
def fillField {α : Type} (field : Field α) (value : Reader α) : Reader (Field α) := do
  if field.isSome then throw .unexpected
  return some (← value)

/-- A field that has to be there when all entries are read. -/
def demand {α : Type} : Field α → Reader α
  | some value => return value
  | none => throw .unexpected

/-- Read the entries of a record.  `entry` says for a key how its value goes
into the record under construction, if the key names a field. -/
def readEntries {σ : Type} (entry : List UInt8 → Option (σ → Reader σ)) :
    (turns : Nat) → Option Nat → σ → Reader σ
  | 0, _, _ => throw .endOfInput
  | turns + 1, count, record => do
      match ← nextEntry count with
      | none => return record
      | some count =>
          match entry (← readKey) with
          | some fill => do
              let record ← fill record
              readEntries entry turns count record
          | none => do
              skip
              readEntries entry turns count record

/-- Read a record. -/
def readRecord {σ : Type} (entry : List UInt8 → Option (σ → Reader σ)) (blank : σ) :
    Reader σ := do
  match ← readUntagged with
  | .map count => readEntries entry ((← get).length + 1) count blank
  | _ => throw .unexpected

end OneTimePad.Cbor
