/-!
# Checked words and sizes

Positions and counters of a pad are 64-bit words, and the length of a byte
string is a size of the same range.  An addition or subtraction that would leave
that range is a *fault*: the computation stops there, and no wrapped value is
ever used.  A slice that does not exist is a fault as well.

Faults are kept apart from the errors of the domain.  A domain error is an
ordinary answer to a caller; a fault means that a caller broke a precondition.
The lemmas say exactly when a checked operation succeeds, in terms of the
natural numbers that the words stand for.
-/

namespace OneTimePad

/-- Why a computation had to stop. -/
inductive Fault where
  /-- A sum does not fit its word. -/
  | addOverflow
  /-- A difference would be negative. -/
  | subtractOverflow
  /-- A slice ends before it starts. -/
  | sliceOrder (start stop : Nat)
  /-- A slice ends after the bytes do. -/
  | sliceEnd (stop length : Nat)
  /-- Bytes were copied to a place of another size. -/
  | copyLength (source target : Nat)
deriving DecidableEq, Repr

/-- The text of a fault. -/
def Fault.message : Fault → String
  | .addOverflow => "attempt to add with overflow"
  | .subtractOverflow => "attempt to subtract with overflow"
  | .sliceOrder start stop => s!"slice index starts at {start} but ends at {stop}"
  | .sliceEnd stop length => s!"range end index {stop} out of range for slice of length {length}"
  | .copyLength source target => s!"cannot copy {source} bytes to a place of {target} bytes"

/-- A computation that may fault. -/
abbrev Checked := Except Fault

/-- A computation that may fault, and otherwise answers with a value or with a
domain error. -/
abbrev Attempt (ε : Type) := ExceptT ε Checked

/-! ## Answers -/

section Answers

variable {ε α β : Type}

@[simp]
theorem Checked.pure_eq_ok (value : α) : (pure value : Checked α) = .ok value :=
  rfl

@[simp]
theorem Checked.ok_bind (value : α) (next : α → Checked β) :
    ((.ok value : Checked α) >>= next) = next value :=
  rfl

@[simp]
theorem Checked.error_bind (fault : Fault) (next : α → Checked β) :
    ((.error fault : Checked α) >>= next) = .error fault :=
  rfl

theorem Checked.bind_eq_ok_iff {first : Checked α} {next : α → Checked β} {value : β} :
    (first >>= next) = .ok value ↔ ∃ middle, first = .ok middle ∧ next middle = .ok value := by
  cases first <;> simp

@[simp]
theorem Attempt.lift_ok (value : α) :
    (liftM (.ok value : Checked α) : Attempt ε α) = pure value :=
  rfl

@[simp]
theorem Attempt.answer_ok (value : α) :
    (liftM (.ok value : Except ε α) : Attempt ε α) = pure value :=
  rfl

@[simp]
theorem Attempt.answer_error (error : ε) :
    (liftM (.error error : Except ε α) : Attempt ε α) = throw error :=
  rfl

theorem Attempt.pure_inj {left right : α} :
    (pure left : Attempt ε α) = pure right ↔ left = right := by
  constructor
  · intro same
    injection same with same
    injection same
  · rintro rfl
    rfl

theorem Attempt.throw_inj {left right : ε} :
    (throw left : Attempt ε α) = throw right ↔ left = right := by
  constructor
  · intro same
    injection same with same
    injection same
  · rintro rfl
    rfl

theorem Attempt.throw_ne_pure {error : ε} {value : α} :
    (throw error : Attempt ε α) ≠ pure value := by
  intro same
  injection same with same
  cases same

theorem Attempt.bind_eq_pure_iff {first : Attempt ε α} {next : α → Attempt ε β} {value : β} :
    (first >>= next) = pure value ↔ ∃ middle, first = pure middle ∧ next middle = pure value := by
  rcases first with fault | error | answer
  · constructor
    · intro same
      cases same
    · rintro ⟨_, same, -⟩
      cases same
  · constructor
    · intro same
      cases same
    · rintro ⟨_, same, -⟩
      cases same
  · constructor
    · intro same
      exact ⟨answer, rfl, same⟩
    · rintro ⟨_, same, rest⟩
      cases Attempt.pure_inj.mp same
      exact rest

theorem Attempt.lift_eq_pure_iff {attempt : Checked α} {value : α} :
    (liftM attempt : Attempt ε α) = pure value ↔ attempt = .ok value := by
  cases attempt with
  | error fault =>
      constructor
      · intro same
        cases same
      · intro same
        cases same
  | ok answer =>
      rw [Attempt.lift_ok, Attempt.pure_inj, Except.ok.injEq]

theorem Attempt.answer_eq_pure_iff {attempt : Except ε α} {value : α} :
    (liftM attempt : Attempt ε α) = pure value ↔ attempt = .ok value := by
  cases attempt with
  | error error =>
      constructor
      · intro same
        cases same
      · intro same
        cases same
  | ok answer =>
      rw [Attempt.answer_ok, Attempt.pure_inj, Except.ok.injEq]

@[simp]
theorem Attempt.adapt_pure {δ : Type} (wrap : ε → δ) (value : α) :
    ExceptT.adapt wrap (pure value : Attempt ε α) = pure value :=
  rfl

@[simp]
theorem Attempt.adapt_throw {δ : Type} (wrap : ε → δ) (error : ε) :
    ExceptT.adapt wrap (throw error : Attempt ε α) = throw (wrap error) :=
  rfl

end Answers

/-- The sizes and words in use are below this number. -/
def wordLimit : Nat := 0x10000000000000000

/-! ## Words -/

namespace Word

/-- Checked sum of two words. -/
def add (left right : UInt64) : Checked UInt64 :=
  if left.toNat + right.toNat < wordLimit then .ok (left + right) else .error .addOverflow

/-- Checked difference of two words. -/
def sub (left right : UInt64) : Checked UInt64 :=
  if right ≤ left then .ok (left - right) else .error .subtractOverflow

/-- The sum of two words, if it is a word. -/
def add? (left right : UInt64) : Option UInt64 :=
  if left.toNat + right.toNat < wordLimit then some (left + right) else none

/-- The difference of two words, if it is a word. -/
def sub? (left right : UInt64) : Option UInt64 :=
  if right ≤ left then some (left - right) else none

/-- The largest word. -/
def top : UInt64 := UInt64.ofNat (wordLimit - 1)

/-- The sum of two words, cut at the largest word. -/
def addSaturating (left right : UInt64) : UInt64 :=
  (add? left right).getD top

/-- The difference of two words, cut at zero. -/
def subSaturating (left right : UInt64) : UInt64 :=
  (sub? left right).getD 0

theorem add?_eq_some_iff {left right sum : UInt64} :
    add? left right = some sum ↔ left.toNat + right.toNat = sum.toNat := by
  unfold add? wordLimit
  have sumLt := sum.toNat_lt
  split
  · rename_i fits
    rw [Option.some.injEq, ← UInt64.toNat_inj, UInt64.toNat_add, Nat.mod_eq_of_lt fits]
  · simp
    omega

theorem add_eq_ok_iff {left right sum : UInt64} :
    add left right = .ok sum ↔ left.toNat + right.toNat = sum.toNat := by
  rw [← add?_eq_some_iff]
  unfold add add?
  split <;> simp

theorem sub?_eq_some_iff {left right difference : UInt64} :
    sub? left right = some difference ↔
      difference.toNat + right.toNat = left.toNat := by
  unfold sub?
  split
  · rename_i le
    rw [Option.some.injEq, ← UInt64.toNat_inj, UInt64.toNat_sub_of_le _ _ le]
    have := UInt64.le_iff_toNat_le.mp le
    omega
  · rename_i notLe
    have less : ¬ right.toNat ≤ left.toNat := fun le => notLe (UInt64.le_iff_toNat_le.mpr le)
    simp
    omega

theorem sub_eq_ok_iff {left right difference : UInt64} :
    sub left right = .ok difference ↔
      difference.toNat + right.toNat = left.toNat := by
  rw [← sub?_eq_some_iff]
  unfold sub sub?
  split <;> simp

/-- A number below the limit is not changed by writing it in a word. -/
theorem toNat_ofNat {number : Nat} (fits : number < wordLimit) :
    (UInt64.ofNat number).toNat = number :=
  UInt64.toNat_ofNat_of_lt' fits

theorem toNat_lt (word : UInt64) : word.toNat < wordLimit :=
  word.toNat_lt

theorem add_eq_ok {left right : UInt64} (fits : left.toNat + right.toNat < wordLimit) :
    add left right = .ok (UInt64.ofNat (left.toNat + right.toNat)) :=
  add_eq_ok_iff.mpr (toNat_ofNat fits).symm

/-- A sum that fits a word is there, and it is the sum of the numbers. -/
theorem exists_add (left right : UInt64) (fits : left.toNat + right.toNat < wordLimit) :
    ∃ sum, add left right = .ok sum ∧ sum.toNat = left.toNat + right.toNat :=
  ⟨_, add_eq_ok fits, toNat_ofNat fits⟩

theorem sub_eq_ok {left right : UInt64} (le : right.toNat ≤ left.toNat) :
    sub left right = .ok (UInt64.ofNat (left.toNat - right.toNat)) := by
  have below := left.toNat_lt
  rw [sub_eq_ok_iff, toNat_ofNat (by unfold wordLimit; omega)]
  omega

theorem toNat_top : top.toNat = wordLimit - 1 :=
  rfl

@[simp]
theorem toNat_subSaturating (left right : UInt64) :
    (subSaturating left right).toNat = left.toNat - right.toNat := by
  unfold subSaturating
  cases difference : sub? left right with
  | some value =>
      have := sub?_eq_some_iff.mp difference
      simp
      omega
  | none =>
      have less : ¬ right.toNat ≤ left.toNat := by
        intro le
        simp [sub?, UInt64.le_iff_toNat_le, le] at difference
      simp
      omega

@[simp]
theorem toNat_addSaturating (left right : UInt64) :
    (addSaturating left right).toNat = min (left.toNat + right.toNat) (wordLimit - 1) := by
  unfold addSaturating
  cases total : add? left right with
  | some value =>
      have sum := add?_eq_some_iff.mp total
      have := toNat_lt value
      simp
      omega
  | none =>
      have exceeds : ¬ left.toNat + right.toNat < wordLimit := by
        intro fits
        simp [add?, fits] at total
      simp [toNat_top]
      omega

end Word

/-! ## Sizes -/

namespace Size

/-- Checked sum of two sizes. -/
def add (left right : Nat) : Checked Nat :=
  if left + right < wordLimit then .ok (left + right) else .error .addOverflow

/-- Checked difference of two sizes. -/
def sub (left right : Nat) : Checked Nat :=
  if right ≤ left then .ok (left - right) else .error .subtractOverflow

theorem add_eq_ok_iff {left right sum : Nat} :
    add left right = .ok sum ↔ left + right = sum ∧ sum < wordLimit := by
  unfold add
  split <;> simp <;> omega

theorem sub_eq_ok_iff {left right difference : Nat} :
    sub left right = .ok difference ↔ difference + right = left := by
  unfold sub
  split <;> simp <;> omega

end Size

end OneTimePad
