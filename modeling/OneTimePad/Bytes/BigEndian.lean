/-!
# Big-endian numbers

A number is written as a fixed count of octets, the most significant one
first.  Main statements: reading undoes writing for every number that fits the
width, and writing undoes reading for every byte string of that width.
-/

namespace OneTimePad.Bytes

/-- How many numbers this many octets can tell apart.  A number fits a width
when it is below. -/
def capacity : (width : Nat) → Nat
  | 0 => 1
  | width + 1 => capacity width * 256

/-- The lowest `width` octets of a number, most significant first. -/
def ofNat : (width number : Nat) → List UInt8
  | 0, _ => []
  | width + 1, number => UInt8.ofNat (number / capacity width) :: ofNat width number

/-- The number that octets stand for, most significant first. -/
def toNat (bytes : List UInt8) : Nat :=
  bytes.foldl (fun number byte => number * 256 + byte.toNat) 0

theorem capacity_pos (width : Nat) : 0 < capacity width := by
  induction width with
  | zero => exact Nat.one_pos
  | succ width ih => exact Nat.mul_pos ih (by decide)

@[simp]
theorem length_ofNat (width number : Nat) : (ofNat width number).length = width := by
  induction width with
  | zero => rfl
  | succ width ih => simp [ofNat, ih]

theorem foldl_octets (bytes : List UInt8) (start : Nat) :
    bytes.foldl (fun number byte => number * 256 + byte.toNat) start =
      start * capacity bytes.length + toNat bytes := by
  induction bytes generalizing start with
  | nil => simp [toNat, capacity]
  | cons byte bytes ih =>
      have left := ih (start * 256 + byte.toNat)
      have right := ih (0 * 256 + byte.toNat)
      simp only [toNat, List.foldl_cons, List.length_cons] at left right ⊢
      rw [left, right]
      simp [capacity, Nat.add_mul, Nat.mul_assoc, Nat.add_assoc, Nat.mul_comm 256]

@[simp]
theorem toNat_nil : toNat [] = 0 :=
  rfl

theorem toNat_cons (byte : UInt8) (bytes : List UInt8) :
    toNat (byte :: bytes) = byte.toNat * capacity bytes.length + toNat bytes := by
  have step := foldl_octets bytes (0 * 256 + byte.toNat)
  simp only [Nat.zero_mul, Nat.zero_add] at step
  simpa [toNat] using step

theorem toNat_lt (bytes : List UInt8) : toNat bytes < capacity bytes.length := by
  induction bytes with
  | nil => exact Nat.one_pos
  | cons byte bytes ih =>
      rw [toNat_cons, List.length_cons, capacity]
      have octet : byte.toNat ≤ 255 := by
        have := byte.toNat_lt
        omega
      have := Nat.mul_le_mul_right (capacity bytes.length) octet
      omega

theorem toNat_ofNat_mod (width number : Nat) :
    toNat (ofNat width number) = number % capacity width := by
  induction width with
  | zero => simp [ofNat, capacity, Nat.mod_one]
  | succ width ih =>
      have octet : (UInt8.ofNat (number / capacity width)).toNat =
          number / capacity width % 256 := by
        simp
      have whole : number % (capacity width * 256) = _ := Nat.mod_mul
      rw [ofNat, toNat_cons, ih, length_ofNat, octet, capacity, whole, Nat.mul_comm,
        Nat.add_comm]

/-- Reading undoes writing for every number that fits the width. -/
theorem toNat_ofNat {width number : Nat} (fits : number < capacity width) :
    toNat (ofNat width number) = number := by
  rw [toNat_ofNat_mod, Nat.mod_eq_of_lt fits]

theorem ofNat_mod (width number : Nat) :
    ofNat width (number % capacity width) = ofNat width number := by
  induction width generalizing number with
  | zero => rfl
  | succ width ih =>
      have low : number % (capacity width * 256) % capacity width = number % capacity width :=
        Nat.mod_mod_of_dvd _ (Nat.dvd_mul_right _ _)
      have high : number % (capacity width * 256) / capacity width =
          number / capacity width % 256 :=
        Nat.mod_mul_right_div_self ..
      rw [ofNat, ofNat, capacity, ← ih (number % (capacity width * 256)), low, ih, high]
      congr 1
      rw [← UInt8.toNat_inj]
      simp

/-- Writing undoes reading for every byte string of that width. -/
theorem ofNat_toNat (bytes : List UInt8) : ofNat bytes.length (toNat bytes) = bytes := by
  induction bytes with
  | nil => rfl
  | cons byte bytes ih =>
      have below := toNat_lt bytes
      have positive := capacity_pos bytes.length
      have high : toNat (byte :: bytes) / capacity bytes.length = byte.toNat := by
        rw [toNat_cons, Nat.mul_comm, Nat.mul_add_div positive, Nat.div_eq_of_lt below,
          Nat.add_zero]
      have low : toNat (byte :: bytes) % capacity bytes.length = toNat bytes := by
        rw [toNat_cons, Nat.mul_comm, Nat.mul_add_mod, Nat.mod_eq_of_lt below]
      rw [List.length_cons, ofNat, high, ← ofNat_mod, low, ih]
      simp

end OneTimePad.Bytes
