import OneTimePad.Checked

/-!
# Slices of byte strings

Byte strings are lists of octets.  Cutting one outside its length is a fault;
the lemmas say when a cut succeeds and what it yields.
-/

namespace OneTimePad.Bytes

/-- The octets at positions `start` up to and without `stop`. -/
def slice {α : Type} (items : List α) (start stop : Nat) : Checked (List α) :=
  if stop < start then .error (.sliceOrder start stop)
  else if items.length < stop then .error (.sliceEnd stop items.length)
  else .ok ((items.drop start).take (stop - start))

/-- The first `count` octets, and the others. -/
def split (bytes : List UInt8) (count : Nat) : Checked (List UInt8 × List UInt8) :=
  if bytes.length < count then .error (.sliceEnd count bytes.length)
  else .ok (bytes.take count, bytes.drop count)

/-- Put octets in the place of those at positions `start` up to and without
`stop`, of which there have to be as many. -/
def overwrite (buffer : List UInt8) (start stop : Nat) (octets : List UInt8) :
    Checked (List UInt8) := do
  let place ← slice buffer start stop
  if place.length ≠ octets.length then throw (.copyLength octets.length place.length)
  return buffer.take start ++ octets ++ buffer.drop stop

/-- Octet-wise exclusive or, as long as both strings last. -/
def xor (left right : List UInt8) : List UInt8 :=
  List.zipWith (· ^^^ ·) left right

theorem slice_eq_ok {α : Type} {items : List α} {start stop : Nat}
    (ordered : start ≤ stop) (inside : stop ≤ items.length) :
    slice items start stop = .ok ((items.drop start).take (stop - start)) := by
  unfold slice
  rw [if_neg (by omega), if_neg (by omega)]

theorem split_eq_ok {bytes : List UInt8} {count : Nat} (inside : count ≤ bytes.length) :
    split bytes count = .ok (bytes.take count, bytes.drop count) := by
  unfold split
  rw [if_neg (by omega)]

/-- Octets that are written behind `front` leave as much less of the filling. -/
theorem overwrite_replicate (front octets : List UInt8) {count : Nat} (fill : UInt8)
    (fits : octets.length ≤ count) :
    overwrite (front ++ List.replicate count fill) front.length (front.length + octets.length)
        octets =
      .ok (front ++ octets ++ List.replicate (count - octets.length) fill) := by
  have place : slice (front ++ List.replicate count fill) front.length
      (front.length + octets.length) = .ok (List.replicate octets.length fill) := by
    rw [slice_eq_ok (by omega) (by simp; omega), List.drop_left, Nat.add_sub_cancel_left,
      List.take_replicate, Nat.min_eq_left fits]
  have behind : (front ++ List.replicate count fill).drop (front.length + octets.length) =
      List.replicate (count - octets.length) fill := by
    rw [← List.drop_drop, List.drop_left, List.drop_replicate]
  have same : ¬ (List.replicate octets.length fill).length ≠ octets.length := by
    simp
  rw [overwrite, place, Checked.ok_bind, if_neg same, List.take_left, behind]
  rfl

@[simp]
theorem length_xor (left right : List UInt8) :
    (xor left right).length = min left.length right.length := by
  simp [xor]

theorem getElem?_xor (left right : List UInt8) (position : Nat) :
    (xor left right)[position]? =
      left[position]?.bind fun byte => right[position]?.map (byte ^^^ ·) := by
  rw [xor, List.getElem?_zipWith']
  cases left[position]? with
  | none => rfl
  | some byte => rfl

theorem xor_comm (left right : List UInt8) : xor left right = xor right left :=
  List.zipWith_comm_of_comm UInt8.xor_comm

theorem xor_assoc (first second third : List UInt8) :
    xor (xor first second) third = xor first (xor second third) := by
  induction first generalizing second third with
  | nil => rfl
  | cons byte first ih =>
      rcases second with _ | ⟨secondByte, second⟩
      · rfl
      · rcases third with _ | ⟨thirdByte, third⟩
        · rfl
        · have rest := ih second third
          simp only [xor] at rest
          simp only [xor, List.zipWith_cons_cons, UInt8.xor_assoc, rest]

/-- A second pass with the same key undoes the first. -/
theorem xor_xor_cancel {key data : List UInt8} (sameLength : key.length = data.length) :
    xor key (xor key data) = data := by
  induction key generalizing data with
  | nil =>
      cases data with
      | nil => rfl
      | cons => simp at sameLength
  | cons keyByte key ih =>
      cases data with
      | nil => simp at sameLength
      | cons byte data =>
          simp only [List.length_cons, Nat.add_right_cancel_iff] at sameLength
          have rest := ih sameLength
          have octet : keyByte ^^^ (keyByte ^^^ byte) = byte := by
            rw [← UInt8.xor_assoc, UInt8.xor_self, UInt8.zero_xor]
          simp only [xor] at rest
          simp only [xor, List.zipWith_cons_cons, octet, rest]

end OneTimePad.Bytes
