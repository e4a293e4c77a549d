import OneTimePad.Proofs.Bytes.Agreement
import OneTimePad.Proofs.Frame.Sealing

/-!
# Regions that agree

Two regions that differ at some positions only cannot be told apart by sealing
or opening a frame whose key material lies elsewhere: both operations read the
keys of the frame, and the length of the region.
-/

namespace OneTimePad

section Agree

variable {positions : Set Nat} {left right : List UInt8}
  (agree : AgreeOutside positions left right)

include agree

theorem KeySpan.within_congr (span : KeySpan) : span.Within left ↔ span.Within right := by
  unfold Within
  rw [agree.length_eq]

theorem KeySpan.cipherKey_congr {span : KeySpan}
    (clear : Disjoint span.cipherPositions positions) :
    span.cipherKey left = span.cipherKey right :=
  agree.slice_eq clear

theorem KeySpan.authKey_congr {span : KeySpan} (clear : Disjoint span.authPositions positions) :
    span.authKey left = span.authKey right :=
  agree.slice_eq clear

/-- Reading keys elsewhere gives the same keys, or the same error. -/
theorem KeySpan.keys_congr {span : KeySpan} (small : span.cipherLength < Bytes.capacity 2)
    (clear : Disjoint span.positions positions) : span.keys left = span.keys right := by
  by_cases within : span.Within left
  · have withinRight := (span.within_congr agree).mp within
    have clearCipher := clear.mono_left span.cipherPositions_subset
    have clearAuth := clear.mono_left span.authPositions_subset
    rw [keys_eq_pure small within, keys_eq_pure small withinRight,
      cipherKey_congr agree clearCipher, authKey_congr agree clearAuth]
  · have outsideRight := mt (span.within_congr agree).mpr within
    rw [keys_eq_throw small within, keys_eq_throw small outsideRight, agree.length_eq]

theorem Frame.openWith_congr {frame : Frame} (clear : Disjoint frame.keySpan.positions positions) :
    frame.openWith left = frame.openWith right := by
  have keys := KeySpan.keys_congr agree frame.fits clear
  unfold keySpan at keys
  rw [openWith, openWith, keys]

theorem Frame.sealAt_congr {offset : UInt64} {message : List UInt8}
    (short : (Padding.padded message).length ≤ maximumCiphertext)
    (clear : Disjoint (messageSpan offset message).positions positions) :
    sealAt left offset message = sealAt right offset message := by
  have keys := KeySpan.keys_congr agree (capacity_of_short short) clear
  unfold messageSpan at keys
  simp only [sealAt, primitively, pad_of_short short, Attempt.adapt_pure, pure_bind, keys]

end Agree

end OneTimePad
