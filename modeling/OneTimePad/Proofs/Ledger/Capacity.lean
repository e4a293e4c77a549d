import OneTimePad.Proofs.Ledger.Balance

/-!
# What fits

A request is granted when what it consumes is no more than what is left, and what
is left is not below the threshold.  What it consumes is the length of its
ciphertext and the key of the authenticator, and this sum is cut at the largest
word before it is compared.

The cut is seen in one case only.  While the whole of the largest region there can
be is free, a request for more than any word is cut to exactly what is left.  It
is granted, the books take the whole region for it, and the key material of the
reservation cannot even be located.
-/

namespace OneTimePad.Ledger

open Authenticator (keySize)

/-- The largest region is wholly free, and more than any word is requested. -/
structure Saturates (ledger : Ledger) (cipherLength : Nat) : Prop where
  live : ledger.burned = false
  total_eq : ledger.total = Word.top
  sent_eq : ledger.sent = 0
  seen_eq : ledger.seen = 0
  excess : wordLimit ≤ cipherLength + keySize

/-- The request is answered by what is left: it is granted as much as it consumes,
next to what was given out before, or it is refused, and nothing changes. -/
structure Measures (ledger : Ledger) (rest : UInt64) (cipherLength : Nat)
    (reply : Reply Ledger Reservation) : Prop where
  granted_iff : (∃ reservation, reply.answer = .ok reservation) ↔
    ledger.burned = false ∧ ledger.threshold ≤ rest ∧ cipherLength + keySize ≤ rest.toNat
  after_granted : ∀ reservation, reply.answer = .ok reservation →
    reply.after.sent.toNat = ledger.sent.toNat + (cipherLength + keySize) ∧
      reply.after = { ledger with sent := reply.after.sent }
  located : ∀ reservation, reply.answer = .ok reservation →
    ∃ span, reservation.span = .ok span ∧
      reservation.keySpan.locate ledger.total.toNat = pure (span.start.toNat, span.stop.toNat)
  after_refused : ∀ error, reply.answer = .error error →
    reply.after = ledger ∧
      error =
        if ledger.burned then .burned
        else .padExhausted (Reservation.consumption cipherLength) rest

variable {ledger : Ledger} {cipherLength : Nat}

theorem Grants.fits_word {wanted : Nat} (granted : ledger.Grants wanted) : wanted < wordLimit := by
  have enough := granted.2.2
  have totalLt := Word.toNat_lt ledger.total
  unfold free at enough
  omega

/-- When a request that was cut is granted, nothing at all has been used. -/
theorem saturates_of_grants_top (excess : wordLimit ≤ cipherLength + keySize)
    (granted : ledger.Grants Word.top.toNat) : ledger.Saturates cipherLength := by
  rcases granted with ⟨live, -, enough⟩
  have totalLt := Word.toNat_lt ledger.total
  unfold free at enough
  rw [Word.toNat_top] at enough
  refine ⟨live, ?_, ?_, ?_, excess⟩
  · rw [← UInt64.toNat_inj, Word.toNat_top]
    omega
  · rw [← UInt64.toNat_inj, UInt64.toNat_zero]
    unfold wordLimit at enough totalLt
    omega
  · rw [← UInt64.toNat_inj, UInt64.toNat_zero]
    unfold wordLimit at enough totalLt
    omega

/-- Otherwise the cut makes no difference. -/
theorem grants_consumption_iff (unsaturated : ¬ ledger.Saturates cipherLength) :
    ledger.Grants (Reservation.consumption cipherLength).toNat ↔
      ledger.Grants (cipherLength + keySize) := by
  rcases Nat.lt_or_ge (cipherLength + keySize) wordLimit with fits | excess
  · rw [toNat_consumption fits]
  · rw [consumption_of_excess excess]
    constructor
    · intro granted
      exact absurd (saturates_of_grants_top excess granted) unsaturated
    · intro granted
      exact absurd granted.fits_word (Nat.not_lt_of_le excess)

theorem grants_iff_remaining {wanted : Nat} :
    ledger.Grants wanted ↔
      ledger.burned = false ∧ ledger.threshold ≤ UInt64.ofNat ledger.free ∧
        wanted ≤ (UInt64.ofNat ledger.free).toNat := by
  rw [UInt64.le_iff_toNat_le, toNat_free]
  exact Iff.rfl

/-- The key material of a reservation lies where the reservation says. -/
theorem Grants.exists_located (balanced : ledger.Balanced)
    (granted : ledger.Grants (cipherLength + keySize)) :
    ∃ span, (ledger.reservation cipherLength).span = .ok span ∧
      (ledger.reservation cipherLength).keySpan.locate ledger.total.toNat =
        pure (span.start.toNat, span.stop.toNat) := by
  let reservation := ledger.reservation cipherLength
  have fits := granted.fits_word
  have totalLt := Word.toNat_lt ledger.total
  have consumed : reservation.consumed.toNat = cipherLength + keySize := toNat_consumption fits
  have enough := Nat.le_of_add_right_le (granted.fits balanced)
  have start : reservation.offset.toNat =
      ledger.role.nextStart ledger.total.toNat ledger.sent.toNat (cipherLength + keySize) := by
    have same : reservation.offset = UInt64.ofNat (ledger.role.nextStart ledger.total.toNat
        ledger.sent.toNat reservation.consumed.toNat) := rfl
    rw [same, consumed, granted.toNat_start balanced]
  have inside : reservation.offset.toNat + (cipherLength + keySize) ≤ ledger.total.toNat := by
    rw [start]
    exact ledger.role.nextStart_add_le enough
  have inWord : reservation.offset.toNat + reservation.consumed.toNat < wordLimit := by
    rw [consumed]
    exact inside.trans_lt totalLt
  refine ⟨_, Reservation.span_eq_ok inWord, ?_⟩
  rw [Word.toNat_ofNat inWord, consumed]
  exact KeySpan.locate_eq_pure fits inside

/-- Unless it is cut to all there can be, a request is answered by what is left. -/
theorem measures_of_unsaturated (balanced : ledger.Balanced)
    (unsaturated : ¬ ledger.Saturates cipherLength) :
    ∃ reply, ledger.reserve cipherLength = .ok reply ∧
      ledger.Measures (UInt64.ofNat ledger.free) cipherLength reply := by
  have same := grants_consumption_iff unsaturated
  by_cases granted : ledger.Grants (cipherLength + keySize)
  · have consumed := toNat_consumption granted.fits_word
    refine ⟨_, reserve_eq_granted balanced (same.mpr granted), ?_, ?_, ?_, ?_⟩
    · exact ⟨fun _ => grants_iff_remaining.mp granted, fun _ => ⟨_, rfl⟩⟩
    · intro reservation _
      rw [consumed]
      exact ⟨granted.toNat_sent balanced, rfl⟩
    · rintro reservation ⟨⟩
      exact granted.exists_located balanced
    · rintro error ⟨⟩
  · refine ⟨_, reserve_eq_refused balanced (mt same.mp granted), ?_, ?_, ?_, ?_⟩
    · constructor
      · rintro ⟨reservation, ⟨⟩⟩
      · intro fits
        exact absurd (grants_iff_remaining.mpr fits) granted
    · rintro reservation ⟨⟩
    · rintro reservation ⟨⟩
    · rintro error ⟨⟩
      exact ⟨rfl, rfl⟩

/-- A request that is cut to all there can be is granted the whole region. -/
theorem Saturates.reserve_eq (saturates : ledger.Saturates cipherLength) :
    ledger.reserve cipherLength =
      .ok ⟨.ok ⟨0, cipherLength⟩, { ledger with sent := Word.top }⟩ := by
  have consumed := consumption_of_excess saturates.excess
  have total := saturates.total_eq
  have sent := saturates.sent_eq
  have seen := saturates.seen_eq
  have balanced : ledger.Balanced := by
    rw [Balanced, sent, seen]
    exact Nat.zero_le _
  have free : ledger.free = Word.top.toNat := by
    rw [Ledger.free, total, sent, seen]
    rfl
  have granted : ledger.Grants (Reservation.consumption cipherLength).toNat := by
    rw [consumed]
    refine ⟨saturates.live, ?_, free.ge⟩
    rw [free, Word.toNat_top]
    exact Nat.le_pred_of_lt (Word.toNat_lt _)
  have start : ledger.reservation cipherLength = ⟨0, cipherLength⟩ := by
    rw [reservation, consumed, total, sent]
    cases ledger.role <;> rfl
  have after : ledger.advance Word.top.toNat = { ledger with sent := Word.top } := by
    rw [advance, sent]
    rfl
  rw [reserve_eq_granted balanced granted, start, consumed, after]

/-- On balanced books every request is answered, and by exactly what is left, unless
the largest region is wholly free and more than any word is requested.  Such a
request is granted, although there is not enough left for it; the counter moves by
less than it consumes, and locating its key material is a fault. -/
theorem reserve_measures_iff (balanced : ledger.Balanced) (cipherLength : Nat) :
    ∃ rest reply, ledger.remaining = .ok rest ∧ ledger.reserve cipherLength = .ok reply ∧
      (ledger.Measures rest cipherLength reply ↔ ¬ ledger.Saturates cipherLength) ∧
      (ledger.Saturates cipherLength →
        reply = ⟨.ok ⟨0, cipherLength⟩, { ledger with sent := Word.top }⟩ ∧
          rest.toNat < cipherLength + keySize ∧
          (⟨0, cipherLength⟩ : Reservation).keySpan.locate ledger.total.toNat =
            ExceptT.mk (.error .addOverflow)) := by
  by_cases saturates : ledger.Saturates cipherLength
  · have excess := saturates.excess
    have restLt : (UInt64.ofNat ledger.free).toNat < cipherLength + keySize :=
      (Word.toNat_lt _).trans_le excess
    refine ⟨_, _, remaining_eq_ok balanced, saturates.reserve_eq, ?_, fun _ => ⟨rfl, restLt, ?_⟩⟩
    · constructor
      · intro measures
        have enough := (measures.granted_iff.mp ⟨_, rfl⟩).2.2
        omega
      · intro unsaturated
        exact absurd saturates unsaturated
    · have overflow : KeySpan.consumed ⟨0, cipherLength⟩ = .error .addOverflow :=
        if_neg (Nat.not_lt_of_le excess)
      rw [Reservation.keySpan, KeySpan.locate, overflow]
      rfl
  · rcases measures_of_unsaturated balanced saturates with ⟨reply, reserved, measures⟩
    exact ⟨_, reply, remaining_eq_ok balanced, reserved, ⟨fun _ => saturates, fun _ => measures⟩,
      fun other => absurd other saturates⟩

/-- A ciphertext that needs one octet more than the largest word is granted the whole
of the largest region. -/
theorem reserve_measures_iff_largest_region :
    (fresh .initiator Word.top).Balanced ∧
      (fresh .initiator Word.top).reserve (wordLimit - keySize) =
        .ok ⟨.ok ⟨0, wordLimit - keySize⟩, { fresh .initiator Word.top with sent := Word.top }⟩ ∧
      ¬ ∃ rest reply, (fresh .initiator Word.top).remaining = .ok rest ∧
        (fresh .initiator Word.top).reserve (wordLimit - keySize) = .ok reply ∧
        (fresh .initiator Word.top).Measures rest (wordLimit - keySize) reply := by
  have balanced : (fresh .initiator Word.top).Balanced := Nat.zero_le _
  have saturates : (fresh .initiator Word.top).Saturates (wordLimit - keySize) :=
    ⟨rfl, rfl, rfl, rfl, by decide⟩
  rcases reserve_measures_iff balanced (wordLimit - keySize) with
    ⟨rest, reply, remaining, reserved, law, granted⟩
  refine ⟨balanced, saturates.reserve_eq, ?_⟩
  rintro ⟨otherRest, otherReply, otherRemaining, otherReserved, measures⟩
  obtain rfl : rest = otherRest := Except.ok.inj (remaining.symm.trans otherRemaining)
  obtain rfl : reply = otherReply := Except.ok.inj (reserved.symm.trans otherReserved)
  exact law.mp measures saturates

end OneTimePad.Ledger
