import OneTimePad.Ledger.Basic
import OneTimePad.Proofs.Ledger.Geometry

/-!
# Balanced books

The books are balanced when both counters together do not exceed the region.
On balanced books every operation has an answer, and this module says which:
when a reservation is granted and what it takes, when a frame counts as new,
and what its record comes to.
-/

namespace OneTimePad.Ledger

open Authenticator (keySize)

/-- Both counters together do not exceed the region. -/
def Balanced (ledger : Ledger) : Prop :=
  ledger.sent.toNat + ledger.seen.toNat ≤ ledger.total.toNat

/-- The positions that this party has used. -/
def own (ledger : Ledger) : Set Nat :=
  ledger.role.side ledger.total.toNat ledger.sent.toNat

/-- The positions that the other party is known to have used. -/
def foreign (ledger : Ledger) : Set Nat :=
  ledger.role.peer.side ledger.total.toNat ledger.seen.toNat

/-- The positions that either party is known to have used. -/
def used (ledger : Ledger) : Set Nat :=
  ledger.own ∪ ledger.foreign

/-- How many positions neither party is known to have used. -/
def free (ledger : Ledger) : Nat :=
  ledger.total.toNat - (ledger.sent.toNat + ledger.seen.toNat)

/-- Whether a request for this many positions is granted. -/
def Grants (ledger : Ledger) (wanted : Nat) : Prop :=
  ledger.burned = false ∧ ledger.threshold.toNat ≤ ledger.free ∧ wanted ≤ ledger.free

/-- The books after this party has used `taken` more positions. -/
def advance (ledger : Ledger) (taken : Nat) : Ledger :=
  { ledger with sent := UInt64.ofNat (ledger.sent.toNat + taken) }

/-- How much the other party has used once a frame at this place is seen. -/
def markOf (ledger : Ledger) (offset length : UInt64) : Nat :=
  match ledger.role with
  | .initiator => ledger.total.toNat - offset.toNat
  | .responder => offset.toNat + length.toNat

/-- The books after the other party is seen to have used `mark` positions. -/
def observe (ledger : Ledger) (mark : Nat) : Ledger :=
  { ledger with seen := UInt64.ofNat mark }

variable {ledger : Ledger}

theorem Balanced.disjoint (balanced : ledger.Balanced) : Disjoint ledger.own ledger.foreign :=
  Role.disjoint_side_peer balanced

theorem Balanced.used_subset_region (balanced : ledger.Balanced) :
    ledger.used ⊆ Set.Ico 0 ledger.total.toNat := by
  unfold Balanced at balanced
  exact Set.union_subset (Role.side_subset_region (by omega)) (Role.side_subset_region (by omega))

/-! ## Restoring -/

/-- The books as stored counters give them. -/
def ofSnapshot (snapshot : Snapshot) (settings : Settings) : Ledger :=
  { role := snapshot.role, total := snapshot.total, sent := snapshot.sent, seen := snapshot.seen
    burned := snapshot.burned, threshold := settings.threshold }

/-- Stored counters are taken up exactly when they are balanced. -/
theorem restore_eq (snapshot : Snapshot) (settings : Settings) :
    restore snapshot settings =
      if snapshot.sent.toNat + snapshot.seen.toNat ≤ snapshot.total.toNat then
        .ok (ofSnapshot snapshot settings)
      else .error (.invalidFormat "snapshot counters exceed pad") := by
  unfold restore
  cases sum : Word.add? snapshot.sent snapshot.seen with
  | none =>
      have totalLt := Word.toNat_lt snapshot.total
      have excess : ¬ snapshot.sent.toNat + snapshot.seen.toNat ≤ snapshot.total.toNat := by
        intro balanced
        have fits : snapshot.sent.toNat + snapshot.seen.toNat < wordLimit := by omega
        simp [Word.add?, fits] at sum
      simp [excess]
  | some used =>
      rw [Word.add?_eq_some_iff.mp sum]
      by_cases balanced : used.toNat ≤ snapshot.total.toNat
      · simp [UInt64.lt_iff_toNat_lt, balanced, ofSnapshot]
      · simp [UInt64.lt_iff_toNat_lt, balanced]

/-! ## Reserving -/

theorem remaining_eq_ok (balanced : ledger.Balanced) :
    ledger.remaining = .ok (UInt64.ofNat ledger.free) := by
  have totalLt := Word.toNat_lt ledger.total
  unfold Balanced at balanced
  have used : Word.add ledger.sent ledger.seen =
      .ok (UInt64.ofNat (ledger.sent.toNat + ledger.seen.toNat)) :=
    Word.add_eq_ok (by omega)
  have rest : Word.subSaturating ledger.total
      (UInt64.ofNat (ledger.sent.toNat + ledger.seen.toNat)) = UInt64.ofNat ledger.free := by
    rw [← UInt64.toNat_inj, Word.toNat_subSaturating, Word.toNat_ofNat (by omega),
      Word.toNat_ofNat (by unfold free; omega), free]
  rw [remaining, used, Checked.ok_bind, rest, Checked.pure_eq_ok]

theorem toNat_free (ledger : Ledger) : (UInt64.ofNat ledger.free).toNat = ledger.free := by
  have totalLt := Word.toNat_lt ledger.total
  exact Word.toNat_ofNat (by unfold free; omega)

theorem free_lt_iff (ledger : Ledger) (amount : UInt64) :
    UInt64.ofNat ledger.free < amount ↔ ledger.free < amount.toNat := by
  rw [UInt64.lt_iff_toNat_lt, toNat_free]

theorem stage_eq_ok (balanced : ledger.Balanced) :
    ledger.stage =
      .ok (if ledger.burned then .burned
        else if ledger.free < ledger.threshold.toNat then .exhausted else .active) := by
  unfold stage
  rw [remaining_eq_ok balanced]
  cases ledger.burned with
  | true => rfl
  | false => simp only [Checked.ok_bind, free_lt_iff, Checked.pure_eq_ok]; rfl

/-- What an active conversation has left is granted. -/
theorem grants_iff_active (balanced : ledger.Balanced) {wanted : Nat} :
    ledger.Grants wanted ↔ ledger.stage = .ok .active ∧ wanted ≤ ledger.free := by
  rw [stage_eq_ok balanced, Except.ok.injEq]
  unfold Grants
  cases ledger.burned with
  | true => simp
  | false =>
      by_cases low : ledger.free < ledger.threshold.toNat
      · have below := Nat.not_le_of_lt low
        simp [low, below]
      · have above := Nat.le_of_not_lt low
        simp [low, above]

/-- The reservation that a granted request is answered with. -/
def reservation (ledger : Ledger) (cipherLength : Nat) : Reservation :=
  ⟨UInt64.ofNat (ledger.role.nextStart ledger.total.toNat ledger.sent.toNat
    (Reservation.consumption cipherLength).toNat), cipherLength⟩

theorem reserve_eq_granted {cipherLength : Nat} (balanced : ledger.Balanced)
    (granted : ledger.Grants (Reservation.consumption cipherLength).toNat) :
    ledger.reserve cipherLength =
      .ok ⟨.ok (ledger.reservation cipherLength),
        ledger.advance (Reservation.consumption cipherLength).toNat⟩ := by
  rcases granted with ⟨live, aboveThreshold, enough⟩
  have totalLt := Word.toNat_lt ledger.total
  have active : ¬ ledger.free < ledger.threshold.toNat := by omega
  have notLess : ¬ UInt64.ofNat ledger.free < Reservation.consumption cipherLength := by
    rw [free_lt_iff]
    omega
  have fits : ledger.sent.toNat + (Reservation.consumption cipherLength).toNat ≤
      ledger.total.toNat := by
    unfold free at enough
    unfold Balanced at balanced
    omega
  have sent : Word.add ledger.sent (Reservation.consumption cipherLength) =
      .ok (UInt64.ofNat (ledger.sent.toNat + (Reservation.consumption cipherLength).toNat)) :=
    Word.add_eq_ok (by omega)
  simp only [reserve, remaining_eq_ok balanced, stage_eq_ok balanced, live, active, notLess,
    Role.nextSpan_eq_ok fits, sent, Checked.ok_bind, Checked.pure_eq_ok, if_false,
    Bool.false_eq_true, reservation, advance]

theorem reserve_eq_refused {cipherLength : Nat} (balanced : ledger.Balanced)
    (refused : ¬ ledger.Grants (Reservation.consumption cipherLength).toNat) :
    ledger.reserve cipherLength =
      .ok (.refuse ledger
        (if ledger.burned then .burned
          else .padExhausted (Reservation.consumption cipherLength)
            (UInt64.ofNat ledger.free))) := by
  unfold reserve
  rw [remaining_eq_ok balanced, stage_eq_ok balanced]
  cases burned : ledger.burned with
  | true => simp only [Checked.ok_bind, Checked.pure_eq_ok, if_true]
  | false =>
      by_cases exhausted : ledger.free < ledger.threshold.toNat
      · simp only [exhausted, Checked.ok_bind, Checked.pure_eq_ok, if_false, if_true,
          Bool.false_eq_true]
      · have less : UInt64.ofNat ledger.free < Reservation.consumption cipherLength := by
          rw [free_lt_iff]
          by_contra enough
          exact refused ⟨burned, by omega, by omega⟩
        simp only [exhausted, less, Checked.ok_bind, Checked.pure_eq_ok, if_false, if_true,
          Bool.false_eq_true]

/-- Nothing is cut from what a ciphertext consumes if it is a word. -/
theorem toNat_consumption {cipherLength : Nat} (fits : cipherLength + keySize < wordLimit) :
    (Reservation.consumption cipherLength).toNat = cipherLength + keySize := by
  rw [Reservation.consumption, if_pos fits, Word.toNat_ofNat fits]

theorem consumption_of_excess {cipherLength : Nat} (excess : wordLimit ≤ cipherLength + keySize) :
    Reservation.consumption cipherLength = Word.top :=
  if_neg (Nat.not_lt_of_le excess)

theorem keySize_le_consumption (cipherLength : Nat) :
    keySize ≤ (Reservation.consumption cipherLength).toNat := by
  rcases Nat.lt_or_ge (cipherLength + keySize) wordLimit with fits | excess
  · rw [toNat_consumption fits]
    exact Nat.le_add_left _ _
  · rw [consumption_of_excess excess, Word.toNat_top]
    decide

theorem consumption_pos (cipherLength : Nat) :
    0 < (Reservation.consumption cipherLength).toNat :=
  Nat.lt_of_lt_of_le (by decide) (keySize_le_consumption cipherLength)

/-- Reserving succeeds only on balanced books, since what it takes is compared
with what is left. -/
theorem balanced_of_reserve {cipherLength : Nat} {reservation : Reservation} {after : Ledger}
    (reserved : ledger.reserve cipherLength = .ok ⟨.ok reservation, after⟩) :
    ledger.Balanced := by
  have positive := consumption_pos cipherLength
  rcases Checked.bind_eq_ok_iff.mp reserved with ⟨remaining, remainingEq, reserved⟩
  rcases Checked.bind_eq_ok_iff.mp remainingEq with ⟨used, usedEq, rest⟩
  rcases Checked.bind_eq_ok_iff.mp reserved with ⟨stage, stageEq, reserved⟩
  have usedNat := Word.add_eq_ok_iff.mp usedEq
  cases rest
  cases stage with
  | burned => simp [Reply.refuse] at reserved
  | exhausted => simp [Reply.refuse] at reserved
  | active =>
      by_cases less : Word.subSaturating ledger.total used < Reservation.consumption cipherLength
      · simp [less, Reply.refuse] at reserved
      · rw [UInt64.lt_iff_toNat_lt, Word.toNat_subSaturating] at less
        unfold Balanced
        omega

theorem grants_of_reserve {cipherLength : Nat} {reservation : Reservation} {after : Ledger}
    (reserved : ledger.reserve cipherLength = .ok ⟨.ok reservation, after⟩) :
    ledger.Grants (Reservation.consumption cipherLength).toNat := by
  by_contra refused
  rw [reserve_eq_refused (balanced_of_reserve reserved) refused] at reserved
  cases reserved

/-- The next positions that a request for `wanted` octets is granted. -/
def next (ledger : Ledger) (wanted : Nat) : Set Nat :=
  let start := ledger.role.nextStart ledger.total.toNat ledger.sent.toNat wanted
  Set.Ico start (start + wanted)

section Granted

variable {wanted : Nat} (balanced : ledger.Balanced) (granted : ledger.Grants wanted)

include balanced granted

theorem Grants.fits : ledger.sent.toNat + wanted + ledger.seen.toNat ≤ ledger.total.toNat := by
  have enough := granted.2.2
  unfold free at enough
  unfold Balanced at balanced
  omega

theorem Grants.toNat_sent : (ledger.advance wanted).sent.toNat = ledger.sent.toNat + wanted := by
  have totalLt := Word.toNat_lt ledger.total
  have fits := granted.fits balanced
  exact Word.toNat_ofNat (by omega)

theorem Grants.toNat_start :
    (UInt64.ofNat (ledger.role.nextStart ledger.total.toNat ledger.sent.toNat wanted)).toNat =
      ledger.role.nextStart ledger.total.toNat ledger.sent.toNat wanted := by
  have totalLt := Word.toNat_lt ledger.total
  have fits := granted.fits balanced
  apply Word.toNat_ofNat
  cases ledger.role with
  | initiator => rw [Role.nextStart]; omega
  | responder => rw [Role.nextStart]; omega

theorem Grants.balanced_advance : (ledger.advance wanted).Balanced := by
  have fits := granted.fits balanced
  rw [Balanced, granted.toNat_sent balanced]
  exact fits

theorem Grants.own_subset_advance : ledger.own ⊆ (ledger.advance wanted).own := by
  unfold own
  rw [granted.toNat_sent balanced]
  exact Role.side_mono (Nat.le_add_right _ _)

theorem Grants.next_subset_own : ledger.next wanted ⊆ (ledger.advance wanted).own := by
  have fits := granted.fits balanced
  unfold own
  rw [granted.toNat_sent balanced]
  exact Role.next_subset_side (by omega)

theorem Grants.disjoint_next_own : Disjoint (ledger.next wanted) ledger.own := by
  have fits := granted.fits balanced
  exact Role.disjoint_next_side (by omega)

theorem Grants.disjoint_next_foreign : Disjoint (ledger.next wanted) ledger.foreign :=
  Set.disjoint_of_subset_left (granted.next_subset_own balanced)
    (granted.balanced_advance balanced).disjoint

theorem Grants.disjoint_next_used : Disjoint (ledger.next wanted) ledger.used :=
  Set.disjoint_union_right.mpr
    ⟨granted.disjoint_next_own balanced, granted.disjoint_next_foreign balanced⟩

theorem Grants.used_subset_advance : ledger.used ⊆ (ledger.advance wanted).used :=
  Set.union_subset_union_left _ (granted.own_subset_advance balanced)

end Granted

/-! ## Recording -/

section Recorded

variable {offset length : UInt64}

/-- The positions of a frame that consumes `length` octets at `offset`. -/
def claim (offset length : UInt64) : Set Nat :=
  Set.Ico offset.toNat (offset.toNat + length.toNat)

/-- The four verdicts on a frame, and what each of them goes by. -/
theorem classifyFrame_cases (ledger : Ledger) (offset length : UInt64) :
    (ledger.classifyFrame offset length = .ok .own ∧
      ledger.role.owns ledger.total ledger.sent offset = true) ∨
    (ledger.classifyFrame offset length = .ok .duplicate ∧
      ledger.role.owns ledger.total ledger.sent offset = false ∧
      ledger.role.hasProcessed ledger.total ledger.seen offset = true) ∨
    (ledger.classifyFrame offset length =
        .error (.invalidFormat "peer range overlaps processed frames") ∧
      ledger.role.owns ledger.total ledger.sent offset = false ∧
      ledger.role.hasProcessed ledger.total ledger.seen offset = false ∧
      ledger.role.runsIntoProcessed ledger.total ledger.seen offset length = true) ∨
    (ledger.classifyFrame offset length = .ok .fresh ∧
      ledger.role.owns ledger.total ledger.sent offset = false ∧
      ledger.role.hasProcessed ledger.total ledger.seen offset = false ∧
      ledger.role.runsIntoProcessed ledger.total ledger.seen offset length = false) := by
  unfold classifyFrame classify isDuplicate
  cases owned : ledger.role.owns ledger.total ledger.sent offset with
  | true => exact .inl ⟨rfl, rfl⟩
  | false =>
      cases processed : ledger.role.hasProcessed ledger.total ledger.seen offset with
      | true => exact .inr (.inl ⟨rfl, rfl, rfl⟩)
      | false =>
          cases runs : ledger.role.runsIntoProcessed ledger.total ledger.seen offset length with
          | true => exact .inr (.inr (.inl ⟨rfl, rfl, rfl, rfl⟩))
          | false => exact .inr (.inr (.inr ⟨rfl, rfl, rfl, rfl⟩))

/-- Inside the region, a frame is new exactly when it begins outside the
positions of this party and meets none of those that the other party is known
to have used. -/
theorem classifyFrame_eq_fresh_iff (nonempty : 0 < length.toNat)
    (inside : offset.toNat + length.toNat ≤ ledger.total.toNat) :
    ledger.classifyFrame offset length = .ok .fresh ↔
      offset.toNat ∉ ledger.own ∧ Disjoint (claim offset length) ledger.foreign := by
  have begins : offset.toNat < ledger.total.toNat := by omega
  have ours : ledger.role.owns ledger.total ledger.sent offset = true ↔
      offset.toNat ∈ ledger.own := Role.owns_iff_mem_side begins
  have seen : ledger.role.hasProcessed ledger.total ledger.seen offset = true ↔
      offset.toNat ∈ ledger.foreign := Role.hasProcessed_iff_mem_side
  rcases ledger.classifyFrame_cases offset length with
    ⟨verdict, owned⟩ | ⟨verdict, -, processed⟩ | ⟨verdict, -, -, runs⟩ |
      ⟨verdict, unowned, unprocessed, clear⟩
  · simp [verdict, ours.mp owned]
  · have first : offset.toNat ∈ claim offset length := ⟨Nat.le_refl _, by omega⟩
    have meets : ¬ Disjoint (claim offset length) ledger.foreign :=
      Set.not_disjoint_iff.mpr ⟨offset.toNat, first, seen.mp processed⟩
    simp [verdict, meets]
  · have meets : ¬ Disjoint (claim offset length) ledger.foreign :=
      (Role.runsIntoProcessed_iff.mp runs).2
    simp [verdict, meets]
  · have outside := mt seen.mpr (Bool.eq_false_iff.mp unprocessed)
    have apart : Disjoint (claim offset length) ledger.foreign :=
      (Role.runsIntoProcessed_eq_false_iff outside).mp clear
    exact ⟨fun _ => ⟨mt ours.mpr (Bool.eq_false_iff.mp unowned), apart⟩, fun _ => verdict⟩

/-- The books refuse a frame only for what it claims. -/
theorem isRecoverable_of_classifyFrame {error : LedgerError}
    (refused : ledger.classifyFrame offset length = .error error) : error.isRecoverable = true := by
  rcases ledger.classifyFrame_cases offset length with
    ⟨verdict, -⟩ | ⟨verdict, -⟩ | ⟨verdict, -⟩ | ⟨verdict, -⟩
  · cases verdict.symm.trans refused
  · cases verdict.symm.trans refused
  · cases verdict.symm.trans refused
    rfl
  · cases verdict.symm.trans refused

/-- A frame inside the region that is new to the books. -/
structure Fresh (ledger : Ledger) (offset length : UInt64) : Prop where
  nonempty : 0 < length.toNat
  inside : offset.toNat + length.toNat ≤ ledger.total.toNat
  unowned : offset.toNat ∉ ledger.own
  clear : Disjoint (claim offset length) ledger.foreign

/-- A frame among the first `amount` positions of the other party lets no more
be seen than these. -/
theorem markOf_le {amount : Nat} (nonempty : 0 < length.toNat)
    (fits : amount ≤ ledger.total.toNat)
    (subset : claim offset length ⊆ ledger.role.peer.side ledger.total.toNat amount) :
    ledger.markOf offset length ≤ amount := by
  have first := subset ⟨Nat.le_refl _, by omega⟩
  have last : offset.toNat + length.toNat - 1 ∈ claim offset length := ⟨by omega, by omega⟩
  replace last := subset last
  unfold markOf
  cases role : ledger.role with
  | initiator =>
      rw [role, Role.peer, Role.side, Set.mem_Ico] at first
      simp only
      omega
  | responder =>
      rw [role, Role.peer, Role.side, Set.mem_Ico] at last
      simp only
      omega

theorem toNat_markOf (inside : offset.toNat + length.toNat ≤ ledger.total.toNat) :
    (UInt64.ofNat (ledger.markOf offset length)).toNat = ledger.markOf offset length := by
  have totalLt := Word.toNat_lt ledger.total
  apply Word.toNat_ofNat
  unfold markOf
  cases ledger.role with
  | initiator => simp only; omega
  | responder => simp only; omega

/-- A frame inside the region has a mark. -/
theorem peerMark_eq_of_inside (inside : offset.toNat + length.toNat ≤ ledger.total.toNat) :
    ledger.role.peerMark ledger.total offset length =
      some (UInt64.ofNat (ledger.markOf offset length)) := by
  have mark := toNat_markOf inside
  unfold markOf at mark ⊢
  cases role : ledger.role with
  | initiator =>
      rw [role] at mark
      rw [Role.peerMark, Word.sub?_eq_some_iff, mark]
      simp only
      omega
  | responder =>
      rw [role] at mark
      rw [Role.peerMark, Word.add?_eq_some_iff, mark]

variable (fresh : ledger.Fresh offset length)

include fresh

theorem Fresh.seen_lt_mark : ledger.seen.toNat < ledger.markOf offset length := by
  rcases fresh with ⟨nonempty, inside, -, clear⟩
  unfold claim foreign at clear
  unfold markOf
  cases role : ledger.role with
  | initiator =>
      rw [role, Role.peer, Role.side, disjoint_ico_iff nonempty] at clear
      simp only
      omega
  | responder =>
      rw [role, Role.peer, Role.side, disjoint_ico_iff nonempty] at clear
      simp only
      omega

theorem Fresh.toNat_mark :
    (UInt64.ofNat (ledger.markOf offset length)).toNat = ledger.markOf offset length :=
  toNat_markOf fresh.inside

/-- The positions of a new frame count as used once it is seen. -/
theorem Fresh.claim_subset_side :
    claim offset length ⊆
      ledger.role.peer.side ledger.total.toNat (ledger.markOf offset length) := by
  have inside := fresh.inside
  unfold claim markOf
  cases ledger.role with
  | initiator => exact Set.Ico_subset_Ico (by simp only; omega) inside
  | responder => exact Set.Ico_subset_Ico_left (Nat.zero_le _)

/-- A new frame stays off the positions of this party exactly when both marks
fit the region.  For the initiator they always do. -/
theorem Fresh.disjoint_own_iff (balanced : ledger.Balanced) :
    Disjoint (claim offset length) ledger.own ↔
      ledger.sent.toNat + ledger.markOf offset length ≤ ledger.total.toNat := by
  rcases fresh with ⟨nonempty, inside, unowned, -⟩
  unfold Balanced at balanced
  unfold own at unowned ⊢
  unfold claim markOf
  cases role : ledger.role with
  | initiator =>
      rw [role, Role.side, Set.mem_Ico] at unowned
      rw [Role.side, disjoint_ico_iff nonempty]
      simp only
      omega
  | responder =>
      rw [role, Role.side, Set.mem_Ico] at unowned
      rw [Role.side, disjoint_ico_iff nonempty]
      simp only
      omega

/-- The positions of the other party that were used stay used. -/
theorem Fresh.foreign_subset_observe :
    ledger.foreign ⊆ (ledger.observe (ledger.markOf offset length)).foreign := by
  have seenLt := fresh.seen_lt_mark
  have mark := fresh.toNat_mark
  unfold foreign observe
  rw [mark]
  exact Role.side_mono (Nat.le_of_lt seenLt)

theorem Fresh.claim_subset_observe :
    claim offset length ⊆ (ledger.observe (ledger.markOf offset length)).foreign := by
  have subset := fresh.claim_subset_side
  unfold foreign observe
  rwa [fresh.toNat_mark]

theorem Fresh.balanced_observe (balanced : ledger.Balanced)
    (apart : Disjoint (claim offset length) ledger.own) :
    (ledger.observe (ledger.markOf offset length)).Balanced := by
  rw [fresh.disjoint_own_iff balanced] at apart
  unfold Balanced observe
  rwa [fresh.toNat_mark]

theorem Fresh.used_subset_observe :
    ledger.used ⊆ (ledger.observe (ledger.markOf offset length)).used :=
  Set.union_subset_union_right _ fresh.foreign_subset_observe

/-- A new frame is recorded up to the last check, which keeps it off the
positions of this party. -/
theorem Fresh.record_eq (live : ledger.burned = false) :
    ledger.record offset length =
      if ledger.total.toNat < ledger.sent.toNat + ledger.markOf offset length then
        .refuse ledger (.invalidFormat "peer range overlaps own sends")
      else
        ⟨.ok (.advanced (UInt64.ofNat (ledger.markOf offset length))),
          ledger.observe (ledger.markOf offset length)⟩ := by
  have seenLt := fresh.seen_lt_mark
  have begins : offset.toNat < ledger.total.toNat := by
    have := fresh.inside
    have := fresh.nonempty
    omega
  have unowned : ledger.role.owns ledger.total ledger.sent offset = false := by
    rw [Bool.eq_false_iff]
    exact mt (Role.owns_iff_mem_side begins).mp fresh.unowned
  have unprocessed : offset.toNat ∉ ledger.foreign := by
    intro mem
    have nonempty := fresh.nonempty
    have first : offset.toNat ∈ claim offset length := ⟨Nat.le_refl _, by omega⟩
    exact Set.disjoint_left.mp fresh.clear first mem
  have clear : ledger.role.runsIntoProcessed ledger.total ledger.seen offset length = false :=
    (Role.runsIntoProcessed_eq_false_iff unprocessed).mpr fresh.clear
  have notStale : ¬ UInt64.ofNat (ledger.markOf offset length) ≤ ledger.seen := by
    rw [UInt64.le_iff_toNat_le, fresh.toNat_mark]
    omega
  simp only [record, live, unowned, peerMark_eq_of_inside fresh.inside, clear, notStale,
    fresh.toNat_mark, if_false, Bool.false_eq_true, observe]

end Recorded

end OneTimePad.Ledger
