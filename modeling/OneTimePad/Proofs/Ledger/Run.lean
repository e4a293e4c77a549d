import Mathlib.Data.Set.Lattice
import OneTimePad.Proofs.Ledger.Balance
import OneTimePad.Proofs.Ledger.Tiling

/-!
# Runs of a ledger

A run is a list of calls, with any arguments.  Books that are balanced answer
every call without a fault, and stay balanced: a reservation is taken from what
neither party has used, and a record is refused if it would reach over that.

Neither counter ever moves back, nor does the stage, and the reservations of a
whole run tile the side of the role.
-/

namespace OneTimePad

namespace Role

/-- A side and the positions next to it are the larger side. -/
theorem side_union_next {role : Role} {total amount length : Nat} (fits : amount + length ≤ total) :
    role.side total amount ∪
        Set.Ico (role.nextStart total amount length)
          (role.nextStart total amount length + length) =
      role.side total (amount + length) := by
  cases role with
  | initiator =>
      rw [side, side, nextStart, Set.Ico_union_Ico_eq_Ico (Nat.zero_le _) (Nat.le_add_right _ _)]
  | responder =>
      have back : total - amount - length + length = total - amount := by omega
      have deeper : total - amount - length = total - (amount + length) := by omega
      rw [side, side, nextStart, back, Set.union_comm,
        Set.Ico_union_Ico_eq_Ico (Nat.sub_le _ _) (Nat.sub_le _ _), deeper]

/-- Spans that tile a side fill it. -/
theorem Tiles.iUnion_positions {role : Role} {total taken : Nat} {spans : List Span}
    (tiles : role.Tiles total spans taken) :
    ⋃ span ∈ spans, span.positions = role.side total taken := by
  induction tiles with
  | nil => cases role <;> simp [side]
  | @cons spans taken length span _ _ fits start stop inductionHypothesis =>
      have first : span.positions = Set.Ico (role.nextStart total taken length)
          (role.nextStart total taken length + length) := by
        rw [Span.positions, start, stop]
      simp only [List.mem_cons, Set.iUnion_iUnion_eq_or_left]
      rw [inductionHypothesis, first, Set.union_comm, side_union_next fits]

end Role

/-- How far a stage is. -/
def Stage.rank : Stage → Nat
  | active => 0
  | exhausted => 1
  | burned => 2

namespace Ledger

/-! ## Calls -/

/-- What a ledger can be asked to do. -/
inductive Call where
  | reserve (cipherLength : Nat)
  | record (offset length : UInt64)
  | classify (offset : UInt64)
  | classifyFrame (offset length : UInt64)
  | isDuplicate (offset : UInt64)
  | burn
  | snapshot

/-- What a ledger answers. -/
inductive Answer where
  | reserved (answer : Except LedgerError Reservation)
  | recorded (answer : Except LedgerError Progress)
  | classified (answer : Except LedgerError Origin)
  | duplicate (known : Bool)
  | burned
  | stored (snapshot : Snapshot)

/-- Nothing was given out, seen or burned. -/
def Answer.Idle : Answer → Prop
  | reserved (.ok _) => False
  | recorded (.ok (.advanced _)) => False
  | burned => False
  | _ => True

/-- The reservation that was given out. -/
def Answer.given : Answer → Option Reservation
  | reserved (.ok reservation) => some reservation
  | _ => none

/-- Answer a call. -/
def perform (ledger : Ledger) : Call → Checked (Answer × Ledger)
  | .reserve cipherLength => do
      let reply ← ledger.reserve cipherLength
      return (.reserved reply.answer, reply.after)
  | .record offset length =>
      let reply := ledger.record offset length
      return (.recorded reply.answer, reply.after)
  | .classify offset => return (.classified (.ok (ledger.classify offset)), ledger)
  | .classifyFrame offset length => return (.classified (ledger.classifyFrame offset length), ledger)
  | .isDuplicate offset => return (.duplicate (ledger.isDuplicate offset), ledger)
  | .burn => return (.burned, ledger.burn)
  | .snapshot => return (.stored ledger.snapshot, ledger)

/-- Answer several calls, one after the other. -/
def run (ledger : Ledger) : List Call → Checked (List Answer × Ledger)
  | [] => return ([], ledger)
  | call :: calls => do
      let (answer, middle) ← ledger.perform call
      let (answers, final) ← middle.run calls
      return (answer :: answers, final)

/-- Books as they come into being: fresh ones, and those that were taken up. -/
inductive Begun : Ledger → Prop where
  | fresh (role : Role) (total : UInt64) (settings : Settings) : Begun (fresh role total settings)
  | restored {snapshot : Snapshot} {settings : Settings} {ledger : Ledger}
      (restored : restore snapshot settings = .ok ledger) : Begun ledger

theorem balanced_of_restore {snapshot : Snapshot} {settings : Settings} {ledger : Ledger}
    (restored : restore snapshot settings = .ok ledger) : ledger.Balanced := by
  rw [restore_eq] at restored
  split at restored
  · rename_i balanced
    cases restored
    exact balanced
  · cases restored

theorem Begun.balanced {ledger : Ledger} (begun : ledger.Begun) : ledger.Balanced := by
  cases begun with
  | fresh role total settings => exact Nat.zero_le _
  | restored restored => exact balanced_of_restore restored

/-! ## One call -/

/-- What a call can do to the books. -/
inductive Effect (ledger : Ledger) : Answer → Ledger → Prop where
  | reserves {cipherLength : Nat}
      (granted : ledger.Grants (Reservation.consumption cipherLength).toNat) :
      Effect ledger (.reserved (.ok (ledger.reservation cipherLength)))
        (ledger.advance (Reservation.consumption cipherLength).toNat)
  | advances {mark : UInt64} (later : ledger.seen.toNat < mark.toNat)
      (fits : ledger.sent.toNat + mark.toNat ≤ ledger.total.toNat) :
      Effect ledger (.recorded (.ok (.advanced mark))) { ledger with seen := mark }
  | burns : Effect ledger .burned ledger.burn
  | rests {answer : Answer} (idle : answer.Idle) : Effect ledger answer ledger

/-- A record moves the mark forward, to where it does not reach the positions of
this party, or it changes nothing. -/
theorem record_effect (ledger : Ledger) (offset length : UInt64) :
    ledger.Effect (.recorded (ledger.record offset length).answer)
      (ledger.record offset length).after := by
  unfold record
  by_cases burned : ledger.burned = true
  · rw [if_pos burned]
    exact .rests trivial
  · rw [if_neg burned]
    by_cases owned : ledger.role.owns ledger.total ledger.sent offset = true
    · rw [if_pos owned]
      exact .rests trivial
    · rw [if_neg owned]
      cases ledger.role.peerMark ledger.total offset length with
      | none => exact .rests trivial
      | some mark =>
          by_cases runs :
              ledger.role.runsIntoProcessed ledger.total ledger.seen offset length = true
          · simp only [if_pos runs]
            exact .rests trivial
          · by_cases stale : mark ≤ ledger.seen
            · simp only [if_neg runs, if_pos stale]
              exact .rests trivial
            · by_cases excess : ledger.total.toNat < ledger.sent.toNat + mark.toNat
              · simp only [if_neg runs, if_neg stale, if_pos excess]
                exact .rests trivial
              · simp only [if_neg runs, if_neg stale, if_neg excess]
                rw [UInt64.le_iff_toNat_le] at stale
                exact .advances (Nat.lt_of_not_le stale) (Nat.le_of_not_lt excess)

variable {ledger after final : Ledger} {answer : Answer}

theorem perform_reserve {cipherLength : Nat} {reply : Reply Ledger Reservation}
    (reserved : ledger.reserve cipherLength = .ok reply) :
    ledger.perform (.reserve cipherLength) = .ok (.reserved reply.answer, reply.after) := by
  rw [perform, reserved, Checked.ok_bind, Checked.pure_eq_ok]

/-- On balanced books every call is answered. -/
theorem Balanced.exists_effect (balanced : ledger.Balanced) (call : Call) :
    ∃ answer after, ledger.perform call = .ok (answer, after) ∧ ledger.Effect answer after := by
  cases call with
  | reserve cipherLength =>
      by_cases granted : ledger.Grants (Reservation.consumption cipherLength).toNat
      · exact ⟨_, _, perform_reserve (reserve_eq_granted balanced granted), .reserves granted⟩
      · exact ⟨_, _, perform_reserve (reserve_eq_refused balanced granted), .rests trivial⟩
  | record offset length => exact ⟨_, _, rfl, ledger.record_effect offset length⟩
  | classify offset => exact ⟨_, _, rfl, .rests trivial⟩
  | classifyFrame offset length => exact ⟨_, _, rfl, .rests trivial⟩
  | isDuplicate offset => exact ⟨_, _, rfl, .rests trivial⟩
  | burn => exact ⟨_, _, rfl, .burns⟩
  | snapshot => exact ⟨_, _, rfl, .rests trivial⟩

theorem Balanced.effect_of_perform {call : Call} (balanced : ledger.Balanced)
    (performed : ledger.perform call = .ok (answer, after)) : ledger.Effect answer after := by
  rcases balanced.exists_effect call with ⟨otherAnswer, otherAfter, same, effect⟩
  rcases Prod.mk.inj (Except.ok.inj (same.symm.trans performed)) with ⟨rfl, rfl⟩
  exact effect

/-- Books that come after others: the region, the role and the threshold are
the same, and no counter has moved back. -/
structure Follows (before after : Ledger) : Prop where
  role : after.role = before.role
  total : after.total = before.total
  threshold : after.threshold = before.threshold
  sent : before.sent.toNat ≤ after.sent.toNat
  seen : before.seen.toNat ≤ after.seen.toNat
  burned : before.burned = true → after.burned = true

theorem Follows.refl (ledger : Ledger) : ledger.Follows ledger :=
  ⟨rfl, rfl, rfl, Nat.le_refl _, Nat.le_refl _, id⟩

theorem Follows.trans (first : ledger.Follows after) (second : after.Follows final) :
    ledger.Follows final where
  role := second.role.trans first.role
  total := second.total.trans first.total
  threshold := second.threshold.trans first.threshold
  sent := first.sent.trans second.sent
  seen := first.seen.trans second.seen
  burned := second.burned ∘ first.burned

/-- What is left only shrinks. -/
theorem Follows.free_le {before : Ledger} (follows : before.Follows after) :
    after.free ≤ before.free := by
  have sent := follows.sent
  have seen := follows.seen
  unfold free
  rw [follows.total]
  omega

/-- Books that are live were never burned. -/
theorem Follows.live {before : Ledger} (follows : before.Follows after)
    (live : after.burned = false) : before.burned = false := by
  rw [Bool.eq_false_iff]
  intro burned
  exact absurd ((follows.burned burned).symm.trans live) (by decide)

/-- The stage never moves back. -/
theorem Follows.exists_stage {before : Ledger} (follows : before.Follows after)
    (beforeBalanced : before.Balanced) (afterBalanced : after.Balanced) :
    ∃ earlier later, before.stage = .ok earlier ∧ after.stage = .ok later ∧
      earlier.rank ≤ later.rank := by
  refine ⟨_, _, stage_eq_ok beforeBalanced, stage_eq_ok afterBalanced, ?_⟩
  have free := follows.free_le
  cases gone : after.burned with
  | true =>
      rw [if_pos rfl]
      split
      · exact Nat.le_refl _
      · split <;> decide
  | false =>
      rw [follows.live gone, follows.threshold]
      by_cases exhausted : before.free < before.threshold.toNat
      · have later : after.free < before.threshold.toNat := by omega
        simp [exhausted, later]
      · simp [exhausted, Stage.rank]

section Effects

variable (effect : ledger.Effect answer after)

include effect

theorem Effect.eq_of_idle (idle : answer.Idle) : after = ledger := by
  cases effect with
  | rests => rfl
  | _ => exact False.elim idle

variable (balanced : ledger.Balanced)

include balanced

theorem Effect.keeps_balance : after.Balanced := by
  cases effect with
  | reserves granted => exact granted.balanced_advance balanced
  | advances _ fits => exact fits
  | burns => exact balanced
  | rests => exact balanced

theorem Effect.follows : ledger.Follows after := by
  cases effect with
  | reserves granted =>
      have sent := granted.toNat_sent balanced
      exact ⟨rfl, rfl, rfl, by omega, Nat.le_refl _, id⟩
  | advances later _ => exact ⟨rfl, rfl, rfl, Nat.le_refl _, Nat.le_of_lt later, id⟩
  | burns => exact ⟨rfl, rfl, rfl, Nat.le_refl _, Nat.le_refl _, fun _ => rfl⟩
  | rests => exact .refl ledger

end Effects

/-! ## Reservations -/

/-- A granted reservation lies next to the spans that were given out before. -/
theorem exists_span_reservation {cipherLength : Nat} {spans : List Span}
    (balanced : ledger.Balanced)
    (granted : ledger.Grants (Reservation.consumption cipherLength).toNat)
    (tiles : ledger.role.Tiles ledger.total.toNat spans ledger.sent.toNat) :
    ∃ span, (ledger.reservation cipherLength).span = .ok span ∧
      ledger.role.Tiles ledger.total.toNat (span :: spans)
        (ledger.sent.toNat + (Reservation.consumption cipherLength).toNat) := by
  let reservation := ledger.reservation cipherLength
  have totalLt := Word.toNat_lt ledger.total
  have fits := Nat.le_of_add_right_le (granted.fits balanced)
  have inside : _ ≤ ledger.total.toNat := ledger.role.nextStart_add_le fits
  have start : reservation.offset.toNat = _ := granted.toNat_start balanced
  have inWord : reservation.offset.toNat + reservation.consumed.toNat < wordLimit := by
    rw [start]
    exact inside.trans_lt totalLt
  refine ⟨_, Reservation.span_eq_ok inWord, ?_⟩
  exact .cons tiles (consumption_pos cipherLength) fits start
    (by rw [Word.toNat_ofNat inWord, start]; rfl)

/-- The spans are those of the reservations in the answers. -/
def GivenOut (answers : List Answer) (spans : List Span) : Prop :=
  List.Forall₂ (fun reservation span => reservation.span = .ok span)
    (answers.filterMap Answer.given) spans

theorem GivenOut.cons_of_none {answers : List Answer} {spans : List Span}
    (givenOut : GivenOut answers spans) (nothing : answer.given = none) :
    GivenOut (answer :: answers) spans := by
  unfold GivenOut
  rwa [List.filterMap_cons_none nothing]

theorem GivenOut.cons_of_some {answers : List Answer} {spans : List Span}
    {reservation : Reservation} {span : Span} (givenOut : GivenOut answers spans)
    (given : answer.given = some reservation) (spans_eq : reservation.span = .ok span) :
    GivenOut (answer :: answers) (span :: spans) := by
  unfold GivenOut
  rw [List.filterMap_cons_some given]
  exact .cons spans_eq givenOut

theorem Answer.given_of_idle (idle : answer.Idle) : answer.given = none := by
  rcases answer with (_ | _) | _ | _ | _ | _ | _
  all_goals first | rfl | exact False.elim idle

/-! ## Many calls -/

/-- What a run between two states has kept. -/
structure Kept (start : Ledger) (answers : List Answer) (final : Ledger) : Prop where
  balanced : final.Balanced
  follows : start.Follows final
  tiles : ∀ earlier, start.role.Tiles start.total.toNat earlier start.sent.toNat →
    ∃ spans, GivenOut answers spans ∧
      start.role.Tiles start.total.toNat (spans.reverse ++ earlier) final.sent.toNat

theorem Kept.nil (balanced : ledger.Balanced) : Kept ledger [] ledger :=
  ⟨balanced, .refl ledger, fun _ tiles => ⟨[], .nil, tiles⟩⟩

/-- What is given out first lies next to the earlier spans, and the rest lies
next to both. -/
theorem Kept.cons {answers : List Answer} (balanced : ledger.Balanced)
    (effect : ledger.Effect answer after) (rest : Kept after answers final) :
    Kept ledger (answer :: answers) final where
  balanced := rest.balanced
  follows := (effect.follows balanced).trans rest.follows
  tiles := by
    intro earlier tiles
    have kept := rest.tiles
    rw [(effect.follows balanced).role, (effect.follows balanced).total] at kept
    cases effect with
    | reserves granted =>
        rcases exists_span_reservation balanced granted tiles with ⟨span, span_eq, more⟩
        rw [← granted.toNat_sent balanced] at more
        rcases kept (span :: earlier) more with ⟨spans, givenOut, all⟩
        refine ⟨span :: spans, givenOut.cons_of_some rfl span_eq, ?_⟩
        rwa [List.reverse_cons, List.append_assoc]
    | advances =>
        rcases kept earlier tiles with ⟨spans, givenOut, all⟩
        exact ⟨spans, givenOut.cons_of_none rfl, all⟩
    | burns =>
        rcases kept earlier tiles with ⟨spans, givenOut, all⟩
        exact ⟨spans, givenOut.cons_of_none rfl, all⟩
    | rests idle =>
        rcases kept earlier tiles with ⟨spans, givenOut, all⟩
        exact ⟨spans, givenOut.cons_of_none (Answer.given_of_idle idle), all⟩

/-- On balanced books every run is answered. -/
theorem Balanced.exists_run (balanced : ledger.Balanced) (calls : List Call) :
    ∃ answers final, ledger.run calls = .ok (answers, final) ∧ Kept ledger answers final := by
  induction calls generalizing ledger with
  | nil => exact ⟨[], ledger, rfl, .nil balanced⟩
  | cons call calls inductionHypothesis =>
      rcases balanced.exists_effect call with ⟨answer, middle, performed, effect⟩
      rcases inductionHypothesis (effect.keeps_balance balanced) with ⟨answers, final, ran, kept⟩
      refine ⟨answer :: answers, final, ?_, .cons balanced effect kept⟩
      simp only [run, performed, ran, Checked.ok_bind, Checked.pure_eq_ok]

/-- Books that were begun answer every run of calls without a fault.  After it
both counters fit the region; one more call moves neither of them back, nor the
stage, and an idle one moves nothing; and on fresh books the reservations of the
run tile what was sent, from the role's end of the region. -/
theorem kept_of_run {start : Ledger} (begun : start.Begun) (calls : List Call) :
    ∃ answers ledger, start.run calls = .ok (answers, ledger) ∧
      ledger.sent.toNat + ledger.seen.toNat ≤ ledger.total.toNat ∧
      (∀ call, ∃ answer after, ledger.perform call = .ok (answer, after) ∧
        ledger.sent.toNat ≤ after.sent.toNat ∧ ledger.seen.toNat ≤ after.seen.toNat ∧
        (∃ earlier later, ledger.stage = .ok earlier ∧ after.stage = .ok later ∧
          earlier.rank ≤ later.rank) ∧
        (answer.Idle → after = ledger)) ∧
      ∀ role total settings, start = fresh role total settings →
        ∃ spans, GivenOut answers spans ∧
          role.Tiles total.toNat spans.reverse ledger.sent.toNat ∧
          ⋃ span ∈ spans, span.positions = role.side total.toNat ledger.sent.toNat := by
  rcases begun.balanced.exists_run calls with ⟨answers, ledger, ran, kept⟩
  refine ⟨answers, ledger, ran, kept.balanced, ?_, ?_⟩
  · intro call
    rcases kept.balanced.exists_effect call with ⟨answer, after, performed, effect⟩
    have follows := effect.follows kept.balanced
    exact ⟨answer, after, performed, follows.sent, follows.seen,
      follows.exists_stage kept.balanced (effect.keeps_balance kept.balanced), effect.eq_of_idle⟩
  · rintro role total settings rfl
    rcases kept.tiles [] .nil with ⟨spans, givenOut, tiles⟩
    rw [List.append_nil] at tiles
    refine ⟨spans, givenOut, tiles, ?_⟩
    have filled := tiles.iUnion_positions
    simp only [List.mem_reverse] at filled
    exact filled

/-- A responder that reserves, sees a frame, is asked for more than is left,
and is burned. -/
theorem kept_of_run_responder :
    ∃ answers ledger,
      (fresh .responder 500).run
          [.reserve 32, .record 0 200, .reserve 1000, .classifyFrame 450 96, .burn] =
        .ok (answers, ledger) ∧
      ledger.sent.toNat + ledger.seen.toNat ≤ ledger.total.toNat ∧
      ∃ spans, GivenOut answers spans ∧
        Role.responder.Tiles 500 spans.reverse ledger.sent.toNat := by
  rcases kept_of_run (.fresh .responder 500 {})
    [.reserve 32, .record 0 200, .reserve 1000, .classifyFrame 450 96, .burn] with
    ⟨answers, ledger, ran, balanced, -, tiled⟩
  rcases tiled .responder 500 {} rfl with ⟨spans, givenOut, tiles, -⟩
  exact ⟨answers, ledger, ran, balanced, spans, givenOut, tiles⟩

end Ledger

end OneTimePad
