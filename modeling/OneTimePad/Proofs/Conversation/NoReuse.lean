import OneTimePad.Proofs.Conversation.Run

/-!
# No position is used twice by one party

The frames that a conversation has sealed and those that it has delivered lie
at positions of their own.  What carries the proof is the set of positions that
the books count as used: a frame that is sealed or delivered lies outside of
it, belongs to it from then on, and nothing ever leaves it again.
-/

namespace OneTimePad

open Authenticator (keySize)

/-- The positions that the octets of a frame are sealed with.  Octets that are
no frame count as the whole line. -/
def wireExtent (bytes : List UInt8) : Set Nat :=
  match (Frame.ofBytes bytes).run with
  | .ok (.ok frame) => frame.extent
  | _ => Set.univ

/-- The positions that a delivered message was sealed with. -/
def Message.extent (message : Message) : Set Nat :=
  Set.Ico message.offset.toNat (message.offset.toNat + message.cipherLength + keySize)

/-- The positions that a move has used: those of the frame that was sent, or of
the frame that was delivered. -/
def Outcome.extent : Outcome → Set Nat
  | sent (.ok bytes) => wireExtent bytes
  | received (.ok (.delivered message)) => message.extent
  | _ => ∅

theorem wireExtent_of_ofBytes {bytes : List UInt8} {frame : Frame}
    (parsed : Frame.ofBytes bytes = pure frame) : wireExtent bytes = frame.extent := by
  rw [wireExtent, parsed]
  rfl

theorem wireExtent_toBytes {frame : Frame}
    (long : Padding.minimumLength ≤ frame.ciphertext.length) :
    wireExtent frame.toBytes = frame.extent :=
  wireExtent_of_ofBytes (Frame.ofBytes_toBytes long)

theorem Outcome.extent_of_idle {outcome : Outcome} (idle : outcome.Idle) : outcome.extent = ∅ := by
  rcases outcome with ⟨_ | _⟩ | ⟨_ | _ | _⟩ | _ | _ | _ | _
  all_goals first | rfl | exact False.elim idle

namespace Conversation

variable {conversation after final : Conversation} {outcome : Outcome} {outcomes : List Outcome}

/-! ## One move -/

theorem Sends.extent_toBytes {message : List UInt8} {frame : Frame}
    (sends : conversation.Sends message)
    (seals : frame.Seals conversation.region (conversation.nextOffset message) message) :
    wireExtent frame.toBytes = conversation.ledger.next (cost message) := by
  rw [wireExtent_toBytes (sends.minimumLength_le seals), sends.extent_eq seals]

section Effects

variable (effect : conversation.Effect outcome after)

include effect

theorem Effect.total_eq : after.ledger.total = conversation.ledger.total := by
  cases effect with
  | reloads reloaded =>
      rw [(reload_eq_pure reloaded).2.2]
      rfl
  | _ => rfl

/-- Positions that were used stay used. -/
theorem Effect.used_subset : conversation.ledger.used ⊆ after.ledger.used := by
  cases effect with
  | sends sends => exact sends.granted.used_subset_advance sends.balanced
  | delivers delivers => exact delivers.fresh.used_subset_observe
  | reloads reloaded =>
      rw [(reload_eq_pure reloaded).2.2]
      exact subset_rfl
  | burns => exact subset_rfl
  | rests => exact subset_rfl

/-- A move uses positions that were not used before. -/
theorem Effect.disjoint_used : Disjoint outcome.extent conversation.ledger.used := by
  cases effect with
  | sends sends seals =>
      rw [Outcome.extent, sends.extent_toBytes seals]
      exact sends.granted.disjoint_next_used sends.balanced
  | @delivers frame plaintext delivers =>
      have clear := delivers.fresh.clear
      rw [frame.claim_eq_extent] at clear
      exact Set.disjoint_union_right.mpr ⟨delivers.apart, clear⟩
  | rests idle =>
      rw [Outcome.extent_of_idle idle]
      exact Set.empty_disjoint _
  | _ => exact Set.empty_disjoint _

/-- Afterwards they count as used. -/
theorem Effect.extent_subset_used : outcome.extent ⊆ after.ledger.used := by
  cases effect with
  | sends sends seals =>
      rw [Outcome.extent, sends.extent_toBytes seals]
      exact (sends.granted.next_subset_own sends.balanced).trans Set.subset_union_left
  | @delivers frame plaintext delivers =>
      have noted := delivers.fresh.claim_subset_observe
      rw [frame.claim_eq_extent] at noted
      exact noted.trans Set.subset_union_right
  | rests idle =>
      rw [Outcome.extent_of_idle idle]
      exact Set.empty_subset _
  | _ => exact Set.empty_subset _

end Effects

/-! ## Many moves -/

/-- The outcomes of a run between two states account for the positions that
were used on the way. -/
structure Accounts (start : Conversation) (outcomes : List Outcome) (final : Conversation) :
    Prop where
  apart : (outcomes.map Outcome.extent).Pairwise Disjoint
  new : ∀ outcome ∈ outcomes, Disjoint outcome.extent start.ledger.used
  noted : ∀ outcome ∈ outcomes, outcome.extent ⊆ final.ledger.used
  kept : start.ledger.used ⊆ final.ledger.used
  total : final.ledger.total = start.ledger.total

theorem Accounts.nil (conversation : Conversation) : Accounts conversation [] conversation :=
  ⟨.nil, by simp, by simp, subset_rfl, rfl⟩

/-- What the rest of a run uses lies outside the positions used before it, and
so also off those of the first move. -/
theorem Accounts.cons (effect : conversation.Effect outcome after)
    (rest : Accounts after outcomes final) : Accounts conversation (outcome :: outcomes) final where
  apart := by
    rw [List.map_cons, List.pairwise_cons]
    constructor
    · rintro extent mem
      rcases List.mem_map.mp mem with ⟨later, laterMem, rfl⟩
      exact ((rest.new later laterMem).mono_right effect.extent_subset_used).symm
    · exact rest.apart
  new := by
    rw [List.forall_mem_cons]
    constructor
    · exact effect.disjoint_used
    · intro later mem
      exact (rest.new later mem).mono_right effect.used_subset
  noted := by
    rw [List.forall_mem_cons]
    exact ⟨effect.extent_subset_used.trans rest.kept, rest.noted⟩
  kept := effect.used_subset.trans rest.kept
  total := rest.total.trans effect.total_eq

theorem Reachable.accounts {moves : List Move} (reachable : conversation.Reachable)
    (ran : conversation.run moves = .ok (outcomes, final)) :
    Accounts conversation outcomes final ∧ final.Reachable := by
  induction moves generalizing conversation outcomes with
  | nil =>
      rcases Prod.mk.inj (Except.ok.inj ran) with ⟨rfl, rfl⟩
      exact ⟨.nil _, reachable⟩
  | cons move moves inductionHypothesis =>
      rcases run_cons_eq_ok ran with ⟨outcome, middle, others, played, rest, rfl⟩
      rcases inductionHypothesis (reachable.played played) rest with ⟨accounts, last⟩
      exact ⟨accounts.cons (reachable.sound.effect_of_play played), last⟩

/-- Every run of a conversation that was begun with a pad is answered.  The
frames that were sent and those that were delivered on the way have pairwise
disjoint positions, all of them inside the message region. -/
theorem extents_of_run_disjoint {pad : List UInt8} {role : Role} {settings : Settings}
    {start : Conversation} (fits : pad.length < wordLimit)
    (begun : begin pad role settings = pure start) (moves : List Move) :
    ((∀ move ∈ moves, move.Sized) → ∃ outcomes final, start.run moves = .ok (outcomes, final)) ∧
      ∀ outcomes final, start.run moves = .ok (outcomes, final) →
        (outcomes.map Outcome.extent).Pairwise Disjoint ∧
          ∀ outcome ∈ outcomes, outcome.extent ⊆ Set.Ico 0 (pad.length - settings.reserved) := by
  have reachable := Reachable.begun fits begun
  constructor
  · exact reachable.exists_run
  · intro outcomes final ran
    rcases reachable.accounts ran with ⟨accounts, last⟩
    constructor
    · exact accounts.apart
    · intro outcome mem
      have inside := last.sound.balanced.used_subset_region
      rcases begin_eq_pure begun with ⟨-, -, -, ledger⟩
      rw [accounts.total, ledger] at inside
      change final.ledger.used ⊆ Set.Ico 0 (UInt64.ofNat _).toNat at inside
      rw [toNat_regionLength fits] at inside
      exact (accounts.noted outcome mem).trans inside

/-- Two messages with a reload between them, sealed with a region of 192
octets. -/
theorem extents_of_run_disjoint_two_sends :
    ∃ start, begin (List.replicate 352 0) .initiator {} = pure start ∧
      ∃ outcomes final, start.run [.send [], .reload, .send [1]] = .ok (outcomes, final) ∧
        (outcomes.map Outcome.extent).Pairwise Disjoint ∧
          ∀ outcome ∈ outcomes, outcome.extent ⊆ Set.Ico 0 192 := by
  rcases exists_begin_smallPad .initiator with ⟨start, begun⟩
  obtain ⟨answered, disjoint⟩ :=
    extents_of_run_disjoint length_smallPad_lt begun [.send [], .reload, .send [1]]
  rw [smallPad, List.length_replicate] at disjoint
  have sized : ∀ move ∈ [Move.send [], .reload, .send [1]], move.Sized := by
    simp [Move.Sized, Padding.overhead, wordLimit]
  rcases answered sized with ⟨outcomes, final, ran⟩
  exact ⟨start, begun, outcomes, final, ran, disjoint outcomes final ran⟩

end Conversation

end OneTimePad
