import OneTimePad.Proofs.Conversation.Run

/-!
# Frames in sequence

Each frame of a party is sealed with the positions right after those of its
earlier frames.  So to the other party, a frame is a place on one line: if its
positions are all counted as seen, it was processed already, and if none of
them is, it is delivered.  Between the two there is nothing, as long as frames
are seen as a whole.
-/

namespace OneTimePad

open Authenticator (keySize)
open Padding (padded)
open Conversation (cost)

/-- A frame that a role has sealed with the positions it takes after `taken`
others. -/
structure Frame.Continues (frame : Frame) (role : Role) (total taken : Nat)
    (region message : List UInt8) : Prop where
  short : (padded message).length ≤ Frame.maximumCiphertext
  fits : taken + cost message ≤ total
  start : frame.offset.toNat = role.nextStart total taken (cost message)
  seals : frame.Seals region frame.offset message

namespace Frame

theorem offset_mem_claim (frame : Frame) :
    frame.offset.toNat ∈ Ledger.claim frame.offset frame.consumed := by
  have positive : 0 < frame.consumed.toNat := by
    rw [frame.toNat_consumed]
    exact Nat.succ_pos _
  exact ⟨Nat.le_refl _, Nat.lt_add_of_pos_right positive⟩

/-- A sealed frame consumes what its message costs. -/
theorem Seals.toNat_consumed {frame : Frame} {offset : UInt64} {region message : List UInt8}
    (seals : frame.Seals region offset message)
    (within : (messageSpan offset message).Within region) :
    frame.consumed.toNat = cost message := by
  rw [frame.toNat_consumed, seals.length_ciphertext within, cost]

variable {frame : Frame} {role : Role} {total taken : Nat} {region message : List UInt8}
  (continues : frame.Continues role total taken region message)
  (covered : region.length = total)

include continues covered

theorem Continues.within : (messageSpan frame.offset message).Within region := by
  change frame.offset.toNat + cost message ≤ region.length
  rw [continues.start, covered]
  exact Role.nextStart_add_le continues.fits

theorem Continues.minimumLength_le : Padding.minimumLength ≤ frame.ciphertext.length :=
  continues.seals.minimumLength_le (continues.within covered)

theorem Continues.toNat_consumed : frame.consumed.toNat = cost message :=
  continues.seals.toNat_consumed (continues.within covered)

theorem Continues.openWith_eq : frame.openWith region = pure message := by
  refine continues.seals.openWith_eq (continues.within covered) ?_
  have short := continues.short
  rw [Padding.length_padded] at short
  simp only [maximumCiphertext, Padding.overhead, Padding.maximumMessage] at short ⊢
  omega

theorem Continues.authentic : frame.Authentic region := by
  have span := continues.seals.keySpan_eq (continues.within covered)
  rw [authentic_iff, Signed, span]
  exact continues.seals.signed

/-- Its positions are the next ones of the role. -/
theorem Continues.claim_eq : Ledger.claim frame.offset frame.consumed =
    Set.Ico (role.nextStart total taken (cost message))
      (role.nextStart total taken (cost message) + cost message) := by
  rw [Ledger.claim, continues.start, continues.toNat_consumed covered]

end Frame

namespace Conversation

variable {conversation : Conversation} {message : List UInt8} {frame : Frame} {taken : Nat}

/-- A frame that is sent continues what its party has sent before. -/
theorem Sends.continues (sends : conversation.Sends message)
    (seals : frame.Seals conversation.region (conversation.nextOffset message) message) :
    frame.Continues conversation.ledger.role conversation.ledger.total.toNat
      conversation.ledger.sent.toNat conversation.region message where
  short := sends.short
  fits := Nat.le_of_add_right_le (sends.granted.fits sends.balanced)
  start := by
    rw [seals.offset_eq]
    exact toNat_nextOffset sends.balanced sends.short sends.granted
  seals := by rwa [seals.offset_eq]

/-- The first frame of a party over the small pad, if its message is short. -/
theorem continues_of_begin_smallPad {role : Role}
    (begun : begin smallPad role {} = pure conversation) (length : (padded message).length = 32)
    (seals : frame.Seals conversation.region (conversation.nextOffset message) message) :
    frame.Continues role 192 0 (smallPad.drop 160) message := by
  have continues := (sends_of_begin_smallPad begun length).continues seals
  rw [ledger_of_begin_smallPad begun, region_of_begin_smallPad begun] at continues
  exact continues

section Arriving

variable (sound : conversation.Sound) (live : conversation.ledger.burned = false)
  (continues : frame.Continues conversation.ledger.role.peer conversation.ledger.total.toNat taken
    conversation.region message)

include sound live continues

theorem claim_subset_side : Ledger.claim frame.offset frame.consumed ⊆
    conversation.ledger.role.peer.side conversation.ledger.total.toNat (taken + cost message) := by
  rw [continues.claim_eq (sound.covered live)]
  exact Role.next_subset_side continues.fits

theorem markOf_continues :
    conversation.ledger.markOf frame.offset frame.consumed = taken + cost message := by
  have fits := continues.fits
  have start := continues.start
  have consumed := continues.toNat_consumed (sound.covered live)
  unfold Ledger.markOf
  cases role : conversation.ledger.role with
  | initiator =>
      rw [role, Role.peer, Role.nextStart] at start
      simp only
      omega
  | responder =>
      rw [role, Role.peer, Role.nextStart] at start
      simp only
      omega

variable (clear : conversation.ledger.sent.toNat + (taken + cost message) ≤
  conversation.ledger.total.toNat)

include clear

/-- A frame of the other party stays off the positions of this one. -/
theorem disjoint_claim_own :
    Disjoint (Ledger.claim frame.offset frame.consumed) conversation.ledger.own :=
  ((Role.disjoint_side_peer clear).mono_right
    (claim_subset_side sound live continues)).symm

theorem offset_notMem_own : frame.offset.toNat ∉ conversation.ledger.own :=
  Set.disjoint_left.mp (disjoint_claim_own sound live continues clear)
    frame.offset_mem_claim

/-- A frame none of whose positions are seen is new. -/
theorem fresh_of_unseen (unseen : conversation.ledger.seen.toNat ≤ taken) :
    conversation.ledger.Fresh frame.offset frame.consumed where
  nonempty := by
    rw [frame.toNat_consumed]
    exact Nat.succ_pos _
  inside := by
    rw [continues.start, continues.toNat_consumed (sound.covered live)]
    exact Role.nextStart_add_le continues.fits
  unowned := offset_notMem_own sound live continues clear
  clear := by
    rw [continues.claim_eq (sound.covered live)]
    exact (Role.disjoint_next_side continues.fits).mono_right (Role.side_mono unseen)

/-- A frame none of whose positions are seen is delivered with its message, and
is seen then together with all that was sent before it. -/
theorem receive_of_unseen (unseen : conversation.ledger.seen.toNat ≤ taken) :
    conversation.receive frame.toBytes =
        .ok ⟨.ok (.delivered (messageOf frame message)), conversation.heed frame⟩ ∧
      conversation.Delivers frame message ∧
      (conversation.heed frame).ledger.seen.toNat = taken + cost message := by
  have covered := sound.covered live
  have parsed := Frame.ofBytes_toBytes (continues.minimumLength_le covered)
  have fresh := fresh_of_unseen sound live continues clear unseen
  have apart := disjoint_claim_own sound live continues clear
  rw [frame.claim_eq_extent] at apart
  have opened := continues.openWith_eq covered
  have received := sound.receive_of_apart live parsed fresh opened apart
  have delivers : conversation.Delivers frame message :=
    ⟨live, fresh, continues.authentic covered, opened, apart⟩
  refine ⟨received, delivers, ?_⟩
  rw [← markOf_continues sound live continues]
  exact fresh.toNat_mark

/-- A frame all of whose positions are seen was processed already. -/
theorem receive_of_seen (seen : taken + cost message ≤ conversation.ledger.seen.toNat) :
    conversation.receive frame.toBytes =
      .ok ⟨.ok (.skipped .alreadyProcessed), conversation⟩ := by
  have covered := sound.covered live
  have parsed := Frame.ofBytes_toBytes (continues.minimumLength_le covered)
  have first := frame.offset_mem_claim
  have processed : conversation.ledger.role.hasProcessed conversation.ledger.total
      conversation.ledger.seen frame.offset = true :=
    Role.hasProcessed_iff_mem_side.mpr
      (Role.side_mono seen (claim_subset_side sound live continues first))
  have begins : frame.offset.toNat < conversation.ledger.total.toNat :=
    (Role.side_subset_region continues.fits
      (claim_subset_side sound live continues first)).2
  have unowned : ¬ conversation.ledger.role.owns conversation.ledger.total
      conversation.ledger.sent frame.offset = true :=
    mt (Role.owns_iff_mem_side begins).mp (offset_notMem_own sound live continues clear)
  have verdict : conversation.ledger.classifyFrame frame.offset frame.consumed =
      .ok .duplicate := by
    simp [Ledger.classifyFrame, Ledger.classify, Ledger.isDuplicate, unowned, processed]
  have examined := examine_of_frame live parsed
  rw [verdict] at examined
  simp [receive, examined]

end Arriving

/-- A frame that comes back to the party that has sent it is skipped. -/
theorem receive_of_echo {region : List UInt8} (sound : conversation.Sound)
    (live : conversation.ledger.burned = false)
    (continues : frame.Continues conversation.ledger.role conversation.ledger.total.toNat taken
      region message)
    (covered : region.length = conversation.ledger.total.toNat)
    (sent : taken + cost message ≤ conversation.ledger.sent.toNat) :
    conversation.receive frame.toBytes = .ok ⟨.ok (.skipped .own), conversation⟩ := by
  have parsed := Frame.ofBytes_toBytes (continues.minimumLength_le covered)
  have first := frame.offset_mem_claim
  rw [continues.claim_eq covered] at first
  have mem := Role.side_mono sent (Role.next_subset_side continues.fits first)
  have fits : conversation.ledger.sent.toNat ≤ conversation.ledger.total.toNat :=
    Nat.le_of_add_right_le sound.balanced
  have owned := (Role.owns_iff_mem_side (Role.side_subset_region fits mem).2).mpr mem
  have verdict : conversation.ledger.classifyFrame frame.offset frame.consumed = .ok .own := by
    simp [Ledger.classifyFrame, Ledger.classify, owned]
  have examined := examine_of_frame live parsed
  rw [verdict] at examined
  simp [receive, examined]

end Conversation

end OneTimePad
