import Mathlib.Data.List.Forall2
import Mathlib.Data.List.GetD
import Mathlib.Data.Set.Function
import OneTimePad.Proofs.Conversation.Run
import OneTimePad.Proofs.Frame.Agreement

/-!
# Any messages under some pad

What was sent could have carried any other messages of the same lengths: there
is a pad under which exactly these frames carry them.  It is the pad itself with
the difference of the padded messages added where the key of the cipher lies,
frame by frame.  Adding the same once more gives the first pad back, so no pad
is more likely than the other.

This works because no two frames share a position.  So what is added for one
frame changes no key of another one, and the keys of the authenticator do not
change at all.
-/

namespace OneTimePad

open Padding (padded)
open Conversation (cost)

/-- What turns one padded message into another. -/
def Padding.difference (first other : List UInt8) : List UInt8 :=
  Bytes.xor (padded first) (padded other)

/-- Adding the difference and the one message gives the other one. -/
theorem Padding.xor_difference {key first other : List UInt8}
    (sameLength : (padded other).length = (padded first).length) :
    Bytes.xor (Bytes.xor key (difference first other)) (padded other) =
      Bytes.xor key (padded first) := by
  rw [Bytes.xor_assoc, difference, Bytes.xor_comm (padded first), Bytes.xor_comm _ (padded other),
    Bytes.xor_xor_cancel sameLength]

namespace Ledger

/-- What is added at a position of the region so that the next frame carries
another message. -/
def adjustment (ledger : Ledger) (first other : List UInt8) (position : Nat) : UInt8 :=
  let start := (ledger.reservation (padded first).length).offset.toNat
  if start ≤ position then (Padding.difference first other).getD (position - start) 0 else 0

/-- What is added at a position of the region so that the next frames carry
other messages. -/
def correction : Ledger → List (List UInt8) → List (List UInt8) → Nat → UInt8
  | ledger, first :: messages, other :: others, position =>
      ledger.adjustment first other position ^^^
        correction (ledger.advance (cost first)) messages others position
  | _, _, _, _ => 0

end Ledger

namespace Conversation

/-- Change a pad so that the next frames carry other messages. -/
def rekey (conversation : Conversation) (messages others : List (List UInt8)) (pad : List UInt8) :
    List UInt8 :=
  let reserved := conversation.settings.reserved
  pad.mapIdx fun position byte =>
    if position < reserved then byte
    else byte ^^^ conversation.ledger.correction messages others (position - reserved)

/-- The messages are sent one after the other.  Each of them yields the octets
of a frame, and leaves counters behind. -/
inductive Transmits : Conversation → List (List UInt8) → List (List UInt8 × Snapshot) → Prop where
  | nil {conversation : Conversation} : Transmits conversation [] []
  | cons {conversation after : Conversation} {message bytes : List UInt8}
      {messages : List (List UInt8)} {frames : List (List UInt8 × Snapshot)}
      (sent : conversation.send message = .ok ⟨.ok bytes, after⟩)
      (rest : Transmits after messages frames) :
      Transmits conversation (message :: messages) ((bytes, after.snapshot) :: frames)

variable {conversation : Conversation} {first other pad : List UInt8}
  {messages others : List (List UInt8)} {frames : List (List UInt8 × Snapshot)} {frame : Frame}
  {position : Nat}

/-! ## Rekeying on its own -/

@[simp]
theorem length_rekey (conversation : Conversation) (messages others : List (List UInt8))
    (pad : List UInt8) : (conversation.rekey messages others pad).length = pad.length := by
  simp [rekey]

/-- To add the same twice is to add nothing. -/
theorem involutive_rekey (conversation : Conversation) (messages others : List (List UInt8)) :
    Function.Involutive (conversation.rekey messages others) := by
  intro pad
  apply List.ext_getElem?
  intro position
  simp only [rekey, List.getElem?_mapIdx, Option.map_map]
  have twice : ∀ byte mask : UInt8, byte ^^^ mask ^^^ mask = byte := by
    intro byte mask
    rw [UInt8.xor_assoc, UInt8.xor_self, UInt8.xor_zero]
  by_cases prefixed : position < conversation.settings.reserved
  · simp [prefixed, Function.comp_def]
  · simp [prefixed, Function.comp_def, twice]

/-- What is set aside of a pad does not change. -/
theorem take_rekey (conversation : Conversation) (messages others : List (List UInt8))
    (pad : List UInt8) :
    (conversation.rekey messages others pad).take conversation.settings.reserved =
      pad.take conversation.settings.reserved := by
  apply List.ext_getElem?
  intro position
  rw [List.getElem?_take, List.getElem?_take]
  by_cases prefixed : position < conversation.settings.reserved
  · simp [prefixed, rekey]
  · simp [prefixed]

theorem getElem?_region_rekey (conversation : Conversation) (messages others : List (List UInt8))
    (pad : List UInt8) (position : Nat) :
    ((conversation.rekey messages others pad).drop conversation.settings.reserved)[position]? =
      (pad.drop conversation.settings.reserved)[position]?.map
        (· ^^^ conversation.ledger.correction messages others position) := by
  have notBefore :
      ¬ conversation.settings.reserved + position < conversation.settings.reserved := by omega
  simp [rekey, notBefore]

/-- Where nothing is added, a key of the authenticator stays. -/
theorem authKey_rekey {span : KeySpan}
    (unchanged : ∀ position ∈ span.authPositions,
      conversation.ledger.correction messages others position = 0) :
    span.authKey
        ((conversation.rekey messages others pad).drop conversation.settings.reserved) =
      span.authKey (pad.drop conversation.settings.reserved) := by
  have agree : AgreeOutside span.authPositionsᶜ
      ((conversation.rekey messages others pad).drop conversation.settings.reserved)
      (pad.drop conversation.settings.reserved) := by
    constructor
    · rw [List.length_drop, List.length_drop, length_rekey]
    · intro position outside
      rw [getElem?_region_rekey, unchanged position (Set.notMem_compl_iff.mp outside)]
      simp
  exact KeySpan.authKey_congr agree disjoint_compl_right

/-! ## Where a correction lies -/

theorem adjustment_add_eq {index : Nat}
    (present : index < (Padding.difference first other).length) :
    conversation.ledger.adjustment first other ((conversation.nextOffset first).toNat + index) =
      (Padding.difference first other)[index] := by
  unfold Ledger.adjustment
  change (if (conversation.nextOffset first).toNat ≤ _ then
    (Padding.difference first other).getD (_ - (conversation.nextOffset first).toNat) 0 else 0) = _
  rw [if_pos (Nat.le_add_right _ _), Nat.add_sub_cancel_left, List.getD_eq_getElem _ _ present]

/-- An adjustment lies where the key of the cipher does. -/
theorem adjustment_eq_zero
    (outside : position ∉
      (Frame.messageSpan (conversation.nextOffset first) first).cipherPositions) :
    conversation.ledger.adjustment first other position = 0 := by
  unfold Ledger.adjustment
  change (if (conversation.nextOffset first).toNat ≤ position then
    (Padding.difference first other).getD (position - (conversation.nextOffset first).toNat) 0
    else 0) = 0
  by_cases before : (conversation.nextOffset first).toNat ≤ position
  · have beyond : (Padding.difference first other).length ≤
        position - (conversation.nextOffset first).toNat := by
      rw [Padding.difference, Bytes.length_xor]
      simp only [KeySpan.cipherPositions, Frame.messageSpan, Set.mem_Ico] at outside
      omega
    rw [if_pos before, List.getD_eq_default _ _ beyond]
  · rw [if_neg before]

theorem Sends.adjustment_eq_zero (sends : conversation.Sends first)
    (outside : position ∉ conversation.ledger.next (cost first)) :
    conversation.ledger.adjustment first other position = 0 := by
  apply Conversation.adjustment_eq_zero
  rw [← positions_messageSpan sends.balanced sends.short sends.granted] at outside
  exact fun mem => outside (KeySpan.cipherPositions_subset _ mem)

/-- Every message that is transmitted is one that can be sent, in a frame that
seals it. -/
theorem Transmits.of_cons (transmits : conversation.Transmits (first :: messages) frames) :
    ∃ (frame : Frame) (rest : List (List UInt8 × Snapshot)), conversation.Sends first ∧
      frame.Seals conversation.region (conversation.nextOffset first) first ∧
      (conversation.spend first).Transmits messages rest ∧
      frames = (frame.toBytes, (conversation.spend first).snapshot) :: rest := by
  rcases transmits with _ | ⟨sent, rest⟩
  have sends := sends_of_send sent
  rcases send_eq_ok sends with ⟨frame, seals, same⟩
  rcases Reply.mk.inj (Except.ok.inj (same.symm.trans sent)) with ⟨bytes, after⟩
  obtain rfl := Except.ok.inj bytes
  subst after
  exact ⟨frame, _, sends, seals, rest, rfl⟩

/-- Nothing is added where the party has used positions before. -/
theorem Transmits.correction_eq_zero (transmits : conversation.Transmits messages frames)
    (others : List (List UInt8)) (used : position ∈ conversation.ledger.own) :
    conversation.ledger.correction messages others position = 0 := by
  induction messages generalizing conversation frames others with
  | nil => rfl
  | cons first messages inductionHypothesis =>
      cases others with
      | nil => rfl
      | cons other others =>
          rcases transmits.of_cons with ⟨frame, later, sends, -, rest, -⟩
          have outside : position ∉ conversation.ledger.next (cost first) :=
            fun mem =>
              Set.disjoint_left.mp (sends.granted.disjoint_next_own sends.balanced) mem used
          have kept := sends.granted.own_subset_advance sends.balanced used
          have nothing := inductionHypothesis rest others kept
          change _ ^^^ (conversation.spend first).ledger.correction messages others position = 0
          rw [sends.adjustment_eq_zero outside, nothing, UInt8.xor_self]

/-- Among the positions of the first frame, only its own adjustment is added. -/
theorem Transmits.correction_of_mem_next
    (transmits : conversation.Transmits (first :: messages) frames) (other : List UInt8)
    (others : List (List UInt8)) (mem : position ∈ conversation.ledger.next (cost first)) :
    conversation.ledger.correction (first :: messages) (other :: others) position =
      conversation.ledger.adjustment first other position := by
  rcases transmits.of_cons with ⟨frame, later, sends, -, rest, -⟩
  have kept := sends.granted.next_subset_own sends.balanced mem
  have nothing := rest.correction_eq_zero others kept
  change _ ^^^ (conversation.spend first).ledger.correction messages others position = _
  rw [nothing, UInt8.xor_zero]

/-- Elsewhere, only what is added for the other frames counts. -/
theorem Sends.correction_of_notMem_next (sends : conversation.Sends first)
    (outside : position ∉ conversation.ledger.next (cost first)) :
    conversation.ledger.correction (first :: messages) (other :: others) position =
      (conversation.spend first).ledger.correction messages others position := by
  change _ ^^^ (conversation.spend first).ledger.correction messages others position = _
  rw [sends.adjustment_eq_zero outside, UInt8.zero_xor]

/-- What is transmitted can be read. -/
theorem Transmits.exists_ofBytes (transmits : conversation.Transmits messages frames) :
    ∀ entry ∈ frames, ∃ frame, Frame.ofBytes entry.1 = pure frame := by
  induction messages generalizing conversation frames with
  | nil =>
      rcases transmits
      simp
  | cons first messages inductionHypothesis =>
      obtain ⟨frame, later, sends, seals, rest, rfl⟩ := transmits.of_cons
      rw [List.forall_mem_cons]
      constructor
      · exact ⟨frame, Frame.ofBytes_toBytes (sends.minimumLength_le seals)⟩
      · exact inductionHypothesis rest

/-- The frames lie outside the positions that were used before. -/
theorem Transmits.disjoint_own (transmits : conversation.Transmits messages frames) :
    ∀ entry ∈ frames, ∀ frame, Frame.ofBytes entry.1 = pure frame →
      Disjoint frame.extent conversation.ledger.own := by
  induction messages generalizing conversation frames with
  | nil =>
      rcases transmits
      simp
  | cons first messages inductionHypothesis =>
      rcases transmits.of_cons with ⟨frame, later, sends, seals, rest, rfl⟩
      rw [List.forall_mem_cons]
      constructor
      · intro read parsed
        have same := Frame.ofBytes_toBytes (sends.minimumLength_le seals)
        obtain rfl := Attempt.pure_inj.mp (same.symm.trans parsed)
        rw [sends.extent_eq seals]
        exact sends.granted.disjoint_next_own sends.balanced
      · intro entry mem read parsed
        have apart := inductionHypothesis rest entry mem read parsed
        exact apart.mono_right (sends.granted.own_subset_advance sends.balanced)

/-- Nothing is added to a key of the authenticator. -/
theorem Transmits.correction_eq_zero_of_mem_authPositions
    (transmits : conversation.Transmits messages frames) (others : List (List UInt8)) :
    ∀ entry ∈ frames, ∀ frame, Frame.ofBytes entry.1 = pure frame →
      ∀ position ∈ frame.keySpan.authPositions,
        conversation.ledger.correction messages others position = 0 := by
  induction messages generalizing conversation frames others with
  | nil =>
      rcases transmits
      simp
  | cons first messages inductionHypothesis =>
      cases others with
      | nil => exact fun _ _ _ _ _ _ => rfl
      | cons other others =>
          rcases transmits.of_cons with ⟨frame, later, sends, seals, rest, rfl⟩
          rw [List.forall_mem_cons]
          constructor
          · intro read parsed position mem
            have same := Frame.ofBytes_toBytes (sends.minimumLength_le seals)
            obtain rfl := Attempt.pure_inj.mp (same.symm.trans parsed)
            rw [sends.keySpan_eq seals] at mem
            have inNext := KeySpan.authPositions_subset _ mem
            rw [positions_messageSpan sends.balanced sends.short sends.granted] at inNext
            rw [transmits.correction_of_mem_next other others inNext]
            exact adjustment_eq_zero (KeySpan.notMem_cipherPositions mem)
          · intro entry inLater read parsed position mem
            have nothing := inductionHypothesis rest others entry inLater read parsed position mem
            have outside : position ∉ conversation.ledger.next (cost first) := by
              intro inNext
              have apart := rest.disjoint_own entry inLater read parsed
              rw [← read.positions_keySpan] at apart
              exact Set.disjoint_left.mp apart (KeySpan.authPositions_subset _ mem)
                (sends.granted.next_subset_own sends.balanced inNext)
            rw [sends.correction_of_notMem_next outside, nothing]

/-! ## Sending other messages -/

/-- A pad under which the next frames carry other messages, as far as those
positions are concerned that this party has not used. -/
structure Corrects (conversation : Conversation) (pad : List UInt8)
    (messages others : List (List UInt8)) : Prop where
  length_eq : pad.length = conversation.pad.length
  same : ∀ position ∉ conversation.ledger.own,
    (conversation.withPad pad).region[position]? =
      conversation.region[position]?.map
        (· ^^^ conversation.ledger.correction messages others position)

theorem corrects_rekey (conversation : Conversation) (messages others : List (List UInt8)) :
    conversation.Corrects (conversation.rekey messages others conversation.pad) messages
      others := by
  constructor
  · exact length_rekey conversation messages others conversation.pad
  · intro position _
    exact getElem?_region_rekey conversation messages others conversation.pad position

theorem Corrects.length_region (corrects : conversation.Corrects pad messages others) :
    (conversation.withPad pad).region.length = conversation.region.length := by
  rw [region, region, List.length_drop, List.length_drop]
  exact congrArg (· - conversation.settings.reserved) corrects.length_eq

/-- Messages that are padded to one length need the same key material. -/
theorem Sends.length_padded_eq (sends : conversation.Sends first)
    (sameLength : Padding.paddedLength first.length = Padding.paddedLength other.length) :
    (padded other).length = (padded first).length := by
  rw [paddedLength_of_short sends.short] at sameLength
  rcases Padding.paddedLength_eq_ok_iff.mp sameLength.symm with ⟨-, lengthEq⟩
  rw [lengthEq, Padding.length_padded]

/-- What the spans of two messages have in common that are padded to one
length. -/
theorem messageSpan_congr {offset : UInt64}
    (sameLength : (padded other).length = (padded first).length) :
    Frame.messageSpan offset other = Frame.messageSpan offset first := by
  rw [Frame.messageSpan, Frame.messageSpan, sameLength]

theorem cost_congr (sameLength : (padded other).length = (padded first).length) :
    cost other = cost first := by
  rw [cost, cost, sameLength]

theorem nextOffset_congr (conversation : Conversation)
    (sameLength : (padded other).length = (padded first).length) :
    conversation.nextOffset other = conversation.nextOffset first := by
  rw [nextOffset, nextOffset, sameLength]

section Step

variable (transmits : conversation.Transmits (first :: messages) frames)
  (sends : conversation.Sends first) (sameLength : (padded other).length = (padded first).length)
  (corrects : conversation.Corrects pad (first :: messages) (other :: others))

include transmits sends corrects

theorem Corrects.getElem?_of_mem_next (mem : position ∈ conversation.ledger.next (cost first)) :
    (conversation.withPad pad).region[position]? =
      conversation.region[position]?.map
        (· ^^^ conversation.ledger.adjustment first other position) := by
  have unused : position ∉ conversation.ledger.own :=
    Set.disjoint_left.mp (sends.granted.disjoint_next_own sends.balanced) mem
  rw [corrects.same position unused, transmits.correction_of_mem_next other others mem]

/-- The key of the authenticator stays. -/
theorem Corrects.authKey_eq :
    (Frame.messageSpan (conversation.nextOffset first) first).authKey
        (conversation.withPad pad).region =
      (Frame.messageSpan (conversation.nextOffset first) first).authKey conversation.region := by
  have agree : AgreeOutside
      (Frame.messageSpan (conversation.nextOffset first) first).authPositionsᶜ
      (conversation.withPad pad).region conversation.region := by
    constructor
    · exact corrects.length_region
    · intro position outside
      have mem := Set.notMem_compl_iff.mp outside
      have inNext := KeySpan.authPositions_subset _ mem
      rw [positions_messageSpan sends.balanced sends.short sends.granted] at inNext
      rw [corrects.getElem?_of_mem_next transmits sends inNext,
        adjustment_eq_zero (KeySpan.notMem_cipherPositions mem)]
      simp
  exact KeySpan.authKey_congr agree disjoint_compl_right

include sameLength

/-- The key of the cipher changes by the difference of the messages. -/
theorem Corrects.cipherKey_eq :
    (Frame.messageSpan (conversation.nextOffset first) first).cipherKey
        (conversation.withPad pad).region =
      Bytes.xor
        ((Frame.messageSpan (conversation.nextOffset first) first).cipherKey conversation.region)
        (Padding.difference first other) := by
  apply List.ext_getElem?
  intro index
  unfold Frame.messageSpan
  rw [Bytes.getElem?_xor, KeySpan.cipherKey, KeySpan.cipherKey, List.getElem?_take,
    List.getElem?_take, List.getElem?_drop, List.getElem?_drop]
  by_cases inside : index < (padded first).length
  · have mem : (conversation.nextOffset first).toNat + index ∈
        (Frame.messageSpan (conversation.nextOffset first) first).cipherPositions :=
      ⟨Nat.le_add_right _ _, Nat.add_lt_add_left inside _⟩
    have inNext := KeySpan.cipherPositions_subset _ mem
    rw [positions_messageSpan sends.balanced sends.short sends.granted] at inNext
    have present : index < (Padding.difference first other).length := by
      rw [Padding.difference, Bytes.length_xor, sameLength, Nat.min_self]
      exact inside
    rw [if_pos inside, if_pos inside, corrects.getElem?_of_mem_next transmits sends inNext,
      adjustment_add_eq present, List.getElem?_eq_getElem present]
    exact Option.map_eq_bind
  · rw [if_neg inside, if_neg inside]
    rfl

/-- The next frame carries the other message. -/
theorem Corrects.seals
    (seals : frame.Seals conversation.region (conversation.nextOffset first) first) :
    frame.Seals (conversation.withPad pad).region (conversation.nextOffset first) other := by
  constructor
  · exact seals.offset_eq
  · rw [seals.ciphertext_eq, Frame.encrypted, Frame.encrypted, messageSpan_congr sameLength,
      corrects.cipherKey_eq transmits sends sameLength, Padding.xor_difference sameLength]
  · rw [messageSpan_congr sameLength, corrects.authKey_eq transmits sends]
    exact seals.signed

end Step

theorem Sends.of_corrects (sends : conversation.Sends first)
    (sameLength : (padded other).length = (padded first).length)
    (corrects : conversation.Corrects pad (first :: messages) (other :: others)) :
    (conversation.withPad pad).Sends other := by
  constructor
  · exact sends.balanced
  · rw [sameLength]
    exact sends.short
  · rw [cost_congr sameLength]
    exact sends.granted
  · have within := sends.within
    rw [KeySpan.Within, ← corrects.length_region] at within
    rw [nextOffset_congr _ sameLength, messageSpan_congr sameLength]
    exact within

/-- For the frames after the next one, the pad does what it should as well. -/
theorem Corrects.spend (sends : conversation.Sends first)
    (corrects : conversation.Corrects pad (first :: messages) (other :: others)) :
    (conversation.spend first).Corrects pad messages others := by
  constructor
  · exact corrects.length_eq
  · intro position outside
    have unused : position ∉ conversation.ledger.own :=
      fun mem => outside (sends.granted.own_subset_advance sends.balanced mem)
    have notNext : position ∉ conversation.ledger.next (cost first) :=
      fun mem => outside (sends.granted.next_subset_own sends.balanced mem)
    have same := corrects.same position unused
    rw [sends.correction_of_notMem_next notNext] at same
    exact same

/-- Under such a pad the other messages are sent, in the same frames, and with
the same counters. -/
theorem Transmits.of_corrects (transmits : conversation.Transmits messages frames)
    (sameLengths : List.Forall₂
      (fun first other => Padding.paddedLength first.length = Padding.paddedLength other.length)
      messages others)
    (corrects : conversation.Corrects pad messages others) :
    (conversation.withPad pad).Transmits others frames := by
  induction sameLengths generalizing conversation frames with
  | nil =>
      rcases transmits
      exact .nil
  | @cons first other messages others same _ inductionHypothesis =>
      rcases transmits.of_cons with ⟨frame, later, sends, seals, rest, rfl⟩
      have sameLength := sends.length_padded_eq same
      have otherSends := sends.of_corrects sameLength corrects
      have otherSeals := corrects.seals transmits sends sameLength seals
      rcases send_eq_ok otherSends with ⟨otherFrame, sealsOther, sent⟩
      have offsets := (conversation.withPad pad).nextOffset_congr sameLength
      rw [offsets] at sealsOther
      obtain rfl := otherSeals.unique sealsOther
      have spent : (conversation.withPad pad).spend other =
          (conversation.spend first).withPad pad := by
        rw [spend, cost_congr sameLength]
        rfl
      rw [spent] at sent
      have transmitted := Transmits.cons sent (inductionHypothesis rest (corrects.spend sends))
      exact transmitted

/-- Any other messages of the same padded lengths are sent in the same frames,
and with the same counters, under another pad.  The change of the pad is its own
inverse, so it pairs the pads of every length off.  It leaves what is set aside
as it is, and so the tokens and the start of the conversation, and every key of
the authenticator. -/
theorem transmits_rekey (transmits : conversation.Transmits messages frames)
    (sameLengths : List.Forall₂
      (fun first other => Padding.paddedLength first.length = Padding.paddedLength other.length)
      messages others) :
    (conversation.withPad (conversation.rekey messages others conversation.pad)).Transmits
        others frames ∧
      (∀ snapshot, restore conversation.pad snapshot conversation.settings = pure conversation →
        restore (conversation.rekey messages others conversation.pad) snapshot
            conversation.settings =
          pure (conversation.withPad (conversation.rekey messages others conversation.pad))) ∧
      Function.Involutive (conversation.rekey messages others) ∧
      (∀ length, Set.BijOn (conversation.rekey messages others)
        {pad | pad.length = length} {pad | pad.length = length}) ∧
      ∀ pad,
        (conversation.rekey messages others pad).take conversation.settings.reserved =
            pad.take conversation.settings.reserved ∧
          ∀ entry ∈ frames, ∃ frame, Frame.ofBytes entry.1 = pure frame ∧
            frame.keySpan.authKey
                ((conversation.rekey messages others pad).drop conversation.settings.reserved) =
              frame.keySpan.authKey (pad.drop conversation.settings.reserved) := by
  have involutive := involutive_rekey conversation messages others
  refine ⟨transmits.of_corrects sameLengths (corrects_rekey conversation messages others), ?_,
    involutive, ?_, ?_⟩
  · intro snapshot restored
    exact restore_withPad (length_rekey _ _ _ _) (take_rekey _ _ _ _) restored
  · intro length
    have kept : Set.MapsTo (conversation.rekey messages others)
        {pad | pad.length = length} {pad | pad.length = length} :=
      fun pad same => (length_rekey conversation messages others pad).trans same
    have inverse : Set.LeftInvOn (conversation.rekey messages others)
        (conversation.rekey messages others) {pad | pad.length = length} :=
      fun pad _ => involutive pad
    exact Set.InvOn.bijOn ⟨inverse, inverse⟩ kept kept
  · intro pad
    constructor
    · exact take_rekey conversation messages others pad
    · intro entry mem
      rcases transmits.exists_ofBytes entry mem with ⟨frame, parsed⟩
      have unchanged :=
        transmits.correction_eq_zero_of_mem_authPositions others entry mem frame parsed
      exact ⟨frame, parsed, authKey_rekey unchanged⟩

/-- A responder sends two messages, and could have sent two others. -/
theorem transmits_rekey_two_messages :
    ∃ conversation frames,
      begin (List.replicate 352 0) .responder {} = pure conversation ∧
        conversation.Transmits [[1], []] frames ∧
        (conversation.withPad
          (conversation.rekey [[1], []] [[2, 3], [4]] conversation.pad)).Transmits
          [[2, 3], [4]] frames := by
  rcases exists_begin_smallPad .responder with ⟨conversation, begun⟩
  have ledger : conversation.ledger = Ledger.fresh .responder 192 := ledger_of_begin_smallPad begun
  have sound := sound_of_begin length_smallPad_lt begun
  have firstGranted : conversation.ledger.Grants (cost [1]) := by
    rw [ledger]
    exact ⟨rfl, by decide, by decide⟩
  have firstSends := sound.sends (by decide) firstGranted
  rcases send_eq_ok firstSends with ⟨firstFrame, -, firstSent⟩
  have secondGranted : (conversation.spend [1]).ledger.Grants (cost []) := by
    change (conversation.ledger.advance (cost [1])).Grants (cost [])
    rw [ledger]
    exact ⟨rfl, by decide, by decide⟩
  have secondSends := (sound.spend firstSends).sends (by decide) secondGranted
  rcases send_eq_ok secondSends with ⟨secondFrame, -, secondSent⟩
  have transmits := Transmits.cons firstSent (.cons secondSent .nil)
  have sameLengths : List.Forall₂
      (fun first other : List UInt8 =>
        Padding.paddedLength first.length = Padding.paddedLength other.length)
      [[1], []] [[2, 3], [4]] :=
    .cons rfl (.cons rfl .nil)
  exact ⟨conversation, _, begun, transmits, (transmits_rekey transmits sameLengths).1⟩

end Conversation

end OneTimePad
