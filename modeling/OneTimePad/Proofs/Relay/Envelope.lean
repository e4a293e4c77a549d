import OneTimePad.Proofs.Conversation.Identity
import OneTimePad.Proofs.Text.Base64

/-!
# Relayed frames

A relay adds nothing to a frame and takes nothing from it.  An envelope is read
back from its stored octets, with or without a sequence number; a frame is read
back from its envelope; and a conversation that is handed an envelope of its own
does what it does with the octets of the frame.

On the other hand, the octets that an envelope carries say what its text is, so
a relay cannot hand out the same frame under two texts.
-/

namespace OneTimePad

open Cbor

namespace Envelope

/-! ## The record -/

/-- Heads announce the length of each text. -/
structure Fits (envelope : Envelope) : Prop where
  conversation : (Utf8.ofString envelope.conversation).length < Bytes.capacity 8
  payload : (Utf8.ofString envelope.payload).length < Bytes.capacity 8

/-- How many entries there are after the two texts. -/
def later (sequence : Option UInt64) : Nat :=
  if sequence.isSome then 2 else 1

/-- The time is read last, after the sequence number if there is one. -/
theorem reads_later (id text : String) (sequence : Option UInt64) (receivedAt : UInt64)
    (turns : Nat) :
    Reads
      (readEntries Draft.entry (turns + later sequence + 1) (some (later sequence))
        { conversation := some id, payload := some text })
      (sequenceEntry sequence ++ (writeText receivedAtField ++ (writeUnsigned receivedAt ++ [])))
      { conversation := some id, payload := some text, sequence := sequence.map some
        receivedAt := some receivedAt } := by
  have time : Draft.entry (Utf8.ofString receivedAtField) = _ :=
    (if_neg (by decide)).trans <| (if_neg (by decide)).trans <|
      (if_neg (by decide)).trans (if_pos rfl)
  cases sequence with
  | none =>
      apply (readsEntry_of_missing time (reads_writeUnsigned receivedAt) rfl).cons (by decide)
      exact reads_readEntries_nil _ _
  | some number =>
      have numbered : Reads (readOptional readUnsigned) (writeUnsigned number) (some number) :=
        (reads_writeUnsigned number).readOptional (reads_unsignedHead number) nofun
      rw [sequenceEntry, List.append_assoc]
      apply (readsEntry_of_missing
        ((if_neg (by decide)).trans <| (if_neg (by decide)).trans (if_pos rfl))
        numbered rfl).cons (by decide)
      apply (readsEntry_of_missing time (reads_writeUnsigned receivedAt) rfl).cons (by decide)
      exact reads_readEntries_nil _ _

/-- The fields are read in the order in which they are stored. -/
theorem reads_toCbor {envelope : Envelope} (fits : envelope.Fits) :
    Reads (readRecord Draft.entry {} >>= Draft.finish) envelope.toCbor envelope := by
  rcases envelope with ⟨id, text, sequence, receivedAt⟩
  have record : Reads (readRecord Draft.entry {}) (toCbor ⟨id, text, sequence, receivedAt⟩)
      { conversation := some id, payload := some text, sequence := sequence.map some
        receivedAt := some receivedAt } := by
    have count : (if sequence.isSome then 4 else 3) = later sequence + 1 + 1 := by
      cases sequence <;> rfl
    have few : later sequence ≤ 2 := by
      cases sequence <;> simp [later]
    simp only [toCbor, List.append_assoc, count]
    rw [← List.append_nil (writeUnsigned _)]
    apply reads_readRecord
    · exact Nat.lt_of_le_of_lt (Nat.add_le_add_right few 2) (by decide)
    · rw [List.length_append]
      exact Nat.le_add_right_of_le
        (Nat.le_trans (Nat.add_le_add_right few 2) (by decide))
    · intro turns
      -- A field is found by its name, which none of the fields before it has.
      apply (readsEntry_of_missing (if_pos rfl) (reads_writeText fits.conversation) rfl).cons
        (by decide)
      apply (readsEntry_of_missing ((if_neg (by decide)).trans (if_pos rfl))
        (reads_writeText fits.payload) rfl).cons (by decide)
      exact reads_later id text sequence receivedAt turns
  apply record.map
  cases sequence <;> exact .pure _

/-- What follows a stored envelope does not change what is read. -/
theorem ofCbor_toCbor {envelope : Envelope} (fits : envelope.Fits) (rest : List UInt8) :
    ofCbor (envelope.toCbor ++ rest) = .ok envelope := by
  rw [ofCbor, (reads_toCbor fits).run rest]

/-! ## The frame -/

/-- The octets that an envelope carries say what its text is, and the text says
what the octets are. -/
theorem frameBytes_eq_ok_iff {envelope : Envelope} {bytes : List UInt8} :
    envelope.frameBytes = .ok bytes ↔ envelope.payload = Base64.encodeText bytes := by
  rw [← Base64.decode_ofString_eq_ok_iff, frameBytes]
  cases Base64.decode (Utf8.ofString envelope.payload) with
  | error reason => simp
  | ok found => simp

variable {frame : Frame} {envelope : Envelope}

/-- A frame is read back from any envelope that has its text. -/
theorem frame_eq_pure (long : Padding.minimumLength ≤ frame.ciphertext.length)
    (wrapped : envelope.payload = Base64.encodeText frame.toBytes) :
    envelope.frame = pure frame := by
  rw [Envelope.frame, frameBytes_eq_ok_iff.mpr wrapped, Attempt.answer_ok, pure_bind]
  exact Frame.ofBytes_toBytes long

theorem length_ofString_payload_lt (wrapped : envelope.payload = Base64.encodeText frame.toBytes) :
    (Utf8.ofString envelope.payload).length < Bytes.capacity 8 := by
  have fits := frame.fits
  rw [wrapped, Base64.ofString_encodeText, Base64.length_encode, Frame.length_toBytes,
    Frame.wireLength]
  simp only [Bytes.capacity, Frame.overhead, Header.size, Authenticator.tagSize] at fits ⊢
  omega

end Envelope

namespace Conversation

variable {conversation : Conversation}

/-- A frame as a relay hands it out to a conversation: with a sequence number, if
the relay counts. -/
def relayed (conversation : Conversation) (frame : Frame) (receivedAt : UInt64)
    (sequence : Option UInt64) : Envelope :=
  { Envelope.ofFrame conversation.id frame receivedAt with sequence }

/-- An envelope that is addressed to a conversation is received as the octets
that it carries. -/
theorem receiveEnvelope_eq {envelope : Envelope} {bytes : List UInt8}
    (addressed : envelope.conversation = conversation.id)
    (carried : envelope.frameBytes = .ok bytes) :
    conversation.receiveEnvelope envelope = conversation.receive bytes := by
  rw [receiveEnvelope, if_neg (not_not_intro addressed), carried]

theorem Reachable.length_ofString_id_lt (reachable : conversation.Reachable) :
    (Utf8.ofString conversation.id).length < Bytes.capacity 8 := by
  have size := reachable.length_id
  have octets := Utf8.length_ofString_le conversation.id
  simp only [Bytes.capacity]
  omega

/-- A relay is transparent.  Every frame of a size that occurs can be made; its
envelope, with any sequence number or none, is read back from its stored octets,
whatever follows them; the frame is read back from its envelope; and the
conversation that the envelope is addressed to does with it what it does with the
octets of the frame.

And an envelope carries octets only if its text is what they are written as, so
different texts carry different octets. -/
theorem relay_is_transparent :
    (∀ conversation : Conversation, conversation.Reachable →
      ∀ (offset : UInt64) (ciphertext : List UInt8) (tag : Authenticator.Tag),
        Padding.minimumLength ≤ ciphertext.length →
        ciphertext.length ≤ Frame.maximumCiphertext →
        ∃ frame, Frame.make offset ciphertext tag = .ok frame ∧
          ∀ (receivedAt : UInt64) (sequence : Option UInt64),
            (∀ trailing,
                Envelope.ofCbor ((conversation.relayed frame receivedAt sequence).toCbor ++
                  trailing) = .ok (conversation.relayed frame receivedAt sequence)) ∧
              (conversation.relayed frame receivedAt sequence).frame = pure frame ∧
              conversation.receiveEnvelope (conversation.relayed frame receivedAt sequence) =
                conversation.receive frame.toBytes) ∧
      (∀ (envelope : Envelope) (bytes : List UInt8),
        envelope.frameBytes = .ok bytes ↔ envelope.payload = Base64.encodeText bytes) ∧
      ∀ (left right : Envelope) (bytes : List UInt8),
        left.frameBytes = .ok bytes → right.frameBytes = .ok bytes →
          left.payload = right.payload := by
  refine ⟨?_, fun _ _ => Envelope.frameBytes_eq_ok_iff, ?_⟩
  · intro conversation reachable offset ciphertext tag long short
    have fits : ciphertext.length < Bytes.capacity 2 := Nat.lt_succ_of_le short
    refine ⟨⟨offset, ciphertext, tag, fits⟩, dif_pos fits, ?_⟩
    intro receivedAt sequence
    refine ⟨Envelope.ofCbor_toCbor ⟨reachable.length_ofString_id_lt, ?_⟩, ?_, ?_⟩
    · exact Envelope.length_ofString_payload_lt rfl
    · exact Envelope.frame_eq_pure long rfl
    · exact receiveEnvelope_eq rfl (Envelope.frameBytes_eq_ok_iff.mpr rfl)
  · intro left right bytes leftCarries rightCarries
    rw [Envelope.frameBytes_eq_ok_iff.mp leftCarries, Envelope.frameBytes_eq_ok_iff.mp rightCarries]

/-- The third envelope of a relay, with a small frame for a responder that has
just begun; and a single octet, which no text carries but its own, not even one
that differs in spare bits only. -/
theorem relay_is_transparent_smallPad :
    (∃ start, begin smallPad .responder {} = pure start ∧
      ∃ frame, Frame.make 7 (List.replicate 32 0) ⟨1, 2⟩ = .ok frame ∧
        Envelope.ofCbor ((start.relayed frame 1700000000000 (some 3)).toCbor ++ [0xff]) =
          .ok (start.relayed frame 1700000000000 (some 3)) ∧
        start.receiveEnvelope (start.relayed frame 1700000000000 (some 3)) =
          start.receive frame.toBytes) ∧
      Envelope.frameBytes ⟨"a", "Zg==", none, 0⟩ = .ok [102] ∧
      Envelope.frameBytes ⟨"a", "Zh==", none, 0⟩ ≠ .ok [102] := by
  rcases relay_is_transparent with ⟨relays, carries, sameText⟩
  have written : "Zg==" = Base64.encodeText [102] := by decide
  have first : Envelope.frameBytes ⟨"a", "Zg==", none, 0⟩ = .ok [102] :=
    (carries _ _).mpr written
  rcases exists_begin_smallPad .responder with ⟨start, begun⟩
  rcases relays start (.begun length_smallPad_lt begun) 7 (List.replicate 32 0) ⟨1, 2⟩ (by decide)
    (by decide) with ⟨frame, made, transparent⟩
  rcases transparent 1700000000000 (some 3) with ⟨stored, -, received⟩
  refine ⟨⟨start, begun, frame, made, stored [0xff], received⟩, first, ?_⟩
  intro second
  have same : "Zg==" = "Zh==" := sameText _ _ _ first second
  exact absurd same (by decide)

end Conversation

end OneTimePad
