import OneTimePad.Command.Basic
import OneTimePad.Proofs.Conversation.Steps
import OneTimePad.Proofs.Frame.Grammar
import OneTimePad.Proofs.Text.Base64
import OneTimePad.Proofs.Text.Utf8

/-!
# Inspecting a frame

A frame can be kept in a file as it is, or as base64 text, and an editor may leave white
space around the text.  The summary does not depend on it: of the text, trimming leaves the
symbols, and they stand for the octets that the other file holds.  What is wrong with
malformed octets is the same answer too.

The summary is there to see what a conversation makes of the frame.  So the numbers in it
are those that an arrival is judged by: where the key material of the frame begins, and how
much of it there is.
-/

namespace OneTimePad

open Authenticator (keySize)

/-! ## Stored texts -/

namespace Base64

/-- No character of a text is white space. -/
theorem isBlank_eq_false_of_mem_encodeText {bytes : List UInt8} {char : Char}
    (mem : char ∈ (encodeText bytes).toList) : Text.isBlank char = false := by
  have visible : ∀ byte ∈ encode bytes, Text.isBlank (Char.ofNat byte.toNat) = false :=
    forall_encode (by decide) (by decide) bytes
  rw [encodeText, String.toList_ofList] at mem
  rcases List.mem_map.mp mem with ⟨byte, byteMem, rfl⟩
  exact visible byte byteMem

/-- A text is not changed by trimming, and white space around it goes. -/
theorem trim_encodeText {before after : List Char} (blankBefore : before.all Text.isBlank)
    (blankAfter : after.all Text.isBlank) (bytes : List UInt8) :
    Text.trim (before ++ (encodeText bytes).toList ++ after) = (encodeText bytes).toList := by
  apply Text.trim_append blankBefore blankAfter
  · cases first : (encodeText bytes).toList.head? with
    | none => rfl
    | some char => exact isBlank_eq_false_of_mem_encodeText (List.mem_of_head? first)
  · cases last : (encodeText bytes).toList.getLast? with
    | none => rfl
    | some char => exact isBlank_eq_false_of_mem_encodeText (List.mem_of_getLast? last)

end Base64

namespace Command

/-- The octets are read from their text, whatever white space is around it. -/
theorem decodeBase64_encodeText {before after : String}
    (blankBefore : before.toList.all Text.isBlank) (blankAfter : after.toList.all Text.isBlank)
    (bytes : List UInt8) :
    decodeBase64 (Utf8.ofString (before ++ Base64.encodeText bytes ++ after)) = pure bytes := by
  have symbols : Utf8.encode (Base64.encodeText bytes).toList = Base64.encode bytes :=
    Base64.ofString_encodeText bytes
  rw [decodeBase64, Utf8.ofString, Utf8.decodeLossy_encode, String.toList_append,
    String.toList_append, Base64.trim_encodeText blankBefore blankAfter, symbols,
    Base64.decode_encode]

/-! ## Summaries -/

/-- What is printed of a frame. -/
def summary (offset cipherLength consumed size : Nat) : String :=
  s!"offset     {offset}\nciphertext {cipherLength} bytes\n" ++
    s!"consumes   {consumed} pad bytes\nframe      {size} bytes (10 header)"

/-- A frame is summarized by its numbers. -/
theorem describeFrame_eq (frame : Frame) :
    describeFrame frame =
      .ok (summary frame.offset.toNat frame.ciphertext.length frame.consumed.toNat
        frame.wireLength) := by
  have consumed : Size.add frame.ciphertext.length keySize = .ok frame.consumed.toNat := by
    have below := Word.toNat_lt frame.consumed
    rw [Size.add_eq_ok_iff]
    exact ⟨frame.toNat_consumed.symm, below⟩
  have ending : toString " bytes (" ++ (toString Header.size ++ toString " header)") =
      toString " bytes (10 header)" := by
    decide
  simp only [describeFrame, consumed, Checked.ok_bind, Checked.pure_eq_ok, summary,
    String.append_assoc, ending]

/-- Octets are summarized as the frame that they are written as. -/
theorem runInspect_of_written {frame : Frame} {bytes : List UInt8} (written : frame.Written bytes) :
    runInspect bytes false =
      pure (summary frame.offset.toNat frame.ciphertext.length frame.consumed.toNat
        bytes.length) := by
  have size : frame.wireLength = bytes.length := by
    rw [← Frame.length_toBytes, written.toBytes_eq]
  simp [runInspect, Frame.ofBytes_eq_pure_iff.mpr written, describeFrame_eq, size]

theorem runInspect_of_malformed {error : FrameError} {bytes : List UInt8}
    (malformed : Frame.Malformed bytes error) :
    runInspect bytes false = throw (.frame error) := by
  simp [runInspect, malformed.ofBytes_eq]

end Command

/-! ## Arrivals -/

namespace Conversation

/-- An arrival is judged by the range of a frame: where it begins and how much it consumes.
The answer follows the verdict of the books on this range, and if they take it for new, the
message of the frame is recorded with it. -/
structure Judges (conversation : Conversation) (bytes : List UInt8) (frame : Frame) : Prop where
  refused : ∀ error,
    conversation.ledger.classifyFrame frame.offset frame.consumed = .error error →
      conversation.receive bytes = .ok (.refuse conversation error)
  own : conversation.ledger.classifyFrame frame.offset frame.consumed = .ok .own →
    conversation.receive bytes = .ok ⟨.ok (.skipped .own), conversation⟩
  duplicate : conversation.ledger.classifyFrame frame.offset frame.consumed = .ok .duplicate →
    conversation.receive bytes = .ok ⟨.ok (.skipped .alreadyProcessed), conversation⟩
  fresh : conversation.ledger.classifyFrame frame.offset frame.consumed = .ok .fresh →
    (∃ error, frame.openWith conversation.region = throw error ∧
        conversation.receive bytes = .ok (.refuse conversation (.frame error))) ∨
      ∃ plaintext, frame.openWith conversation.region = pure plaintext ∧
        conversation.receive bytes = .ok (conversation.settle (messageOf frame plaintext))

/-- A live conversation judges octets by the frame that they are written as. -/
theorem judges_of_written {conversation : Conversation} {bytes : List UInt8} {frame : Frame}
    (live : conversation.ledger.burned = false) (written : frame.Written bytes) :
    conversation.Judges bytes frame := by
  have parsed := Frame.ofBytes_eq_pure_iff.mpr written
  have examined := examine_of_frame live parsed
  constructor
  · intro error verdict
    rw [verdict] at examined
    simp [receive, examined]
  · intro verdict
    rw [verdict] at examined
    simp [receive, examined]
  · intro verdict
    rw [verdict] at examined
    simp [receive, examined]
  · intro verdict
    rcases Frame.opens_or_unopenable frame conversation.region with
      ⟨plaintext, opens⟩ | ⟨error, unopenable⟩
    · exact .inr ⟨plaintext, opens.openWith_eq,
        receive_of_opened live parsed verdict opens.openWith_eq⟩
    · exact .inl ⟨error, unopenable.openWith_eq,
        receive_of_unopened live parsed verdict unopenable.openWith_eq⟩

end Conversation

/-! ## Both together -/

namespace Command

/-- Inspection goes by the octets of a frame, whichever way they are stored.  Their base64
text with white space around it gives the answer that they give themselves.  If they are
malformed, the answer is what is wrong with them, and a conversation refuses them for the
same reason; otherwise the summary shows the range that every live conversation judges
their arrival by. -/
theorem inspect_goes_by_octets {before after : String}
    (blankBefore : before.toList.all Text.isBlank) (blankAfter : after.toList.all Text.isBlank)
    (bytes : List UInt8) (textPath path : String) :
    run (.inspect true) textPath
        (.ok (Utf8.ofString (before ++ Base64.encodeText bytes ++ after))) =
      run (.inspect false) path (.ok bytes) ∧
    ((∃ error, Frame.Malformed bytes error ∧
        run (.inspect false) path (.ok bytes) = throw (.frame error) ∧
        ∀ conversation : Conversation, conversation.ledger.burned = false →
          conversation.receive bytes = .ok (.refuse conversation (.frame error))) ∨
      ∃ frame : Frame, frame.Written bytes ∧
        run (.inspect false) path (.ok bytes) =
          pure (summary frame.offset.toNat frame.ciphertext.length frame.consumed.toNat
            bytes.length) ∧
        ∀ conversation : Conversation, conversation.ledger.burned = false →
          conversation.Judges bytes frame) := by
  constructor
  · change runInspect _ true = runInspect bytes false
    rw [runInspect, if_pos rfl, decodeBase64_encodeText blankBefore blankAfter]
    rfl
  · rcases Frame.written_or_malformed bytes with ⟨frame, written⟩ | ⟨error, malformed⟩
    · exact .inr ⟨frame, written, runInspect_of_written written,
        fun conversation live => Conversation.judges_of_written live written⟩
    · exact .inl ⟨error, malformed, runInspect_of_malformed malformed,
        fun conversation live => Conversation.receive_of_unreadable live malformed.ofBytes_eq⟩

theorem inspect_goes_by_octets_lines :
    let frame : Frame := ⟨7, List.replicate 32 0, ⟨1, 2⟩, by decide⟩
    " \n".toList.all Text.isBlank ∧ "\r\n".toList.all Text.isBlank ∧
      run (.inspect true) "frame.b64"
          (.ok (Utf8.ofString (" \n" ++ Base64.encodeText frame.toBytes ++ "\r\n"))) =
        pure ("offset     7\nciphertext 32 bytes\nconsumes   96 pad bytes\n" ++
          "frame      74 bytes (10 header)") := by
  intro frame
  have blankBefore : " \n".toList.all Text.isBlank := by decide
  have blankAfter : "\r\n".toList.all Text.isBlank := by decide
  have parsed : Frame.ofBytes frame.toBytes = pure frame := Frame.ofBytes_toBytes (by decide)
  rcases inspect_goes_by_octets blankBefore blankAfter frame.toBytes "frame.b64" "frame.bin" with
    ⟨same, ⟨error, malformed, -⟩ | ⟨other, written, shown, -⟩⟩
  · exact absurd (malformed.ofBytes_eq.symm.trans parsed) Attempt.throw_ne_pure
  · obtain rfl : other = frame :=
      Attempt.pure_inj.mp ((Frame.ofBytes_eq_pure_iff.mpr written).symm.trans parsed)
    refine ⟨blankBefore, blankAfter, same.trans (shown.trans ?_)⟩
    have text : summary 7 32 96 74 =
        "offset     7\nciphertext 32 bytes\nconsumes   96 pad bytes\n" ++
          "frame      74 bytes (10 header)" := by
      decide
    rw [← text]
    rfl

end Command

end OneTimePad
