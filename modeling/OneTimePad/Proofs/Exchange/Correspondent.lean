import Mathlib.Data.List.Nodup
import OneTimePad.Proofs.Exchange.Basic

/-!
# Correspondents

What holds of one party of an exchange, as a writer and as a reader of letters.
A writer has sealed its letters one after the other, from its end of the region
on.  A reader has seen the letters of the other party up to the last one that
was delivered, and what it has skipped since then comes earlier.

Both facts survive whatever a party does: sending a letter, having one delivered
to it, and skipping one.
-/

namespace OneTimePad

/-- A party has sealed its letters one after the other, from its end of the
region on. -/
structure Correspondent.Writes (total : Nat) (region : List UInt8) (role : Role)
    (party : Correspondent) : Prop where
  sound : party.conversation.Sound
  live : party.conversation.ledger.burned = false
  role_eq : party.conversation.ledger.role = role
  total_eq : party.conversation.ledger.total.toNat = total
  region_eq : party.conversation.region = region
  sent_eq : party.conversation.ledger.sent.toNat = Letter.consumption party.letters
  sealed : ∀ number letter, party.letters[number]? = some letter →
    ∃ frame : Frame, letter.bytes = frame.toBytes ∧
      frame.Continues role total (Letter.consumption (party.letters.take number)) region
        letter.message

/-- A party has seen the letters of the other one up to the last delivered
one. -/
structure Correspondent.Reads (party : Correspondent) (letters : List Letter) : Prop where
  known : covered party.delivered ≤ letters.length
  seen_eq : party.conversation.ledger.seen.toNat =
    Letter.consumption (letters.take (covered party.delivered))
  once : party.delivered.Nodup
  received : ∀ number ∈ party.delivered, number ∈ party.arrived
  prompt : InOrder party.arrived → ∀ number ∈ party.arrived, number ∈ party.delivered

namespace Correspondent

variable {total : Nat} {region : List UInt8} {role : Role} {party : Correspondent}
  {letters : List Letter} {letter : Letter} {number : Nat} {frame : Frame}

/-- A party that has sent a message in a frame. -/
def post (party : Correspondent) (message : List UInt8) (frame : Frame) : Correspondent :=
  { party with
    conversation := party.conversation.spend message
    letters := party.letters ++ [⟨message, frame.toBytes⟩] }

/-- A party to which a letter was delivered in a frame. -/
def accept (party : Correspondent) (number : Nat) (frame : Frame) : Correspondent :=
  { party with
    conversation := party.conversation.heed frame
    arrived := number :: party.arrived
    delivered := number :: party.delivered }

/-- A party that has skipped a letter. -/
def skip (party : Correspondent) (number : Nat) : Correspondent :=
  { party with arrived := number :: party.arrived }

@[simp]
theorem letters_post (party : Correspondent) (message : List UInt8) (frame : Frame) :
    (party.post message frame).letters = party.letters ++ [⟨message, frame.toBytes⟩] :=
  rfl

@[simp]
theorem arrived_accept (party : Correspondent) (number : Nat) (frame : Frame) :
    (party.accept number frame).arrived = number :: party.arrived :=
  rfl

@[simp]
theorem delivered_accept (party : Correspondent) (number : Nat) (frame : Frame) :
    (party.accept number frame).delivered = number :: party.delivered :=
  rfl

@[simp]
theorem arrived_skip (party : Correspondent) (number : Nat) :
    (party.skip number).arrived = number :: party.arrived :=
  rfl

/-! ## Sending -/

/-- The next letter continues the earlier ones. -/
theorem Writes.post {message : List UInt8} (writes : Writes total region role party)
    (sends : party.conversation.Sends message)
    (seals : frame.Seals party.conversation.region (party.conversation.nextOffset message)
      message) : Writes total region role (party.post message frame) where
  sound := writes.sound.spend sends
  live := writes.live
  role_eq := writes.role_eq
  total_eq := writes.total_eq
  region_eq := writes.region_eq
  sent_eq := by
    have sent := sends.granted.toNat_sent sends.balanced
    rw [writes.sent_eq] at sent
    rw [letters_post, Letter.consumption_concat]
    exact sent
  sealed := by
    intro number letter present
    rw [letters_post] at present ⊢
    by_cases earlier : number < party.letters.length
    · rw [List.getElem?_append_left earlier] at present
      rw [List.take_append_of_le_length (Nat.le_of_lt earlier)]
      exact writes.sealed number letter present
    · have continues := sends.continues seals
      rw [writes.role_eq, writes.total_eq, writes.region_eq, writes.sent_eq] at continues
      rw [List.getElem?_append_right (Nat.le_of_not_lt earlier),
        List.getElem?_singleton] at present
      split at present
      · rename_i last
        obtain rfl : number = party.letters.length := by omega
        cases present
        rw [List.take_left]
        exact ⟨frame, rfl, continues⟩
      · cases present

theorem Reads.post {message : List UInt8} (reads : Reads party letters) :
    Reads (party.post message frame) letters where
  known := reads.known
  seen_eq := reads.seen_eq
  once := reads.once
  received := reads.received
  prompt := reads.prompt

/-- More letters of the other party change nothing about those that were
seen. -/
theorem Reads.concat (reads : Reads party letters) (letter : Letter) :
    Reads party (letters ++ [letter]) where
  known := reads.known.trans (by simp)
  seen_eq := by
    rw [List.take_append_of_le_length reads.known]
    exact reads.seen_eq
  once := reads.once
  received := reads.received
  prompt := reads.prompt

/-! ## Arriving -/

theorem Writes.accept (writes : Writes total region role party) {plaintext : List UInt8}
    (delivers : party.conversation.Delivers frame plaintext) (number : Nat) :
    Writes total region role (party.accept number frame) where
  sound := writes.sound.heed delivers
  live := writes.live
  role_eq := writes.role_eq
  total_eq := writes.total_eq
  region_eq := writes.region_eq
  sent_eq := writes.sent_eq
  sealed := writes.sealed

theorem Writes.skip (writes : Writes total region role party) (number : Nat) :
    Writes total region role (party.skip number) where
  sound := writes.sound
  live := writes.live
  role_eq := writes.role_eq
  total_eq := writes.total_eq
  region_eq := writes.region_eq
  sent_eq := writes.sent_eq
  sealed := writes.sealed

theorem Reads.accept (reads : Reads party letters) (present : letters[number]? = some letter)
    (latest : covered party.delivered ≤ number)
    (seen : (party.conversation.heed frame).ledger.seen.toNat =
      Letter.consumption (letters.take (number + 1))) :
    Reads (party.accept number frame) letters where
  known := by
    rcases List.getElem?_eq_some_iff.mp present with ⟨inside, -⟩
    rw [delivered_accept, covered_cons]
    exact Nat.max_le.mpr ⟨inside, reads.known⟩
  seen_eq := by
    rw [delivered_accept, covered_cons, Nat.max_eq_left (by omega)]
    exact seen
  once := by
    rw [delivered_accept, List.nodup_cons]
    constructor
    · intro repeated
      exact Nat.lt_irrefl _ (covered_le_iff.mp latest number repeated)
    · exact reads.once
  received := by
    rw [delivered_accept, arrived_accept]
    intro other mem
    rcases List.mem_cons.mp mem with rfl | mem
    · exact List.mem_cons_self
    · exact List.mem_cons_of_mem _ (reads.received other mem)
  prompt := by
    rw [delivered_accept, arrived_accept]
    rintro ⟨-, inOrder⟩ other mem
    rcases List.mem_cons.mp mem with rfl | mem
    · exact List.mem_cons_self
    · exact List.mem_cons_of_mem _ (reads.prompt inOrder other mem)

/-- A letter that is skipped was delivered before, as long as first copies
arrive in order. -/
theorem Reads.skip (reads : Reads party letters) (passed : number < covered party.delivered) :
    Reads (party.skip number) letters where
  known := reads.known
  seen_eq := reads.seen_eq
  once := reads.once
  received := fun other mem => List.mem_cons_of_mem _ (reads.received other mem)
  prompt := by
    rw [arrived_skip]
    rintro ⟨repeated | latest, inOrder⟩
    · intro other mem
      rcases List.mem_cons.mp mem with rfl | mem
      · exact reads.prompt inOrder other repeated
      · exact reads.prompt inOrder other mem
    · have beyond : covered party.delivered ≤ number :=
        covered_le_iff.mpr fun other mem => latest other (reads.received other mem)
      omega

end Correspondent

end OneTimePad
