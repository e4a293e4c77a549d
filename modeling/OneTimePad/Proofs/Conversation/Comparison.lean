import OneTimePad.Proofs.Conversation.Stored
import OneTimePad.Proofs.Pad.Mnemonic

/-!
# Comparing pads in a conversation

The settings of a conversation say how many words its mnemonic has, and as many
are read out.  What is spoken on the other side is compared with the pad alone.
So the right words are accepted, and no word may be wrong; but any other number
of them is accepted as well, from the first word alone up to all that the pad
spells.
-/

namespace OneTimePad

open Mnemonic (SpokenAs spelling)

namespace Conversation

variable {conversation : Conversation}

/-- What was spoken fits the pad, but there should have been more words, or
fewer. -/
structure Miscounts (conversation : Conversation) (spoken : List String) : Prop where
  some : spoken ≠ []
  count_ne : spoken.length ≠ conversation.settings.mnemonicWords
  fits : List.Forall₂ SpokenAs ((spelling conversation.pad).take spoken.length) spoken

/-- The settings of a live conversation were checked. -/
theorem Reachable.validate_eq_ok (reachable : conversation.Reachable)
    (live : conversation.ledger.burned = false) : conversation.settings.validate = .ok () :=
  (exists_tokens_of_begin (reachable.grounded.begun live)).1

theorem mnemonic_eq_ok (live : conversation.ledger.burned = false)
    (valid : conversation.settings.validate = .ok ()) :
    conversation.mnemonic =
      .ok ((spelling conversation.pad).take conversation.settings.mnemonicWords) := by
  rcases Settings.validate_eq_ok_iff.mp valid with ⟨-, -, positive, fits⟩
  rw [mnemonic, live, Mnemonic.generate_eq_ok positive fits]
  rfl

theorem verifyMnemonic_eq (live : conversation.ledger.burned = false) (spoken : List String) :
    conversation.verifyMnemonic spoken = Mnemonic.verify conversation.pad spoken := by
  rw [verifyMnemonic, live, Bool.not_false, Bool.true_and]

/-- What a live conversation accepts as its mnemonic.  It is any beginning of what
its pad spells, and its own mnemonic is one of them.  Nothing else is accepted
exactly when no words are spoken that are right but for their number. -/
theorem verifyMnemonic_exact_iff (reachable : conversation.Reachable)
    (live : conversation.ledger.burned = false) :
    ∃ own, conversation.mnemonic = .ok own ∧
      own.length = conversation.settings.mnemonicWords ∧
      own = (spelling conversation.pad).take conversation.settings.mnemonicWords ∧
      (∀ count, 0 < count → count ≤ Mnemonic.maximumCount →
        conversation.verifyMnemonic ((spelling conversation.pad).take count) = true) ∧
      ∀ spoken,
        (conversation.verifyMnemonic spoken = true ↔ spoken ≠ [] ∧
          List.Forall₂ SpokenAs ((spelling conversation.pad).take spoken.length) spoken) ∧
        ((conversation.verifyMnemonic spoken = true ↔ List.Forall₂ SpokenAs own spoken) ↔
          ¬ conversation.Miscounts spoken) := by
  have valid := reachable.validate_eq_ok live
  rcases Settings.validate_eq_ok_iff.mp valid with ⟨-, -, positive, fits⟩
  have length := Mnemonic.length_take_spelling conversation.pad fits
  refine ⟨_, mnemonic_eq_ok live valid, length, rfl, ?_, ?_⟩
  · intro count counted bounded
    rw [verifyMnemonic_eq live]
    exact Mnemonic.verify_take counted bounded
  · intro spoken
    rw [verifyMnemonic_eq live, Mnemonic.verify_iff]
    refine ⟨Iff.rfl, ?_⟩
    constructor
    · intro law miscounts
      have own := law.mp ⟨miscounts.some, miscounts.fits⟩
      exact miscounts.count_ne (own.length_eq.symm.trans length)
    · intro counts
      constructor
      · rintro ⟨some, same⟩
        by_cases count : spoken.length = conversation.settings.mnemonicWords
        · rwa [count] at same
        · exact absurd ⟨some, count, same⟩ counts
      · intro own
        have count : spoken.length = conversation.settings.mnemonicWords :=
          own.length_eq.symm.trans length
        rw [← List.length_pos_iff, count]
        exact ⟨positive, own⟩

/-- A conversation with a mnemonic of six words accepts the first one alone. -/
theorem verifyMnemonic_exact_iff_one_word :
    ∃ conversation own, begin smallPad .initiator {} = pure conversation ∧
      conversation.mnemonic = .ok own ∧ own.length = 6 ∧
      conversation.verifyMnemonic (own.take 1) = true ∧
      ¬ List.Forall₂ SpokenAs own (own.take 1) := by
  rcases exists_begin_smallPad .initiator with ⟨conversation, begun⟩
  rcases begin_eq_pure begun with ⟨-, settings, -, ledger⟩
  have reachable : conversation.Reachable := .begun length_smallPad_lt begun
  have live : conversation.ledger.burned = false := by
    rw [ledger]
    rfl
  rcases verifyMnemonic_exact_iff reachable live with ⟨own, told, length, words, beginnings, -⟩
  rw [settings] at length words
  have six : own.length = 6 := length
  have first : own.take 1 = (spelling conversation.pad).take 1 := by
    rw [words, List.take_take]
    rfl
  refine ⟨conversation, own, begun, told, six, ?_, ?_⟩
  · rw [first]
    exact beginnings 1 (by decide) (by decide)
  · intro same
    have lengths := same.length_eq
    rw [List.length_take, six] at lengths
    omega

end Conversation

end OneTimePad
