import OneTimePad.Proofs.Conversation.Run
import OneTimePad.Proofs.Pad.Identity

/-!
# What is set aside, and what is not

The octets at the front of a pad are for the tokens only, and those behind them for frames
only.  Seen from outside: a run of messages and frames is the same under two pads that have
the octets behind in common, although the conversations have different tokens; and the
tokens of two pads with the same octets set aside are the same, although their frames
differ.

Of a conversation that sends and receives, nothing is used but the books and the region.
So the run is that of a bare conversation, which has nothing else.
-/

namespace OneTimePad

/-- A move that sends a message or receives a frame. -/
inductive Move.Transfers : Move → Prop where
  | send (message : List UInt8) : Transfers (.send message)
  | receive (bytes : List UInt8) : Transfers (.receive bytes)

namespace Conversation

variable {conversation : Conversation}

/-- The same conversation with other books. -/
def withLedger (conversation : Conversation) (ledger : Ledger) : Conversation :=
  { conversation with ledger }

/-- A conversation that has books and a region, and nothing else. -/
def bare (ledger : Ledger) (region : List UInt8) : Conversation :=
  { pad := region, tokens := ⟨"", "", ""⟩, ledger, settings := { reserved := 0 } }

/-- Carry what came of a conversation over to another one: the books are taken over. -/
def carry {α : Type} (conversation : Conversation) (result : α × Conversation) :
    α × Conversation :=
  (result.1, conversation.withLedger result.2.ledger)

@[simp]
theorem region_bare (ledger : Ledger) (region : List UInt8) : (bare ledger region).region = region :=
  rfl

@[simp]
theorem ledger_bare (ledger : Ledger) (region : List UInt8) : (bare ledger region).ledger = ledger :=
  rfl

/-- Sending uses the books and the region. -/
theorem play_send_eq_carry (conversation : Conversation) (message : List UInt8) :
    conversation.play (.send message) =
      conversation.carry <$>
        (bare conversation.ledger conversation.region).play (.send message) := by
  simp only [play, send, ledger_bare]
  cases Padding.paddedLength message.length with
  | error fault => rfl
  | ok cipherLength =>
      by_cases long : Frame.maximumCiphertext < cipherLength
      · simp only [Checked.ok_bind, if_pos long]
        rfl
      · simp only [Checked.ok_bind, if_neg long]
        cases conversation.ledger.reserve cipherLength with
        | error fault => rfl
        | ok reserved =>
            rcases reserved with ⟨answer, ledger⟩
            cases answer with
            | error error => rfl
            | ok reservation =>
                simp only [Checked.ok_bind, region, bare, List.drop_zero]
                cases (Frame.sealAt _ reservation.offset message).run with
                | error fault => rfl
                | ok sealed => cases sealed <;> rfl

theorem examine_bare (conversation : Conversation) (bytes : List UInt8) :
    (bare conversation.ledger conversation.region).examine bytes = conversation.examine bytes :=
  rfl

theorem play_receive_eq_carry (conversation : Conversation) (bytes : List UInt8) :
    conversation.play (.receive bytes) =
      conversation.carry <$>
        (bare conversation.ledger conversation.region).play (.receive bytes) := by
  simp only [play, receive, examine_bare]
  cases (conversation.examine bytes).run with
  | error fault => rfl
  | ok answer =>
      rcases answer with error | ⟨message | reason⟩
      · rfl
      · simp only [settle, ledger_bare, Checked.ok_bind, Checked.pure_eq_ok]
        cases (conversation.ledger.record message.offset message.consumed).answer with
        | error error => rfl
        | ok progress => cases progress <;> rfl
      · rfl

theorem play_eq_carry (conversation : Conversation) {move : Move} (transfers : move.Transfers) :
    conversation.play move =
      conversation.carry <$> (bare conversation.ledger conversation.region).play move := by
  cases transfers with
  | send message => exact conversation.play_send_eq_carry message
  | receive bytes => exact conversation.play_receive_eq_carry bytes

/-- What is bare stays bare. -/
theorem eq_bare_of_play {ledger : Ledger} {region : List UInt8} {move : Move} {outcome : Outcome}
    {after : Conversation} (transfers : move.Transfers)
    (played : (bare ledger region).play move = .ok (outcome, after)) :
    after = bare after.ledger region := by
  have carried := (bare ledger region).play_eq_carry transfers
  rw [region_bare, ledger_bare, played] at carried
  exact congrArg Prod.snd (Except.ok.inj carried)

/-! ## Runs -/

theorem run_cons_of_play {move : Move} {outcome : Outcome} {middle : Conversation}
    (played : conversation.play move = .ok (outcome, middle)) (moves : List Move) :
    conversation.run (move :: moves) =
      (fun result => (outcome :: result.1, result.2)) <$> middle.run moves := by
  rw [run, played, Checked.ok_bind]
  rfl

theorem run_cons_of_fault {move : Move} {fault : Fault}
    (faulty : conversation.play move = .error fault) (moves : List Move) :
    conversation.run (move :: moves) = .error fault := by
  rw [run, faulty, Checked.error_bind]

/-- A run of messages and frames is that of a bare conversation. -/
theorem run_eq_carry (conversation : Conversation) {moves : List Move}
    (transfers : ∀ move ∈ moves, move.Transfers) :
    conversation.run moves =
      conversation.carry <$> (bare conversation.ledger conversation.region).run moves := by
  induction moves generalizing conversation with
  | nil => rfl
  | cons move moves inductionHypothesis =>
      rcases List.forall_mem_cons.mp transfers with ⟨first, others⟩
      have step := conversation.play_eq_carry first
      cases played : (bare conversation.ledger conversation.region).play move with
      | error fault =>
          rw [played] at step
          rw [run_cons_of_fault step, run_cons_of_fault played]
          rfl
      | ok result =>
          rcases result with ⟨outcome, after⟩
          rw [played] at step
          have rest := inductionHypothesis (conversation.withLedger after.ledger) others
          change _ = _ <$> (bare after.ledger conversation.region).run moves at rest
          rw [← eq_bare_of_play first played] at rest
          rw [run_cons_of_play step, run_cons_of_play played, rest]
          cases after.run moves <;> rfl

/-- What is seen of an opening and of the run after it: every outcome, and the counters in the
end. -/
def transcript (opening : Attempt LedgerError Conversation) (moves : List Move) :
    Attempt LedgerError (List Outcome × Snapshot) := do
  let (outcomes, final) ← (← opening).run moves
  return (outcomes, final.snapshot)

/-- Openings that are refused alike, or give conversations with the same books and the same
region. -/
inductive OpensAlike : (left right : Attempt LedgerError Conversation) → Prop where
  | refused (error : LedgerError) : OpensAlike (throw error) (throw error)
  | opened {left right : Conversation} (ledger_eq : left.ledger = right.ledger)
      (region_eq : left.region = right.region) : OpensAlike (pure left) (pure right)

theorem OpensAlike.transcript_eq {left right : Attempt LedgerError Conversation}
    (alike : OpensAlike left right) {moves : List Move}
    (transfers : ∀ move ∈ moves, move.Transfers) : transcript left moves = transcript right moves := by
  cases alike with
  | refused error => rfl
  | @opened left right ledger_eq region_eq =>
      rw [transcript, transcript, pure_bind, pure_bind, left.run_eq_carry transfers,
        right.run_eq_carry transfers, ledger_eq, region_eq]
      cases (bare right.ledger right.region).run moves <;> rfl

section Opening

variable {left right : List UInt8} {settings : Settings} (length_eq : left.length = right.length)
  (behind : left.drop settings.reserved = right.drop settings.reserved)

include length_eq behind

theorem opensAlike_begin (role : Role) :
    OpensAlike (begin left role settings) (begin right role settings) := by
  cases valid : settings.validate with
  | error error =>
      simp only [begin, valid]
      exact .refused error
  | ok =>
      by_cases short : right.length < settings.reserved
      · simp only [begin, valid, length_eq, if_pos short]
        exact .refused _
      · have inside := Nat.le_of_not_lt short
        rcases exists_begin valid (length_eq ▸ inside) role with ⟨leftOpened, leftBegun⟩
        rcases exists_begin valid inside role with ⟨rightOpened, rightBegun⟩
        rcases begin_eq_pure leftBegun with ⟨leftPad, leftSettings, -, leftLedger⟩
        rcases begin_eq_pure rightBegun with ⟨rightPad, rightSettings, -, rightLedger⟩
        rw [leftBegun, rightBegun]
        apply OpensAlike.opened
        · rw [leftLedger, rightLedger, length_eq]
        · rw [region, region, leftPad, rightPad, leftSettings, rightSettings, behind]

theorem opensAlike_restore (snapshot : Snapshot) :
    OpensAlike (restore left snapshot settings) (restore right snapshot settings) := by
  cases live : snapshot.burned with
  | true =>
      simp only [restore, live]
      exact .refused _
  | false =>
      have begun := opensAlike_begin length_eq behind snapshot.role
      generalize leftBegun : begin left snapshot.role settings = leftOpening at begun
      generalize rightBegun : begin right snapshot.role settings = rightOpening at begun
      cases begun with
      | refused error =>
          simp only [restore, live, leftBegun, rightBegun]
          exact .refused error
      | @opened leftOpened rightOpened ledger_eq region_eq =>
          simp only [restore, live, leftBegun, rightBegun, ledger_eq, pure_bind, Bool.false_eq_true,
            if_false]
          by_cases differs : snapshot.total ≠ rightOpened.ledger.total
          · simp only [if_pos differs]
            exact .refused _
          · simp only [if_neg differs]
            cases Ledger.restore snapshot settings with
            | error error => exact .refused error
            | ok ledger => exact .opened rfl region_eq

end Opening

/-- The tokens and the frames of a pad have nothing in common.  Sending and receiving, after
any opening, is the same under two pads of one length that agree behind what is set aside.
All tokens are the same under two pads of one length that agree in the first 160 octets.
And whenever two of the tokens of two pads are equal, they are the same token of pads that
agree there, or the inputs of the two digests are a collision. -/
theorem tokens_apart_from_frames :
    (∀ (settings : Settings) (left right : List UInt8), left.length = right.length →
      left.drop settings.reserved = right.drop settings.reserved →
      ∀ moves : List Move, (∀ move ∈ moves, move.Transfers) →
        (∀ role, transcript (begin left role settings) moves =
          transcript (begin right role settings) moves) ∧
        ∀ snapshot, transcript (restore left snapshot settings) moves =
          transcript (restore right snapshot settings) moves) ∧
      (∀ left right : List UInt8, left.length = right.length → left.take 160 = right.take 160 →
        Identity.deriveAll left = Identity.deriveAll right ∧
          (160 ≤ left.length → ∃ tokens, Identity.deriveAll left = .ok tokens)) ∧
      (∀ pad tokens, Identity.deriveAll pad = .ok tokens ↔
        ∀ token, Identity.derive token pad = .ok (tokens.get token)) ∧
      ∀ (left right : List UInt8) (token other : Identity.Token) (text : String),
        Identity.derive token left = .ok text → Identity.derive other right = .ok text →
          (token = other ∧ left.take 160 = right.take 160) ∨
            Sha256.Collides (token.label ++ left.take 160) (other.label ++ right.take 160) := by
  refine ⟨?_, ?_, fun pad tokens => Identity.deriveAll_eq_ok_iff, ?_⟩
  · intro settings left right length_eq behind moves transfers
    exact ⟨fun role => (opensAlike_begin length_eq behind role).transcript_eq transfers,
      fun snapshot => (opensAlike_restore length_eq behind snapshot).transcript_eq transfers⟩
  · intro left right length_eq front
    exact ⟨deriveAll_congr length_eq front, exists_deriveAll⟩
  · intro left right token other text leftDerived rightDerived
    exact Identity.same_or_collides leftDerived rightDerived

/-- A small pad of two octets: one for what is set aside, and one for what is behind. -/
def twofoldPad (front behind : UInt8) : List UInt8 :=
  List.replicate 160 front ++ List.replicate 192 behind

theorem length_twofoldPad (front behind : UInt8) : (twofoldPad front behind).length = 352 := by
  rw [twofoldPad, List.length_append, List.length_replicate, List.length_replicate]

theorem take_twofoldPad (front behind : UInt8) :
    (twofoldPad front behind).take 160 = List.replicate 160 front :=
  List.take_left' List.length_replicate

theorem drop_twofoldPad (front behind : UInt8) :
    (twofoldPad front behind).drop 160 = List.replicate 192 behind :=
  List.drop_left' List.length_replicate

/-- With another octet set aside, a conversation sends and receives the same.  With another octet
behind, it has the same tokens. -/
theorem tokens_apart_from_frames_twofoldPad :
    (∃ seen, transcript (begin (twofoldPad 0 0) .responder {}) [.send [7], .receive [1, 2]] =
        pure seen ∧
      transcript (begin (twofoldPad 1 0) .responder {}) [.send [7], .receive [1, 2]] =
        pure seen) ∧
      ∃ tokens, Identity.deriveAll (twofoldPad 0 0) = .ok tokens ∧
        Identity.deriveAll (twofoldPad 0 1) = .ok tokens ∧
        ((Identity.Token.burn = .burn ∧ (twofoldPad 0 0).take 160 = (twofoldPad 0 1).take 160) ∨
          Sha256.Collides (Identity.Token.label .burn ++ (twofoldPad 0 0).take 160)
            (Identity.Token.label .burn ++ (twofoldPad 0 1).take 160)) := by
  rcases tokens_apart_from_frames with ⟨frames, shares, each, apart⟩
  have lengths : ∀ front behind other another,
      (twofoldPad front behind).length = (twofoldPad other another).length := by
    intro front behind other another
    rw [length_twofoldPad, length_twofoldPad]
  constructor
  · have fits : (twofoldPad 0 0).length < wordLimit := by
      rw [length_twofoldPad]
      decide
    have inside : ({} : Settings).reserved ≤ (twofoldPad 0 0).length := by
      rw [length_twofoldPad]
      decide
    have behind : (twofoldPad 0 0).drop ({} : Settings).reserved =
        (twofoldPad 1 0).drop ({} : Settings).reserved :=
      (drop_twofoldPad 0 0).trans (drop_twofoldPad 1 0).symm
    have transfers : ∀ move ∈ [Move.send [7], .receive [1, 2]], move.Transfers :=
      List.forall_mem_cons.mpr ⟨.send _, List.forall_mem_singleton.mpr (.receive _)⟩
    have short : (Move.send [7]).Sized := by
      change 3 + 1 < wordLimit
      decide
    have sized : ∀ move ∈ [Move.send [7], .receive [1, 2]], move.Sized :=
      List.forall_mem_cons.mpr ⟨short, List.forall_mem_singleton.mpr trivial⟩
    rcases exists_begin rfl inside .responder with ⟨start, begun⟩
    rcases (Reachable.begun fits begun).exists_run sized with ⟨outcomes, final, ran⟩
    have seen : transcript (begin (twofoldPad 0 0) .responder {}) [.send [7], .receive [1, 2]] =
        pure (outcomes, final.snapshot) := by
      rw [transcript, begun, pure_bind, ran]
      rfl
    have same := (frames {} _ _ (lengths 0 0 1 0) behind _ transfers).1 .responder
    exact ⟨_, seen, same.symm.trans seen⟩
  · have front : (twofoldPad 0 0).take 160 = (twofoldPad 0 1).take 160 :=
      (take_twofoldPad 0 0).trans (take_twofoldPad 0 1).symm
    have long : 160 ≤ (twofoldPad 0 0).length := by
      rw [length_twofoldPad]
      decide
    rcases shares _ _ (lengths 0 0 0 1) front with ⟨same, derives⟩
    rcases derives long with ⟨tokens, derived⟩
    have others := same.symm.trans derived
    exact ⟨tokens, derived, others,
      apart _ _ .burn .burn _ ((each _ _).mp derived .burn) ((each _ _).mp others .burn)⟩

end Conversation

end OneTimePad
