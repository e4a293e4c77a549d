import OneTimePad.Proofs.Conversation.Sequence
import OneTimePad.Proofs.Network.Basic

/-!
# Safety of two parties

Each party sees only part of what the other one has sent, and still the two
never use a position twice.  The invariant says so for both views at once: the
spans of a party tile its side, both sides fit the region together, and what a
party has seen is never more than what the other one has sent.

An echo lies among the positions of its receiver, so it is never delivered.  A
frame of the other party lies on that party's side, so to see it is to see no
more than was sent.
-/

namespace OneTimePad.Network

open Conversation (cost)

/-- A party keeps to its side of the region. -/
structure Keeps (total : UInt64) (role : Role) (party : Simulation.Party) : Prop where
  sound : party.conversation.Sound
  role_eq : party.conversation.ledger.role = role
  total_eq : party.conversation.ledger.total = total
  tiles : role.Tiles total.toNat party.spans party.conversation.ledger.sent.toNat
  rising : (party.conversation.ledger.seen :: party.history).Pairwise fun later earlier =>
    earlier.toNat ≤ later.toNat

/-- What holds of both parties, the audit and the relay together. -/
structure Invariant (total : UInt64) (network : Network) : Prop where
  keeps : ∀ role, Keeps total role (network.party role)
  bounded : ∀ role, (network.ledger role).seen.toNat ≤ (network.ledger role.peer).sent.toNat
  fits : ∀ role, (network.ledger role).sent.toNat + (network.ledger role.peer).sent.toNat ≤
    total.toNat
  audit_total : network.audit.total = total
  audited : network.audit.Orderly
  entries_owned : ∀ entry ∈ network.audit.entries,
    entry.1.positions ⊆ (network.ledger entry.2).own
  traced : ∀ bytes ∈ network.wire, ∃ role frame, Frame.ofBytes bytes = pure frame ∧
    ∃ span ∈ (network.party role).spans, frame.extent = span.positions
  apart : (network.wire.map wireExtent).Pairwise Disjoint

variable {network : Network} {total : UInt64} {role : Role} {message : List UInt8} {frame : Frame}
  {span : Span}

theorem Keeps.own_eq {party : Simulation.Party} (keeps : Keeps total role party) :
    party.conversation.ledger.own =
      role.side total.toNat party.conversation.ledger.sent.toNat := by
  rw [Ledger.own, keeps.role_eq, keeps.total_eq]

/-- The spans of a party are among its own positions. -/
theorem Keeps.positions_subset_own {party : Simulation.Party} (keeps : Keeps total role party)
    (mem : span ∈ party.spans) : span.positions ⊆ party.conversation.ledger.own := by
  rw [keeps.own_eq]
  exact keeps.tiles.positions_subset_side span mem

theorem Keeps.regular {party : Simulation.Party} (keeps : Keeps total role party) :
    Check.Regular party.view where
  balanced := keeps.sound.balanced
  tiles := by
    have tiles := keeps.tiles
    rw [← keeps.role_eq, ← keeps.total_eq] at tiles
    rw [Simulation.Party.view, List.reverse_reverse]
    exact tiles
  rising := by
    rw [Simulation.Party.view, List.pairwise_reverse]
    exact (List.pairwise_cons.mp keeps.rising).2

/-! ## One party -/

/-- A party that can send a message has sealed it in a frame, with the span
that its role takes next. -/
structure Takes (total : UInt64) (role : Role) (party : Simulation.Party) (message : List UInt8)
    (frame : Frame) (span : Span) : Prop where
  sends : party.conversation.Sends message
  long : Padding.minimumLength ≤ frame.ciphertext.length
  same : frame.extent = span.positions
  start : span.start.toNat =
    role.nextStart total.toNat party.conversation.ledger.sent.toNat (cost message)
  stop : span.stop.toNat = span.start.toNat + cost message

section Party

variable {party : Simulation.Party}

theorem Takes.start_lt_stop (takes : Takes total role party message frame span) :
    span.start.toNat < span.stop.toNat := by
  rw [takes.stop]
  exact Nat.lt_add_of_pos_right (Nat.succ_pos _)

variable (keeps : Keeps total role party)

include keeps

theorem Keeps.exists_takes (sends : party.conversation.Sends message)
    (seals : frame.Seals party.conversation.region (party.conversation.nextOffset message)
      message) :
    ∃ span, Simulation.spanOf frame = .ok span ∧ Takes total role party message frame span := by
  have totalLt := Word.toNat_lt total
  have fits := sends.granted.fits sends.balanced
  have start := Conversation.toNat_nextOffset sends.balanced sends.short sends.granted
  rw [keeps.role_eq, keeps.total_eq, ← seals.offset_eq] at start
  rw [keeps.total_eq] at fits
  have length : frame.ciphertext.length + Authenticator.keySize = cost message := by
    rw [seals.length_ciphertext sends.within, cost]
  have inside : frame.offset.toNat + cost message ≤ total.toNat := by
    rw [start]
    exact Role.nextStart_add_le (by omega)
  have inWord : frame.offset.toNat + frame.ciphertext.length + Authenticator.keySize <
      wordLimit := by omega
  rcases spanOf_eq_ok inWord with ⟨span, spanEq, spanStart, spanStop⟩
  refine ⟨span, spanEq, sends, sends.minimumLength_le seals, ?_, ?_, ?_⟩
  · rw [Frame.extent, Span.positions, spanStart, spanStop]
  · rw [spanStart, start]
  · rw [spanStop, spanStart, Nat.add_assoc, length]

theorem Keeps.positions_eq_next (takes : Takes total role party message frame span) :
    span.positions = party.conversation.ledger.next (cost message) := by
  rw [Span.positions, takes.stop, takes.start, Ledger.next, keeps.role_eq, keeps.total_eq]

theorem Keeps.commit (takes : Takes total role party message frame span) :
    Keeps total role (party.commit message frame span) where
  sound := keeps.sound.spend takes.sends
  role_eq := keeps.role_eq
  total_eq := keeps.total_eq
  tiles := by
    have sends := takes.sends
    have fits := sends.granted.fits sends.balanced
    rw [keeps.total_eq] at fits
    have stop := takes.stop
    rw [takes.start] at stop
    change role.Tiles total.toNat (span :: party.spans)
      (party.conversation.ledger.advance (cost message)).sent.toNat
    rw [sends.granted.toNat_sent sends.balanced]
    exact .cons keeps.tiles (Nat.succ_pos _) (by omega) takes.start stop
  rising := keeps.rising

/-- What a party sees of the other one grows with every frame that is
delivered. -/
theorem Keeps.heed {plaintext : List UInt8}
    (delivers : party.conversation.Delivers frame plaintext) :
    Keeps total role (party.heed frame) where
  sound := keeps.sound.heed delivers
  role_eq := keeps.role_eq
  total_eq := keeps.total_eq
  tiles := keeps.tiles
  rising := by
    have rises := delivers.fresh.seen_lt_mark
    have mark := delivers.fresh.toNat_mark
    rcases List.pairwise_cons.mp keeps.rising with ⟨below, rising⟩
    have belowMark : ∀ earlier ∈ party.history, earlier.toNat ≤
        (UInt64.ofNat (party.conversation.ledger.markOf frame.offset frame.consumed)).toNat := by
      intro earlier mem
      have seen := below earlier mem
      omega
    change (UInt64.ofNat _ :: UInt64.ofNat _ :: party.history).Pairwise _
    rw [List.pairwise_cons, List.pairwise_cons, List.forall_mem_cons]
    exact ⟨⟨Nat.le_refl _, belowMark⟩, belowMark, rising⟩

end Party

/-! ## Sending -/

section Sending

variable (invariant : Invariant total network) (affords : network.Affords message)

include invariant

/-- Every frame at the relay lies among the positions of the party that has
sent it. -/
theorem Invariant.extent_subset_own {bytes : List UInt8} (mem : bytes ∈ network.wire) :
    ∃ role frame, Frame.ofBytes bytes = pure frame ∧
      frame.extent ⊆ (network.ledger role).own := by
  rcases invariant.traced bytes mem with ⟨role, frame, parsed, span, spanMem, same⟩
  refine ⟨role, frame, parsed, ?_⟩
  rw [same]
  exact (invariant.keeps role).positions_subset_own spanMem

include affords

theorem Invariant.affords_role (role : Role) :
    (network.ledger role).sent.toNat + cost message + (network.ledger role.peer).sent.toNat ≤
      total.toNat := by
  have totalEq : (network.ledger .initiator).total = total := (invariant.keeps .initiator).total_eq
  unfold Affords at affords
  rw [totalEq] at affords
  cases role with
  | initiator =>
      rw [Role.peer]
      omega
  | responder =>
      rw [Role.peer]
      omega

/-- What a party takes next belongs to neither party, although each of them
knows only its own part for certain. -/
theorem Invariant.disjoint_next_own (sends : (network.party role).conversation.Sends message)
    (other : Role) :
    Disjoint ((network.ledger role).next (cost message)) (network.ledger other).own := by
  rcases role.eq_or_eq_peer other with rfl | rfl
  · exact sends.granted.disjoint_next_own sends.balanced
  · have roleEq : (network.ledger role).role = role := (invariant.keeps role).role_eq
    have totalEq : (network.ledger role).total = total := (invariant.keeps role).total_eq
    have peerOwn : (network.ledger role.peer).own = _ := (invariant.keeps role.peer).own_eq
    have own : ((network.ledger role).advance (cost message)).own =
        role.side total.toNat ((network.ledger role).sent.toNat + cost message) := by
      have sent : ((network.ledger role).advance (cost message)).sent.toNat = _ :=
        sends.granted.toNat_sent sends.balanced
      rw [Ledger.own, sent, Ledger.advance, roleEq, totalEq]
    rw [peerOwn]
    refine Set.disjoint_of_subset_left (sends.granted.next_subset_own sends.balanced) ?_
    change Disjoint ((network.ledger role).advance (cost message)).own _
    rw [own]
    exact Role.disjoint_side_peer (invariant.affords_role affords role)

end Sending

section Commit

variable (invariant : Invariant total network) (affords : network.Affords message)
  (takes : Takes total role (network.party role) message frame span)

theorem Takes.own_subset_commit (takes : Takes total role (network.party role) message frame span)
    (other : Role) :
    (network.ledger other).own ⊆ ((network.commit role message frame span).ledger other).own := by
  rcases role.eq_or_eq_peer other with rfl | rfl
  · rw [ledger_commit_self]
    exact takes.sends.granted.own_subset_advance takes.sends.balanced
  · rw [ledger_commit_peer]

include invariant affords takes

/-- The span that is taken belongs to neither party. -/
theorem Invariant.disjoint_positions_own (other : Role) :
    Disjoint span.positions (network.ledger other).own := by
  rw [(invariant.keeps role).positions_eq_next takes]
  exact invariant.disjoint_next_own affords takes.sends other

theorem Invariant.clear :
    ∀ entry ∈ network.audit.entries, Disjoint span.positions entry.1.positions := by
  intro entry mem
  exact (invariant.disjoint_positions_own affords takes entry.2).mono_right
    (invariant.entries_owned entry mem)

theorem Invariant.stop_le_total : span.stop.toNat ≤ network.audit.total.toNat := by
  have fits := invariant.affords_role affords role
  rw [takes.stop, takes.start, invariant.audit_total]
  exact Role.nextStart_add_le (Nat.le_of_add_right_le fits)

/-- The invariant survives a frame that is sent. -/
theorem Invariant.commit : Invariant total (network.commit role message frame span) where
  keeps := by
    intro other
    rcases role.eq_or_eq_peer other with rfl | rfl
    · rw [party_commit_self]
      exact (invariant.keeps other).commit takes
    · rw [party_commit_peer]
      exact invariant.keeps role.peer
  bounded := by
    have sent : ((network.ledger role).advance (cost message)).sent.toNat = _ :=
      takes.sends.granted.toNat_sent takes.sends.balanced
    intro other
    rcases role.eq_or_eq_peer other with rfl | rfl
    · rw [ledger_commit_self, ledger_commit_peer]
      exact invariant.bounded other
    · have bounded := invariant.bounded role.peer
      rw [Role.peer_peer] at bounded ⊢
      rw [ledger_commit_self, ledger_commit_peer, sent]
      exact bounded.trans (Nat.le_add_right _ _)
  fits := by
    have fits := invariant.affords_role affords role
    have sent : ((network.ledger role).advance (cost message)).sent.toNat = _ :=
      takes.sends.granted.toNat_sent takes.sends.balanced
    intro other
    rcases role.eq_or_eq_peer other with rfl | rfl
    · rw [ledger_commit_self, ledger_commit_peer, sent]
      exact fits
    · rw [Role.peer_peer, ledger_commit_self, ledger_commit_peer, sent, Nat.add_comm]
      exact fits
  audit_total := invariant.audit_total
  audited :=
    invariant.audited.accept takes.start_lt_stop (invariant.clear affords takes)
      (invariant.stop_le_total affords takes) role
  entries_owned := by
    intro entry mem
    rcases ReuseAudit.mem_accept_iff.mp mem with rfl | mem
    · rw [ledger_commit_self, (invariant.keeps role).positions_eq_next takes]
      exact takes.sends.granted.next_subset_own takes.sends.balanced
    · exact (invariant.entries_owned entry mem).trans (takes.own_subset_commit entry.2)
  traced := by
    intro bytes mem
    rcases List.mem_cons.mp mem with rfl | mem
    · refine ⟨role, frame, Frame.ofBytes_toBytes takes.long, span, ?_, takes.same⟩
      rw [party_commit_self]
      exact List.mem_cons_self
    · rcases invariant.traced bytes mem with ⟨other, read, parsed, earlier, earlierMem, same⟩
      refine ⟨other, read, parsed, earlier, ?_, same⟩
      rcases role.eq_or_eq_peer other with rfl | rfl
      · rw [party_commit_self]
        exact List.mem_cons_of_mem _ earlierMem
      · rw [party_commit_peer]
        exact earlierMem
  apart := by
    change ((frame.toBytes :: network.wire).map wireExtent).Pairwise Disjoint
    rw [List.map_cons, List.pairwise_cons]
    constructor
    · intro extent mem
      rcases List.mem_map.mp mem with ⟨bytes, bytesMem, rfl⟩
      rcases invariant.extent_subset_own bytesMem with ⟨other, earlier, parsed, subset⟩
      rw [wireExtent_toBytes takes.long, takes.same, wireExtent_of_ofBytes parsed]
      exact (invariant.disjoint_positions_own affords takes other).mono_right subset
    · exact invariant.apart

end Commit

section Dispatch

variable (invariant : Invariant total network) (affords : network.Affords message)

include invariant affords

/-- A message that its sender seals, and both parties can afford, is dispatched:
the audit accepts its span. -/
theorem Invariant.exists_send (sends : (network.party role).conversation.Sends message) :
    ∃ frame span,
      frame.Seals (network.party role).conversation.region
        ((network.party role).conversation.nextOffset message) message ∧
      Takes total role (network.party role) message frame span ∧
      network.send role message = pure (network.commit role message frame span) := by
  rcases Conversation.send_eq_ok sends with ⟨frame, seals, sent⟩
  rcases (invariant.keeps role).exists_takes sends seals with ⟨span, spanEq, takes⟩
  have accepted := invariant.audited.record_eq_ok takes.start_lt_stop
    (invariant.clear affords takes) (invariant.stop_le_total affords takes) role
  exact ⟨frame, span, seals, takes, send_of_sent sent takes.long spanEq accepted⟩

/-- A message that both parties can afford is refused by its sender, or it is
sent and the audit accepts its span. -/
theorem Invariant.send_cases (role : Role) :
    network.send role message = pure network ∨
      ∃ frame span, Takes total role (network.party role) message frame span ∧
        network.send role message = pure (network.commit role message frame span) := by
  have totalLt := Word.toNat_lt total
  have fits := invariant.affords_role affords role
  have sized : Padding.overhead + message.length < wordLimit := by
    unfold cost at fits
    rw [Padding.length_padded] at fits
    omega
  rcases (invariant.keeps role).sound.send_cases sized with ⟨error, -, refused⟩ | sends
  · exact .inl (send_of_refused refused)
  · rcases invariant.exists_send affords sends with ⟨frame, span, -, takes, sent⟩
    exact .inr ⟨frame, span, takes, sent⟩

end Dispatch

/-! ## Arriving -/

section Arriving

variable (invariant : Invariant total network) {plaintext : List UInt8}
  (delivers : (network.party role).conversation.Delivers frame plaintext)

include invariant delivers

/-- What is delivered of all that the relay carries is a frame of the other
party. -/
theorem Invariant.extent_subset_side {bytes : List UInt8} (carries : network.Carries role bytes)
    (parsed : Frame.ofBytes bytes = pure frame) :
    frame.extent ⊆
      role.peer.side total.toNat (network.ledger role.peer).sent.toNat := by
  rcases carries with mem | harmless
  · rcases invariant.extent_subset_own mem with ⟨sender, sent, read, subset⟩
    obtain rfl := Attempt.pure_inj.mp (read.symm.trans parsed)
    rcases role.eq_or_eq_peer sender with rfl | rfl
    · -- an echo lies among the positions of its receiver, and a delivered frame does not
      have first : sent.offset.toNat ∈ sent.extent := by
        rw [Frame.extent, Set.mem_Ico, Nat.add_assoc]
        exact ⟨Nat.le_refl _, Nat.lt_add_of_pos_right (Nat.succ_pos _)⟩
      exact absurd (subset first) (Set.disjoint_left.mp delivers.apart first)
    · have own : (network.ledger role.peer).own = _ := (invariant.keeps role.peer).own_eq
      rw [own] at subset
      exact subset
  · have sound := (invariant.keeps role).sound
    exact absurd delivers (not_delivers_of_harmless sound harmless parsed)

/-- The invariant survives a frame that is delivered. -/
theorem Invariant.heed
    (subset : frame.extent ⊆ role.peer.side total.toNat (network.ledger role.peer).sent.toNat) :
    Invariant total (network.heed role frame) where
  keeps := by
    intro other
    rcases role.eq_or_eq_peer other with rfl | rfl
    · rw [party_heed_self]
      exact (invariant.keeps other).heed delivers
    · rw [party_heed_peer]
      exact invariant.keeps role.peer
  bounded := by
    have keeps := invariant.keeps role
    have fits := invariant.fits role
    have mark : (network.ledger role).markOf frame.offset frame.consumed ≤
        (network.ledger role.peer).sent.toNat := by
      have roleEq : (network.ledger role).role = role := keeps.role_eq
      have totalEq : (network.ledger role).total = total := keeps.total_eq
      refine Ledger.markOf_le delivers.fresh.nonempty ?_ ?_
      · rw [totalEq]
        exact Nat.le_of_add_left_le fits
      · rw [frame.claim_eq_extent, roleEq, totalEq]
        exact subset
    have seen : ((network.ledger role).observe _).seen.toNat = _ := delivers.fresh.toNat_mark
    intro other
    rcases role.eq_or_eq_peer other with rfl | rfl
    · rw [ledger_heed_self, ledger_heed_peer]
      exact seen.trans_le mark
    · have bounded := invariant.bounded role.peer
      rw [Role.peer_peer] at bounded ⊢
      rw [ledger_heed_self, ledger_heed_peer]
      exact bounded
  fits := by
    intro other
    have fits := invariant.fits other
    rcases role.eq_or_eq_peer other with rfl | rfl
    · rw [ledger_heed_self, ledger_heed_peer]
      exact fits
    · rw [Role.peer_peer] at fits ⊢
      rw [ledger_heed_self, ledger_heed_peer]
      exact fits
  audit_total := invariant.audit_total
  audited := invariant.audited
  entries_owned := by
    intro entry mem
    have owned := invariant.entries_owned entry mem
    rcases role.eq_or_eq_peer entry.2 with same | same
    · rw [same, ledger_heed_self]
      rw [same] at owned
      exact owned
    · rw [same, ledger_heed_peer]
      rw [same] at owned
      exact owned
  traced := by
    intro bytes mem
    rcases invariant.traced bytes mem with ⟨other, read, parsed, span, spanMem, same⟩
    refine ⟨other, read, parsed, span, ?_, same⟩
    rcases role.eq_or_eq_peer other with rfl | rfl
    · rw [party_heed_self]
      exact spanMem
    · rw [party_heed_peer]
      exact spanMem
  apart := invariant.apart

end Arriving

/-! ## Frames in sequence -/

section Continuing

variable (invariant : Invariant total network) (live : (network.ledger role).burned = false)
  {region : List UInt8} {taken : Nat}

include invariant live

/-- A frame with which the other party continues, and of which nothing is seen
yet, is delivered. -/
theorem Invariant.deliver_of_unseen
    (continues : frame.Continues role.peer total.toNat taken
      (network.party role).conversation.region message)
    (sent : taken + cost message ≤ (network.ledger role.peer).sent.toNat)
    (unseen : (network.ledger role).seen.toNat ≤ taken) :
    network.deliver role frame.toBytes = .ok (network.heed role frame) := by
  have keeps := invariant.keeps role
  have fits := invariant.fits role
  have clear : (network.ledger role).sent.toNat + (taken + cost message) ≤
      (network.ledger role).total.toNat := by
    have totalEq : (network.ledger role).total = total := keeps.total_eq
    rw [totalEq]
    omega
  have arriving : frame.Continues (network.ledger role).role.peer
      (network.ledger role).total.toNat taken (network.party role).conversation.region message := by
    rwa [ledger, keeps.role_eq, keeps.total_eq]
  exact deliver_of_delivered
    (Conversation.receive_of_unseen keeps.sound live arriving clear unseen).1

/-- An echo changes nothing. -/
theorem Invariant.deliver_of_echo (covered : region.length = total.toNat)
    (continues : frame.Continues role total.toNat taken region message)
    (sent : taken + cost message ≤ (network.ledger role).sent.toNat) :
    network.deliver role frame.toBytes = .ok network := by
  have keeps := invariant.keeps role
  have returning : frame.Continues (network.ledger role).role (network.ledger role).total.toNat
      taken region message := by
    rwa [ledger, keeps.role_eq, keeps.total_eq]
  rw [← keeps.total_eq] at covered
  exact deliver_of_undelivered
    (Conversation.receive_of_echo keeps.sound live returning covered sent) (by simp)

end Continuing

/-! ## All reachable networks -/

section Reachable

variable {pad : List UInt8} {settings : Settings} {start : Role → Conversation}
  (fits : pad.length < wordLimit)
  (begun : ∀ role, Conversation.begin pad role settings = pure (start role))

include fits begun

theorem invariant_opening :
    Invariant (UInt64.ofNat (pad.length - settings.reserved)) (opening start) := by
  have ledger : ∀ role, (start role).ledger =
      Ledger.fresh role (UInt64.ofNat (pad.length - settings.reserved)) settings := by
    intro role
    exact (Conversation.begin_eq_pure (begun role)).2.2.2
  have nothing : ∀ role, ((opening start).ledger role).sent = 0 := by
    intro role
    change (start role).ledger.sent = 0
    rw [ledger]
    rfl
  constructor
  case keeps =>
    intro role
    refine ⟨Conversation.sound_of_begin fits (begun role), ?_, ?_, ?_,
      List.pairwise_singleton _ _⟩
    · change (start role).ledger.role = role
      rw [ledger]
      rfl
    · change (start role).ledger.total = _
      rw [ledger]
      rfl
    · change role.Tiles _ [] ((opening start).ledger role).sent.toNat
      rw [nothing]
      exact .nil
  case bounded =>
    intro role
    change (start role).ledger.seen.toNat ≤ _
    rw [ledger]
    exact Nat.zero_le _
  case fits =>
    intro role
    rw [nothing, nothing]
    exact Nat.zero_le _
  case audit_total =>
    change (start .initiator).ledger.total = _
    rw [ledger]
    rfl
  case audited => exact ReuseAudit.orderly_empty _
  case entries_owned => simp [opening]
  case traced => simp [opening]
  case apart => exact .nil

theorem Reachable.invariant {network : Network} (reachable : Reachable start network) :
    Invariant (UInt64.ofNat (pad.length - settings.reserved)) network := by
  induction reachable with
  | opened => exact invariant_opening fits begun
  | @sent network after role message _ affords sent inductionHypothesis =>
      rcases inductionHypothesis.send_cases affords role with
        same | ⟨frame, span, takes, committed⟩
      · obtain rfl := Attempt.pure_inj.mp (same.symm.trans sent)
        exact inductionHypothesis
      · obtain rfl := Attempt.pure_inj.mp (committed.symm.trans sent)
        exact inductionHypothesis.commit affords takes
  | @delivered network after role bytes _ carries delivered inductionHypothesis =>
      rcases deliver_cases (inductionHypothesis.keeps role).sound bytes with
        same | ⟨frame, plaintext, parsed, delivers, heeded⟩
      · obtain rfl := Except.ok.inj (same.symm.trans delivered)
        exact inductionHypothesis
      · obtain rfl := Except.ok.inj (heeded.symm.trans delivered)
        exact inductionHypothesis.heed delivers
          (inductionHypothesis.extent_subset_side delivers carries parsed)

end Reachable

/-- What two parties with one pad can count on. -/
structure Safe (network : Network) : Prop where
  /-- No two frames that were ever sent share a position. -/
  apart : (network.wire.map wireExtent).Pairwise Disjoint
  /-- The positions of every frame are a span that one of the parties has reserved. -/
  traced : ∀ bytes ∈ network.wire, ∃ role, ∃ span ∈ (network.party role).spans,
    wireExtent bytes = span.positions
  /-- The spans of each party follow one another from its end of the region. -/
  contiguous : ∀ role : Role, role.Tiles (network.ledger role).total.toNat
    (network.party role).spans (network.ledger role).sent.toNat
  /-- No party has seen more of the other than that one has sent. -/
  bounded : ∀ role : Role, (network.ledger role).seen ≤ (network.ledger role.peer).sent
  /-- Whatever both parties can afford is sent or refused, and never violates the audit. -/
  accepted : ∀ role message, network.Affords message →
    ∃ after, network.send role message = pure after
  /-- Whatever arrives is answered. -/
  answered : ∀ role bytes, ∃ after, network.deliver role bytes = .ok after
  /-- The standard checks find no violation. -/
  checked : Check.runAll Check.standard network.view = .ok []

theorem Invariant.safe (invariant : Invariant total network) : network.Safe where
  apart := invariant.apart
  traced := by
    intro bytes mem
    rcases invariant.traced bytes mem with ⟨role, frame, parsed, span, spanMem, same⟩
    exact ⟨role, span, spanMem, (wireExtent_of_ofBytes parsed).trans same⟩
  contiguous := by
    intro role
    have totalEq : (network.ledger role).total = total := (invariant.keeps role).total_eq
    rw [totalEq]
    exact (invariant.keeps role).tiles
  bounded := by
    intro role
    rw [UInt64.le_iff_toNat_le]
    exact invariant.bounded role
  accepted := by
    intro role message affords
    rcases invariant.send_cases affords role with same | ⟨frame, span, -, committed⟩
    · exact ⟨network, same⟩
    · exact ⟨_, committed⟩
  answered := by
    intro role bytes
    rcases deliver_cases (invariant.keeps role).sound bytes with same | ⟨frame, _, _, _, heeded⟩
    · exact ⟨network, same⟩
    · exact ⟨_, heeded⟩
  checked := by
    have initiator := invariant.keeps .initiator
    have responder := invariant.keeps .responder
    have fits := invariant.fits .initiator
    have totalEq : (network.ledger .initiator).total = total := initiator.total_eq
    rw [← totalEq] at fits
    exact Check.runAll_standard_eq_nil initiator.regular responder.regular
      ⟨initiator.role_eq, responder.role_eq⟩ (initiator.total_eq.trans responder.total_eq.symm)
      fits (invariant.bounded .initiator) (invariant.bounded .responder)

/-- However the relay delays, repeats, reorders or echoes frames, and whatever
it makes up, two parties that send only what both can afford are safe. -/
theorem safe_of_reachable {pad : List UInt8} {settings : Settings} {start : Role → Conversation}
    (fits : pad.length < wordLimit)
    (begun : ∀ role, Conversation.begin pad role settings = pure (start role))
    (reachable : Reachable start network) : network.Safe :=
  (reachable.invariant fits begun).safe

/-- Over the small pad, both parties have sent a message of 96 octets. -/
theorem exists_both_sent :
    ∃ start first second, ∃ letter answer : Frame,
      (∀ role, Conversation.begin Conversation.smallPad role {} = pure (start role)) ∧
        (opening start).send .initiator [] = pure first ∧
        first.send .responder [7] = pure second ∧
        second.wire = [answer.toBytes, letter.toBytes] ∧ Reachable start second ∧
        letter.Continues .initiator 192 0 (Conversation.smallPad.drop 160) [] ∧
        answer.Continues .responder 192 0 (Conversation.smallPad.drop 160) [7] ∧
        ∀ role, (second.party role).delivered = [] ∧
          (second.party role).conversation.region = Conversation.smallPad.drop 160 ∧
          second.ledger role = { Ledger.fresh role 192 with sent := 96 } := by
  have fits := Conversation.length_smallPad_lt
  obtain ⟨start, begun⟩ := Classical.axiomOfChoice Conversation.exists_begin_smallPad
  have ledger := fun role => Conversation.ledger_of_begin_smallPad (begun role)
  have region := fun role => Conversation.region_of_begin_smallPad (begun role)
  have affords : (opening start).Affords [] := by
    change (start .initiator).ledger.sent.toNat + (start .responder).ledger.sent.toNat +
      cost [] ≤ (start .initiator).ledger.total.toNat
    rw [ledger, ledger]
    decide
  have sends : (start .initiator).Sends [] :=
    Conversation.sends_of_begin_smallPad (begun .initiator) rfl
  obtain ⟨letter, span, letterSeals, -, sent⟩ :=
    (invariant_opening fits begun).exists_send affords sends
  have reachable := Reachable.sent .opened affords sent
  have initiator : ((opening start).commit .initiator [] letter span).party .initiator =
      ((opening start).party .initiator).commit [] letter span := party_commit_self
  have responder : ((opening start).commit .initiator [] letter span).party .responder =
      (opening start).party .responder := party_commit_peer
  have stillAffords : ((opening start).commit .initiator [] letter span).Affords [7] := by
    rw [Affords, Network.ledger, Network.ledger, initiator, responder]
    change ((start .initiator).spend []).ledger.sent.toNat + (start .responder).ledger.sent.toNat +
      cost [7] ≤ ((start .initiator).spend []).ledger.total.toNat
    rw [Conversation.ledger_spend_smallPad (begun .initiator) rfl, ledger]
    decide
  have answers : (((opening start).commit .initiator [] letter span).party
      .responder).conversation.Sends [7] := by
    rw [responder]
    exact Conversation.sends_of_begin_smallPad (begun .responder) rfl
  obtain ⟨answer, answerSpan, answerSeals, -, answered⟩ :=
    (reachable.invariant fits begun).exists_send stillAffords answers
  rw [responder] at answerSeals
  refine ⟨start, _, _, letter, answer, begun, sent, answered, rfl,
    .sent reachable stillAffords answered,
    Conversation.continues_of_begin_smallPad (begun .initiator) rfl letterSeals,
    Conversation.continues_of_begin_smallPad (begun .responder) rfl answerSeals, ?_⟩
  intro role
  cases role with
  | initiator =>
      have party : (((opening start).commit .initiator [] letter span).commit .responder [7] answer
          answerSpan).party .initiator = ((opening start).party .initiator).commit [] letter span :=
        party_commit_peer.trans initiator
      rw [Network.ledger, party]
      exact ⟨rfl, region .initiator, Conversation.ledger_spend_smallPad (begun .initiator) rfl⟩
  | responder =>
      rw [Network.ledger, party_commit_self, responder]
      exact ⟨rfl, region .responder, Conversation.ledger_spend_smallPad (begun .responder) rfl⟩

/-- Both parties have sent a message, and that of the initiator is delivered to
the responder.  Its echo changes nothing, nor does the answer under another
tag. -/
theorem safe_of_reachable_faulty_relay :
    ∃ start first second third, ∃ letter answer : Frame, ∃ tag,
      (∀ role, Conversation.begin Conversation.smallPad role {} = pure (start role)) ∧
        (opening start).send .initiator [] = pure first ∧
        first.send .responder [7] = pure second ∧
        second.wire = [answer.toBytes, letter.toBytes] ∧
        second.deliver .responder letter.toBytes = .ok third ∧
        (third.party .responder).delivered = [0] ∧
        third.deliver .initiator letter.toBytes = .ok third ∧ tag ≠ answer.tag ∧
        third.deliver .initiator ({ answer with tag } : Frame).toBytes = .ok third ∧
        Reachable start third ∧ third.Safe := by
  have fits := Conversation.length_smallPad_lt
  obtain ⟨start, first, second, letter, answer, begun, sent, answered, wire, reachable,
    letterContinues, answerContinues, parties⟩ := exists_both_sent
  have total : UInt64.ofNat (Conversation.smallPad.length - ({} : Settings).reserved) = 192 := by
    rw [Conversation.smallPad, List.length_replicate]
    rfl
  have covered : (Conversation.smallPad.drop 160).length = 192 := by
    rw [Conversation.smallPad, List.length_drop, List.length_replicate]
  have invariant : ∀ network, Reachable start network → Invariant 192 network := by
    intro network reachable
    rw [← total]
    exact reachable.invariant fits begun
  obtain ⟨undelivered, responderRegion, responderLedger⟩ := parties .responder
  obtain ⟨-, initiatorRegion, initiatorLedger⟩ := parties .initiator
  have delivered : second.deliver .responder letter.toBytes =
      .ok (second.heed .responder letter) := by
    apply (invariant second reachable).deliver_of_unseen
    case live =>
      rw [responderLedger]
      rfl
    case continues =>
      rw [responderRegion]
      exact letterContinues
    case sent =>
      rw [Role.peer, initiatorLedger]
      decide
    case unseen =>
      rw [responderLedger]
      exact Nat.le_refl 0
  have mem : letter.toBytes ∈ second.wire := by
    rw [wire]
    exact List.mem_cons_of_mem _ List.mem_cons_self
  have thirdReachable := Reachable.delivered reachable (.inl mem) delivered
  have third := invariant _ thirdReachable
  have initiator : (second.heed .responder letter).party .initiator = second.party .initiator :=
    party_heed_peer
  have books : (second.heed .responder letter).ledger .initiator =
      { Ledger.fresh .initiator 192 with sent := 96 } := ledger_heed_peer.trans initiatorLedger
  have echoed : (second.heed .responder letter).deliver .initiator letter.toBytes =
      .ok (second.heed .responder letter) := by
    apply third.deliver_of_echo
    case live =>
      rw [books]
      rfl
    case covered => exact covered
    case continues => exact letterContinues
    case sent =>
      rw [books]
      decide
  obtain ⟨tag, differs⟩ : ∃ tag, tag ≠ answer.tag := by
    by_cases zero : answer.tag = ⟨0, 0⟩
    · exact ⟨⟨0, 1⟩, by rw [zero]; decide⟩
    · exact ⟨⟨0, 0⟩, Ne.symm zero⟩
  have forged : (second.heed .responder letter).deliver .initiator
      ({ answer with tag } : Frame).toBytes = .ok (second.heed .responder letter) := by
    apply deliver_of_harmless (third.keeps .initiator).sound
    rw [initiator, initiatorRegion]
    exact harmless_of_ne (answerContinues.minimumLength_le covered)
      (answerContinues.authentic covered) differs
  refine ⟨start, first, second, _, letter, answer, tag, begun, sent, answered, wire, delivered, ?_,
    echoed, differs, forged, thirdReachable, safe_of_reachable fits begun thirdReachable⟩
  have offset : letter.offset = 0 := UInt64.toNat_inj.mp letterContinues.start
  rw [party_heed_self, Simulation.Party.heed, undelivered, offset]

end OneTimePad.Network
