import OneTimePad.Pad.Identity

/-!
# Tokens are set apart

A token is the digest of its label and of the octets that are set aside.  The labels set
the tokens apart: no label followed by octets that are set aside is another label followed
by such octets.  So two tokens are hardly ever equal, of the same pad or of two pads.  If
they are, then they are the same token of pads with the same octets set aside, or else
their digests are a collision, of two inputs that are known.
-/

namespace OneTimePad

theorem Hex.encode_injective {left right : List UInt8} (same : encode left = encode right) :
    left = right :=
  digits_injective (String.ofList_inj.mp same)

/-- Two inputs that have one digest. -/
structure Sha256.Collides (left right : List UInt8) : Prop where
  distinct : left ≠ right
  digest_eq : digest left = digest right

namespace Identity

variable {pad : List UInt8} {token other : Token}

/-- The token of a kind. -/
def Tokens.get (tokens : Tokens) : Token → String
  | .conversation => tokens.conversation
  | .authorization => tokens.authorization
  | .burn => tokens.burn

/-- What a token is the digest of. -/
def seed (token : Token) (pad : List UInt8) : List UInt8 :=
  token.label ++ pad.take seedLength

theorem derive_of_long (token : Token) (long : seedLength ≤ pad.length) :
    derive token pad = .ok (Hex.encode (Sha256.digest (seed token pad))) :=
  if_neg (Nat.not_lt.mpr long)

theorem derive_of_short (token : Token) (short : pad.length < seedLength) :
    derive token pad = .error (.insufficientPad seedLength pad.length) :=
  if_pos short

/-- Only a pad that is long enough has tokens. -/
theorem derive_eq_ok_iff {text : String} :
    derive token pad = .ok text ↔
      seedLength ≤ pad.length ∧ text = Hex.encode (Sha256.digest (seed token pad)) := by
  by_cases long : seedLength ≤ pad.length
  · rw [derive_of_long token long, Except.ok.injEq]
    exact ⟨fun same => ⟨long, same.symm⟩, fun same => same.2.symm⟩
  · rw [derive_of_short token (Nat.lt_of_not_le long)]
    exact ⟨nofun, fun derived => absurd derived.1 long⟩

/-- All tokens of a pad are one of every kind. -/
theorem deriveAll_eq_ok_iff {tokens : Tokens} :
    deriveAll pad = .ok tokens ↔ ∀ token, derive token pad = .ok (tokens.get token) := by
  unfold deriveAll
  constructor
  · intro derived token
    by_cases long : seedLength ≤ pad.length
    · rw [derive_of_long _ long, derive_of_long _ long, derive_of_long _ long] at derived
      rcases Except.ok.inj derived with rfl
      rw [derive_of_long token long]
      cases token <;> rfl
    · rw [derive_of_short _ (Nat.lt_of_not_le long)] at derived
      cases derived
  · intro each
    rw [each .conversation, each .authorization, each .burn]
    rfl

theorem label_injective {token other : Token} (same : token.label = other.label) :
    token = other := by
  revert same
  cases token <;> cases other <;> decide

/-- The labels set the octets behind them apart. -/
theorem label_append_inj {left right : List UInt8} (size : left.length = right.length)
    (same : token.label ++ left = other.label ++ right) : token = other ∧ left = right := by
  have lengths := congrArg List.length same
  rw [List.length_append, List.length_append, size, Nat.add_right_cancel_iff] at lengths
  rcases List.append_inj same lengths with ⟨labels, rest⟩
  exact ⟨label_injective labels, rest⟩

/-- Two tokens of long pads are digests of one input only if they are the same token, of
pads with the same octets set aside. -/
theorem seed_inj {left right : List UInt8} (leftLong : seedLength ≤ left.length)
    (rightLong : seedLength ≤ right.length) (same : seed token left = seed other right) :
    token = other ∧ left.take seedLength = right.take seedLength := by
  apply label_append_inj ?_ same
  rw [List.length_take_of_le leftLong, List.length_take_of_le rightLong]

/-- Equal tokens are the same token of pads with the same octets set aside, or they show a
collision. -/
theorem same_or_collides {left right : List UInt8} {text : String}
    (leftDerived : derive token left = .ok text) (rightDerived : derive other right = .ok text) :
    (token = other ∧ left.take seedLength = right.take seedLength) ∨
      Sha256.Collides (seed token left) (seed other right) := by
  rcases derive_eq_ok_iff.mp leftDerived with ⟨leftLong, rfl⟩
  rcases derive_eq_ok_iff.mp rightDerived with ⟨rightLong, texts⟩
  have digests := Hex.encode_injective texts
  by_cases same : seed token left = seed other right
  · exact .inl (seed_inj leftLong rightLong same)
  · exact .inr ⟨same, digests⟩

end Identity

end OneTimePad
