import OneTimePad.Cbor.Record

/-!
# Reading what was written

A reader reads octets as a value if it takes them from the front of any input,
leaves what follows, and answers with the value.  Readers that are put one after
the other read what is written one after the other, so a record is read field by
field, and nothing has to be known of what follows it.

The writers of heads, texts, integers and truth values are read back in this
sense, whatever the width of the integer.
-/

namespace OneTimePad.Cbor

/-- The reader takes exactly these octets, whatever follows them, and answers
with this value. -/
def Reads {α : Type} (reader : Reader α) (bytes : List UInt8) (value : α) : Prop :=
  ∀ rest, reader (bytes ++ rest) = .ok (value, rest)

section Sequence

variable {α β : Type}

theorem Reads.pure (value : α) : Reads (pure value) [] value := by
  intro rest
  rfl

/-- What is written one after the other is read one after the other. -/
theorem Reads.bind {reader : Reader α} {next : α → Reader β} {front back : List UInt8}
    {middle : α} {value : β} (first : Reads reader front middle)
    (second : Reads (next middle) back value) : Reads (reader >>= next) (front ++ back) value := by
  intro rest
  change (reader (front ++ back ++ rest) >>= fun answer => next answer.1 answer.2) = _
  rw [List.append_assoc, first (back ++ rest)]
  exact second rest

/-- A reader that takes nothing comes before the others. -/
theorem Reads.bind_nil {reader : Reader α} {next : α → Reader β} {bytes : List UInt8}
    {middle : α} {value : β} (first : Reads reader [] middle)
    (second : Reads (next middle) bytes value) : Reads (reader >>= next) bytes value :=
  first.bind second

/-- The last answer may still be worked on. -/
theorem Reads.map {reader : Reader α} {next : α → Reader β} {bytes : List UInt8}
    {middle : α} {value : β} (first : Reads reader bytes middle)
    (second : Reads (next middle) [] value) : Reads (reader >>= next) bytes value := by
  have both := first.bind second
  rwa [List.append_nil] at both

/-- How a reader goes on may depend on all the input, as long as the answer does
not. -/
theorem Reads.of_get {next : List UInt8 → Reader α} {bytes : List UInt8} {value : α}
    (reads : ∀ rest, next (bytes ++ rest) (bytes ++ rest) = .ok (value, rest)) :
    Reads (get >>= next) bytes value :=
  reads

/-- Octets are read from the start, and what follows is left aside. -/
theorem Reads.run {reader : Reader α} {bytes : List UInt8} {value : α}
    (read : Reads reader bytes value) (rest : List UInt8) :
    reader.run' (bytes ++ rest) = .ok value := by
  change Prod.fst <$> reader (bytes ++ rest) = _
  rw [read rest]
  rfl

theorem reads_take {count : Nat} {bytes : List UInt8} (size : bytes.length = count) :
    Reads (take count) bytes bytes := by
  intro rest
  exact take_append size

end Sequence

/-! ## Heads -/

section Heads

variable {major information argument : Nat} {tail : List UInt8} {head : Head}

/-- A head is read from its first octet, the octets of its argument, and its
name. -/
theorem reads_readHead (majorLt : major < 8) (informationLt : information < 32)
    (announced : Reads (readArgument information) tail (some argument))
    (named : Reads (headOf major information (some argument)) [] head) :
    Reads readHead (UInt8.ofNat (major * 32 + information) :: tail) head := by
  have first : Bytes.toNat [UInt8.ofNat (major * 32 + information)] =
      major * 32 + information := by
    have octet : major * 32 + information < 256 := by omega
    simp [Bytes.toNat_cons, Bytes.capacity, Nat.mod_eq_of_lt octet]
  have low : (major * 32 + information) % 32 = information := by omega
  have high : (major * 32 + information) / 32 = major := by omega
  have octet : Reads (take 1) [UInt8.ofNat (major * 32 + information)] _ := reads_take rfl
  apply octet.bind
  simp only [first, low, high]
  exact announced.map named

/-- A small argument is part of the first octet. -/
theorem reads_readArgument_of_small (small : information < 24) :
    Reads (readArgument information) [] (some information) := by
  rw [readArgument, if_pos small]
  exact .pure _

/-- A larger argument stands in the octets after it. -/
theorem reads_readArgument_of_large (large : 24 ≤ information) (known : information < 28)
    (fits : argument < Bytes.capacity (1 <<< (information - 24))) :
    Reads (readArgument information) (Bytes.ofNat (1 <<< (information - 24)) argument)
      (some argument) := by
  rw [readArgument, if_neg (Nat.not_lt.mpr large), if_pos known]
  apply Reads.map (reads_take (Bytes.length_ofNat _ _))
  rw [Bytes.toNat_ofNat fits]
  exact .pure _

/-- A head is read back with its argument, as wide as that may be. -/
theorem reads_writeHead (majorLt : major < 8) (fits : argument < Bytes.capacity 8)
    (named : ∀ information, Reads (headOf major information (some argument)) [] head) :
    Reads readHead (writeHead major argument) head := by
  rw [writeHead]
  split
  · rename_i small
    exact reads_readHead majorLt (by omega) (reads_readArgument_of_small small) (named _)
  · split
    · rename_i octet
      exact reads_readHead majorLt (by decide)
        (reads_readArgument_of_large (by decide) (by decide) octet) (named 24)
    · split
      · rename_i octets
        exact reads_readHead majorLt (by decide)
          (reads_readArgument_of_large (by decide) (by decide) octets) (named 25)
      · split
        · rename_i octets
          exact reads_readHead majorLt (by decide)
            (reads_readArgument_of_large (by decide) (by decide) octets) (named 26)
        · exact reads_readHead majorLt (by decide)
            (reads_readArgument_of_large (by decide) (by decide) fits) (named 27)

/-- A head that is no tag is found behind no tags. -/
theorem Reads.untagged {bytes : List UInt8} (read : Reads readHead bytes head)
    (plain : ∀ number, head ≠ .tag number) : Reads readUntagged bytes head := by
  apply Reads.of_get
  intro rest
  apply read.map _ rest
  cases head with
  | tag number => exact absurd rfl (plain number)
  | _ => exact .pure _

end Heads

/-! ## Values -/

theorem reads_unsignedHead (value : UInt64) :
    Reads readHead (writeUnsigned value) (.unsigned value.toNat) :=
  reads_writeHead (by decide) value.toNat_lt fun _ => .map (.pure _) (.pure _)

theorem reads_writeUnsigned (value : UInt64) : Reads readUnsigned (writeUnsigned value) value := by
  have fits : value.toNat < Bytes.capacity 8 := value.toNat_lt
  have integer : ∀ turns, Reads (readIntegerWithin (turns + 1)) (writeUnsigned value)
      (false, value.toNat) :=
    fun _ => (reads_unsignedHead value).map (.pure _)
  apply Reads.of_get
  intro rest
  apply (integer _).map _ rest
  simp only [fits, if_true, UInt64.ofNat_toNat]
  exact .pure _

theorem reads_simple (value : Nat) (small : value < 24) :
    Reads readHead [UInt8.ofNat (7 * 32 + value)] (.simple value) := by
  apply reads_readHead (by decide) (by omega) (reads_readArgument_of_small small)
  have simple : value < 25 := by omega
  simp only [headOf, simple, if_true]
  exact .pure _

theorem reads_writeBool (value : Bool) : Reads readBool (writeBool value) value := by
  cases value with
  | false => exact ((reads_simple 20 (by decide)).untagged nofun).map (.pure _)
  | true => exact ((reads_simple 21 (by decide)).untagged nofun).map (.pure _)

/-- A value that begins with a head of its own is there. -/
theorem Reads.readOptional {α : Type} {reader : Reader α} {bytes : List UInt8} {value : α}
    {head : Head} (read : Reads reader bytes value) (begins : Reads readHead bytes head)
    (plain : ∀ number, head ≠ .simple number) :
    Reads (readOptional reader) bytes (some value) := by
  apply Reads.of_get
  intro rest
  have first := begins rest
  have whole := read rest
  generalize bytes ++ rest = input at first whole ⊢
  change (readHead input >>= _) = _
  rw [first]
  cases head with
  | simple number => exact absurd rfl (plain number)
  | _ =>
      change (reader input >>= _) = _
      rw [whole]
      rfl

section Texts

variable {text : String}

theorem reads_takeText (text : String) :
    Reads (takeText (Utf8.ofString text).length) (Utf8.ofString text) text := by
  apply Reads.of_get
  intro rest
  have enough : ¬ ((Utf8.ofString text ++ rest).take (Utf8.ofString text).length).length <
      (Utf8.ofString text).length := by
    simp
  simp only [enough, if_false]
  apply (reads_take rfl).map _ rest
  rw [Utf8.decode?_ofString]
  exact .pure _

theorem reads_textHead (fits : (Utf8.ofString text).length < Bytes.capacity 8) :
    Reads readUntagged (writeHead 3 (Utf8.ofString text).length)
      (.text (some (Utf8.ofString text).length)) := by
  have head : Reads readHead (writeHead 3 (Utf8.ofString text).length)
      (.text (some (Utf8.ofString text).length)) :=
    reads_writeHead (by decide) fits fun _ => .pure _
  exact head.untagged nofun

/-- A text is read whole, however many pieces that takes. -/
theorem reads_writeText (fits : (Utf8.ofString text).length < Bytes.capacity 8) :
    Reads readText (writeText text) text := by
  apply (reads_textHead fits).bind
  apply (reads_takeText text).map
  rw [String.empty_append]
  exact .pure text

/-- A text of one piece fits into a head. -/
theorem lt_capacity_of_le_pieceLimit {length : Nat} (fits : length ≤ pieceLimit) :
    length < Bytes.capacity 8 :=
  Nat.lt_of_le_of_lt fits (by decide)

/-- A text of one piece is read as a key. -/
theorem reads_readKey (fits : (Utf8.ofString text).length ≤ pieceLimit) :
    Reads readKey (writeText text) (Utf8.ofString text) := by
  apply (reads_textHead (lt_capacity_of_le_pieceLimit fits)).bind
  simp only [fits, if_true]
  exact (reads_takeText text).map (.pure _)

/-- A text of one piece is read as the name of an alternative. -/
theorem reads_readChoice (fits : (Utf8.ofString text).length ≤ pieceLimit) :
    Reads readChoice (writeText text) (Utf8.ofString text) := by
  apply Reads.of_get
  intro rest
  have begins : readUntagged (writeText text ++ rest) =
      .ok (.text (some (Utf8.ofString text).length), Utf8.ofString text ++ rest) := by
    rw [writeText, List.append_assoc]
    exact reads_textHead (lt_capacity_of_le_pieceLimit fits) _
  have key := reads_readKey fits rest
  generalize writeText text ++ rest = input at begins key ⊢
  change (readUntagged input >>= _) = _
  rw [begins]
  exact key

end Texts

/-! ## Records -/

section Records

variable {α σ : Type} {entry : List UInt8 → Option (σ → Reader σ)}

theorem Reads.fillField {value : Reader α} {bytes : List UInt8} {content : α}
    (read : Reads value bytes content) : Reads (fillField none value) bytes (some content) :=
  read.map (.pure _)

theorem reads_readEntries_nil (turns : Nat) (record : σ) :
    Reads (readEntries entry (turns + 1) (some 0) record) [] record :=
  .bind_nil (.pure none) (.pure record)

/-- An entry under this name, with these octets as its value, takes the record
under construction from one state to the next. -/
def ReadsEntry (entry : List UInt8 → Option (σ → Reader σ)) (name : String)
    (value : List UInt8) (record next : σ) : Prop :=
  ∃ fill, entry (Utf8.ofString name) = some fill ∧ Reads (fill record) value next

/-- The entry of a field is read once, and then the field is there. -/
theorem readsEntry_of_missing {α : Type} {name : String} {field : σ → Field α}
    {put : σ → Field α → σ} {reader : Reader α} {value : List UInt8} {content : α} {record : σ}
    (known : entry (Utf8.ofString name) =
      some fun record => fillField (field record) reader >>= fun filled => pure (put record filled))
    (read : Reads reader value content) (missing : field record = none) :
    ReadsEntry entry name value record (put record (some content)) := by
  refine ⟨_, known, ?_⟩
  rw [missing]
  exact read.fillField.map (.pure _)

/-- An entry is read by its name, and then the others. -/
theorem ReadsEntry.cons {name : String} {turns count : Nat} {record middle final : σ}
    {value others : List UInt8} (first : ReadsEntry entry name value record middle)
    (fits : (Utf8.ofString name).length ≤ pieceLimit)
    (rest : Reads (readEntries entry turns (some count) middle) others final) :
    Reads (readEntries entry (turns + 1) (some (count + 1)) record)
      (writeText name ++ (value ++ others)) final := by
  rcases first with ⟨fill, known, filled⟩
  apply Reads.bind_nil (.pure (some (some count)))
  apply (reads_readKey fits).bind
  rw [known]
  exact filled.bind rest

/-- The turns of a record do not run out before its entries. -/
theorem reads_readRecord {count : Nat} {blank final : σ} {bytes : List UInt8}
    (fits : count < Bytes.capacity 8) (enough : count ≤ bytes.length)
    (entries : ∀ turns,
      Reads (readEntries entry (turns + count + 1) (some count) blank) bytes final) :
    Reads (readRecord entry blank) (writeMap count ++ bytes) final := by
  have head : Reads readHead (writeMap count) (.map (some count)) :=
    reads_writeHead (by decide) fits fun _ => .pure _
  apply (head.untagged nofun).bind
  apply Reads.of_get
  intro rest
  have turns : (bytes ++ rest).length + 1 =
      (bytes.length - count + rest.length) + count + 1 := by
    rw [List.length_append]
    omega
  rw [turns]
  exact entries _ rest

end Records

end OneTimePad.Cbor
