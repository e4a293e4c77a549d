import OneTimePad.Proofs.Cbor.Reading
import OneTimePad.Text.Base64

/-!
# Base64 texts

Every byte string has one text, and reading accepts this text and no other one.

A text that is accepted has full groups only: all of them but the last are four
symbols, and the last one is two, three or four symbols and as many fillers as
are missing.  The bits that are left over in the last symbol are zero.  So the
text is what the octets that were read are written as, and on the other hand
every written text is of this shape.
-/

namespace OneTimePad

namespace Base64

/-! ## Symbols -/

theorem value?_symbol : ∀ value < 64, value? (symbol value) = some value := by
  decide

theorem symbol_ne_filler : ∀ value < 64, symbol value ≠ filler := by
  decide

theorem symbol_of_value? {byte : UInt8} {value : Nat} (known : value? byte = some value) :
    symbol value = byte ∧ value < 64 := by
  have all : ∀ octet : Fin 256, ∀ value ∈ value? (UInt8.ofFin octet),
      symbol value = UInt8.ofFin octet ∧ value < 64 := by
    decide +kernel
  exact all byte.toFin value known

theorem stranger?_eq_none_iff {offset : Nat} {text : List UInt8} :
    stranger? offset text = none ↔ ∀ byte ∈ text, value? byte ≠ none := by
  induction text generalizing offset with
  | nil => simp [stranger?]
  | cons byte text inductionHypothesis =>
      rw [stranger?, List.forall_mem_cons]
      by_cases strange : value? byte = none
      · simp [strange]
      · simp [strange, inductionHypothesis]

/-- Symbols are read as the numbers that they are written for. -/
theorem values_eq_ok_iff {text : List UInt8} {numbers : List Nat} :
    values text = .ok numbers ↔
      (∀ number ∈ numbers, number < 64) ∧ text = numbers.map symbol := by
  unfold values
  constructor
  · intro read
    cases strange : stranger? 0 text with
    | some found => simp [strange] at read
    | none =>
        rw [strange] at read
        rcases Except.ok.inj read with rfl
        have known := stranger?_eq_none_iff.mp strange
        have back : ∀ byte ∈ text, symbol ((value? byte).getD 0) = byte ∧
            (value? byte).getD 0 < 64 := by
          intro byte mem
          rcases Option.ne_none_iff_exists'.mp (known byte mem) with ⟨value, found⟩
          rw [found]
          exact symbol_of_value? found
        constructor
        · intro number mem
          rcases List.mem_map.mp mem with ⟨byte, byteMem, rfl⟩
          exact (back byte byteMem).2
        · rw [List.map_map]
          exact ((List.map_congr_left fun byte mem => (back byte mem).1).trans text.map_id).symm
  · rintro ⟨small, rfl⟩
    have known : stranger? 0 (numbers.map symbol) = none := by
      rw [stranger?_eq_none_iff]
      intro byte mem
      rcases List.mem_map.mp mem with ⟨number, numberMem, rfl⟩
      rw [value?_symbol number (small number numberMem)]
      exact Option.some_ne_none _
    have back : ∀ number ∈ numbers, (value? (symbol number)).getD 0 = number := by
      intro number mem
      rw [value?_symbol number (small number mem), Option.getD_some]
    rw [known, List.map_map]
    exact congrArg Except.ok ((List.map_congr_left back).trans numbers.map_id)

/-! ## Groups -/

theorem toNat_firstOctet {first second : Nat} (firstLt : first < 64) (secondLt : second < 64) :
    (UInt8.ofNat (first * 4 + second / 16)).toNat = first * 4 + second / 16 :=
  UInt8.toNat_ofNat_of_lt' (by simp only [UInt8.size]; omega)

theorem toNat_secondOctet (second : Nat) {third : Nat} (thirdLt : third < 64) :
    (UInt8.ofNat (second % 16 * 16 + third / 4)).toNat = second % 16 * 16 + third / 4 :=
  UInt8.toNat_ofNat_of_lt' (by simp only [UInt8.size]; omega)

/-- The octets of a full group are written as its symbols. -/
theorem encode_octets_cons {first second third fourth : Nat} (firstLt : first < 64)
    (secondLt : second < 64) (thirdLt : third < 64) (fourthLt : fourth < 64)
    (rest : List UInt8) :
    encode (octets [first, second, third, fourth] ++ rest) =
      symbol first :: symbol second :: symbol third :: symbol fourth :: encode rest := by
  have one := toNat_firstOctet firstLt secondLt
  have two := toNat_secondOctet second thirdLt
  have three : (UInt8.ofNat (third % 4 * 64 + fourth)).toNat = third % 4 * 64 + fourth :=
    UInt8.toNat_ofNat_of_lt' (by simp only [UInt8.size]; omega)
  simp only [octets, List.cons_append, List.nil_append, encode, one, two, three]
  have a : (first * 4 + second / 16) / 4 = first := by omega
  have b : (first * 4 + second / 16) % 4 * 16 + (second % 16 * 16 + third / 4) / 16 = second := by
    omega
  have c : (second % 16 * 16 + third / 4) % 16 * 4 + (third % 4 * 64 + fourth) / 64 = third := by
    omega
  have d : (third % 4 * 64 + fourth) % 64 = fourth := by omega
  rw [a, b, c, d]

/-- Three octets make a full group. -/
theorem exists_octets_eq (first second third : UInt8) :
    ∃ a b c d, (a < 64 ∧ b < 64 ∧ c < 64 ∧ d < 64) ∧
      octets [a, b, c, d] = [first, second, third] := by
  have firstLt := first.toNat_lt
  have secondLt := second.toNat_lt
  have thirdLt := third.toNat_lt
  refine ⟨first.toNat / 4, first.toNat % 4 * 16 + second.toNat / 16,
    second.toNat % 16 * 4 + third.toNat / 64, third.toNat % 64,
    ⟨by omega, by omega, by omega, by omega⟩, ?_⟩
  have one : first.toNat / 4 * 4 + (first.toNat % 4 * 16 + second.toNat / 16) / 16 =
      first.toNat := by
    omega
  have two : (first.toNat % 4 * 16 + second.toNat / 16) % 16 * 16 +
      (second.toNat % 16 * 4 + third.toNat / 64) / 4 = second.toNat := by
    omega
  have three : (second.toNat % 16 * 4 + third.toNat / 64) % 4 * 64 + third.toNat % 64 =
      third.toNat := by
    omega
  simp only [octets, one, two, three, UInt8.ofNat_toNat]

/-- Full groups are written one after the other. -/
theorem encode_octets_append (numbers : List Nat) (last : List UInt8)
    (full : numbers.length % 4 = 0) (small : ∀ number ∈ numbers, number < 64) :
    encode (octets numbers ++ last) = numbers.map symbol ++ encode last := by
  fun_induction octets numbers with
  | case1 first second third fourth rest inductionHypothesis =>
      simp only [List.forall_mem_cons] at small
      rcases small with ⟨firstLt, secondLt, thirdLt, fourthLt, restSmall⟩
      have restFull : rest.length % 4 = 0 := by
        simp only [List.length_cons] at full
        omega
      have group := encode_octets_cons firstLt secondLt thirdLt fourthLt (octets rest ++ last)
      rw [inductionHypothesis restFull restSmall] at group
      exact group
  | case2 numbers partly =>
      match numbers with
      | [] => rfl
      | [_] | [_, _] | [_, _, _] => simp at full
      | first :: second :: third :: fourth :: rest => exact (partly _ _ _ _ _ rfl).elim

/-- What is not empty has full groups, and one to three octets after them. -/
theorem exists_octets_append (bytes : List UInt8) (nonempty : bytes ≠ []) :
    ∃ numbers last, bytes = octets numbers ++ last ∧ numbers.length % 4 = 0 ∧
      (∀ number ∈ numbers, number < 64) ∧ last ≠ [] ∧ last.length ≤ 3 := by
  fun_induction encode bytes with
  | case1 => exact absurd rfl nonempty
  | case2 first => exact ⟨[], [first], rfl, rfl, nofun, nofun, by simp⟩
  | case3 first second => exact ⟨[], [first, second], rfl, rfl, nofun, nofun, by simp⟩
  | case4 first second third rest inductionHypothesis =>
      rcases exists_octets_eq first second third with
        ⟨a, b, c, d, ⟨aLt, bLt, cLt, dLt⟩, group⟩
      by_cases ended : rest = []
      · exact ⟨[], [first, second, third], by rw [ended]; rfl, rfl, nofun, nofun, by simp⟩
      · rcases inductionHypothesis ended with ⟨numbers, last, rfl, full, small, more, short⟩
        refine ⟨a :: b :: c :: d :: numbers, last, ?_, ?_, ?_, more, short⟩
        · exact congrArg (· ++ (octets numbers ++ last)) group.symm
        · simp only [List.length_cons]
          omega
        · simp only [List.forall_mem_cons]
          exact ⟨aLt, bLt, cLt, dLt, small⟩

/-- Every group is written with four octets. -/
theorem length_encode (bytes : List UInt8) :
    (encode bytes).length = (bytes.length + 2) / 3 * 4 := by
  fun_induction encode bytes with
  | case1 => rfl
  | case2 | case3 => simp
  | case4 first second third rest inductionHypothesis =>
      simp only [List.length_cons, inductionHypothesis]
      omega

/-! ## The last group -/

/-- The last group is read as symbols and fillers after them. -/
theorem eq_append_of_readLast {start index : Nat} {group result : LastGroup} {text : List UInt8}
    (read : readLast start index group text = .ok result) :
    ∃ symbols count, text = symbols.map Prod.fst ++ List.replicate count filler ∧
      (∀ entry ∈ symbols, value? entry.1 = some entry.2) ∧
      (group.fillers ≠ 0 → symbols = []) ∧
      result.symbols = group.symbols ++ symbols ∧ result.fillers = group.fillers + count := by
  induction text generalizing index group with
  | nil =>
      rcases Except.ok.inj read with rfl
      exact ⟨[], 0, rfl, nofun, fun _ => rfl, group.symbols.append_nil.symm, rfl⟩
  | cons byte text inductionHypothesis =>
      rw [readLast] at read
      by_cases fills : byte = filler
      · rw [if_pos fills] at read
        split at read
        · cases read
        · rcases inductionHypothesis read with ⟨symbols, count, rfl, -, none, same, sum⟩
          rcases none (Nat.succ_ne_zero _) with rfl
          refine ⟨[], count + 1, ?_, nofun, fun _ => rfl, same, ?_⟩
          · rw [fills]
            rfl
          · rw [sum]
            exact Nat.add_right_comm _ _ _
      · rw [if_neg fills] at read
        split at read
        · cases read
        · rename_i unfilled
          cases known : value? byte with
          | none => simp [known] at read
          | some value =>
              rw [known] at read
              rcases inductionHypothesis read with ⟨symbols, count, rfl, each, -, same, sum⟩
              refine ⟨(byte, value) :: symbols, count, rfl, ?_, ?_, ?_, sum⟩
              · exact List.forall_mem_cons.mpr ⟨known, each⟩
              · intro filled
                exact absurd filled unfilled
              · rw [same, List.append_assoc]
                rfl

theorem exists_of_decodeLast {start : Nat} {text bytes : List UInt8}
    (decoded : decodeLast start text = .ok bytes) :
    ∃ symbols count, text = symbols.map Prod.fst ++ List.replicate count filler ∧
      (∀ entry ∈ symbols, value? entry.1 = some entry.2) ∧ 2 ≤ symbols.length ∧
      (symbols.length + count) % 4 = 0 ∧ lastOctets start symbols = .ok bytes := by
  unfold decodeLast at decoded
  cases read : readLast start 0 ⟨[], 0⟩ text with
  | error error => simp [read, bind, Except.bind] at decoded
  | ok group =>
      rcases eq_append_of_readLast read with ⟨symbols, count, text_eq, each, -, same, sum⟩
      rw [List.nil_append] at same
      rw [Nat.zero_add] at sum
      rw [read] at decoded
      change (if _ then _ else if _ then _ else _) = _ at decoded
      rw [same, sum] at decoded
      split at decoded
      · cases decoded
      · rename_i enough
        split at decoded
        · cases decoded
        · rename_i aligned
          exact ⟨symbols, count, text_eq, each, Nat.le_of_not_lt enough,
            Decidable.not_not.mp aligned, decoded⟩

/-- Two symbols with four bits to spare are one octet. -/
theorem encode_of_two_symbols {first second : Nat} (firstLt : first < 64) (secondLt : second < 64)
    (spare : second % 16 = 0) :
    encode [UInt8.ofNat (first * 4 + second / 16)] =
      [symbol first, symbol second, filler, filler] := by
  have one := toNat_firstOctet firstLt secondLt
  have a : (first * 4 + second / 16) / 4 = first := by omega
  have b : (first * 4 + second / 16) % 4 * 16 = second := by omega
  rw [encode, one, a, b]

/-- Three symbols with two bits to spare are two octets. -/
theorem encode_of_three_symbols {first second third : Nat} (firstLt : first < 64)
    (secondLt : second < 64) (thirdLt : third < 64) (spare : third % 4 = 0) :
    encode [UInt8.ofNat (first * 4 + second / 16), UInt8.ofNat (second % 16 * 16 + third / 4)] =
      [symbol first, symbol second, symbol third, filler] := by
  have one := toNat_firstOctet firstLt secondLt
  have two := toNat_secondOctet second thirdLt
  have a : (first * 4 + second / 16) / 4 = first := by omega
  have b : (first * 4 + second / 16) % 4 * 16 + (second % 16 * 16 + third / 4) / 16 = second := by
    omega
  have c : (second % 16 * 16 + third / 4) % 16 * 4 = third := by omega
  rw [encode, one, two, a, b, c]

/-- A last group is written with the symbols and fillers that it was read
from. -/
theorem encode_of_lastOctets {start count : Nat} {symbols : List (UInt8 × Nat)}
    {bytes : List UInt8} (each : ∀ entry ∈ symbols, value? entry.1 = some entry.2)
    (enough : 2 ≤ symbols.length) (full : symbols.length + count = 4)
    (decoded : lastOctets start symbols = .ok bytes) :
    encode bytes = symbols.map Prod.fst ++ List.replicate count filler := by
  match symbols with
  | [] | [_] => simp at enough
  | [(one, first), (two, second)] =>
      simp only [List.forall_mem_cons] at each
      rcases symbol_of_value? each.1 with ⟨rfl, firstLt⟩
      rcases symbol_of_value? each.2.1 with ⟨rfl, secondLt⟩
      obtain rfl : count = 2 := Nat.add_left_cancel full
      rw [lastOctets] at decoded
      split at decoded
      · rename_i spare
        rcases Except.ok.inj decoded with rfl
        exact encode_of_two_symbols firstLt secondLt spare
      · cases decoded
  | [(one, first), (two, second), (three, third)] =>
      simp only [List.forall_mem_cons] at each
      rcases symbol_of_value? each.1 with ⟨rfl, firstLt⟩
      rcases symbol_of_value? each.2.1 with ⟨rfl, secondLt⟩
      rcases symbol_of_value? each.2.2.1 with ⟨rfl, thirdLt⟩
      obtain rfl : count = 1 := Nat.add_left_cancel full
      rw [lastOctets] at decoded
      split at decoded
      · rename_i spare
        rcases Except.ok.inj decoded with rfl
        exact encode_of_three_symbols firstLt secondLt thirdLt spare
      · cases decoded
  | [(one, first), (two, second), (three, third), (four, fourth)] =>
      simp only [List.forall_mem_cons] at each
      rcases symbol_of_value? each.1 with ⟨rfl, firstLt⟩
      rcases symbol_of_value? each.2.1 with ⟨rfl, secondLt⟩
      rcases symbol_of_value? each.2.2.1 with ⟨rfl, thirdLt⟩
      rcases symbol_of_value? each.2.2.2.1 with ⟨rfl, fourthLt⟩
      obtain rfl : count = 0 := Nat.add_left_cancel full
      rcases Except.ok.inj decoded with rfl
      exact encode_octets_cons firstLt secondLt thirdLt fourthLt []
  | _ :: _ :: _ :: _ :: _ :: _ =>
      simp only [List.length_cons] at full
      omega

/-- Two symbols and two fillers are read as two symbols. -/
theorem decodeLast_two_symbols (start : Nat) {first second : Nat} (firstLt : first < 64)
    (secondLt : second < 64) :
    decodeLast start [symbol first, symbol second, filler, filler] =
      lastOctets start [(symbol first, first), (symbol second, second)] := by
  simp [decodeLast, readLast, symbol_ne_filler _ firstLt, symbol_ne_filler _ secondLt,
    value?_symbol _ firstLt, value?_symbol _ secondLt, bind, Except.bind]

theorem decodeLast_three_symbols (start : Nat) {first second third : Nat} (firstLt : first < 64)
    (secondLt : second < 64) (thirdLt : third < 64) :
    decodeLast start [symbol first, symbol second, symbol third, filler] =
      lastOctets start [(symbol first, first), (symbol second, second), (symbol third, third)] := by
  simp [decodeLast, readLast, symbol_ne_filler _ firstLt, symbol_ne_filler _ secondLt,
    symbol_ne_filler _ thirdLt, value?_symbol _ firstLt, value?_symbol _ secondLt,
    value?_symbol _ thirdLt, bind, Except.bind]

theorem decodeLast_four_symbols (start : Nat) {first second third fourth : Nat}
    (firstLt : first < 64) (secondLt : second < 64) (thirdLt : third < 64)
    (fourthLt : fourth < 64) :
    decodeLast start [symbol first, symbol second, symbol third, symbol fourth] =
      .ok (octets [first, second, third, fourth]) := by
  simp [decodeLast, readLast, lastOctets, symbol_ne_filler _ firstLt, symbol_ne_filler _ secondLt,
    symbol_ne_filler _ thirdLt, symbol_ne_filler _ fourthLt, value?_symbol _ firstLt,
    value?_symbol _ secondLt, value?_symbol _ thirdLt, value?_symbol _ fourthLt, bind, Except.bind]

/-- One to three octets are read from the group that they are written as. -/
theorem decodeLast_encode (start : Nat) {bytes : List UInt8} (nonempty : bytes ≠ [])
    (short : bytes.length ≤ 3) : decodeLast start (encode bytes) = .ok bytes := by
  match bytes with
  | [] => exact absurd rfl nonempty
  | [first] =>
      have firstLt := first.toNat_lt
      have spare : first.toNat % 4 * 16 % 16 = 0 := Nat.mul_mod_left _ _
      have one : first.toNat / 4 * 4 + first.toNat % 4 * 16 / 16 = first.toNat := by omega
      rw [encode, decodeLast_two_symbols start (by omega) (by omega), lastOctets, if_pos spare, one,
        UInt8.ofNat_toNat]
  | [first, second] =>
      have firstLt := first.toNat_lt
      have secondLt := second.toNat_lt
      have spare : second.toNat % 16 * 4 % 4 = 0 := Nat.mul_mod_left _ _
      have one : first.toNat / 4 * 4 + (first.toNat % 4 * 16 + second.toNat / 16) / 16 =
          first.toNat := by
        omega
      have two : (first.toNat % 4 * 16 + second.toNat / 16) % 16 * 16 +
          second.toNat % 16 * 4 / 4 = second.toNat := by
        omega
      rw [encode, decodeLast_three_symbols start (by omega) (by omega) (by omega), lastOctets,
        if_pos spare, one, two, UInt8.ofNat_toNat, UInt8.ofNat_toNat]
  | [first, second, third] =>
      rcases exists_octets_eq first second third with
        ⟨a, b, c, d, ⟨aLt, bLt, cLt, dLt⟩, group⟩
      have written := encode_octets_cons aLt bLt cLt dLt []
      rw [List.append_nil, group] at written
      rw [written, encode, decodeLast_four_symbols start aLt bLt cLt dLt, group]
  | _ :: _ :: _ :: _ :: _ =>
      simp only [List.length_cons] at short
      omega

/-! ## Texts -/

/-- What comes before the last group are full groups. -/
theorem lastLength_spec {length : Nat} (positive : 0 < length) :
    (length - lastLength length) % 4 = 0 ∧ lastLength length ≤ length ∧ lastLength length ≤ 4 := by
  unfold lastLength
  split <;> omega

/-- A text is read in two parts, the full groups and the last one. -/
theorem decode_eq_ok_iff_parts {text bytes : List UInt8} (nonempty : text ≠ []) :
    decode text = .ok bytes ↔
      loneStranger? text = none ∧ ∃ numbers last,
        values (text.take (text.length - lastLength text.length)) = .ok numbers ∧
        decodeLast (text.length - lastLength text.length)
          (text.drop (text.length - lastLength text.length)) = .ok last ∧
        octets numbers ++ last = bytes := by
  unfold decode
  rw [if_neg nonempty]
  cases lone : loneStranger? text with
  | some byte => simp
  | none =>
      cases read : values (text.take (text.length - lastLength text.length)) with
      | error error => simp [read, bind, Except.bind]
      | ok numbers =>
          cases ended : decodeLast (text.length - lastLength text.length)
              (text.drop (text.length - lastLength text.length)) with
          | error error => simp [read, ended, bind, Except.bind]
          | ok last => simp [read, ended, bind, Except.bind, pure, Except.pure]

/-- What is read was written as the text. -/
theorem eq_encode_of_decode {text bytes : List UInt8} (decoded : decode text = .ok bytes) :
    text = encode bytes := by
  by_cases empty : text = []
  · rw [empty] at decoded ⊢
    rcases Except.ok.inj decoded with rfl
    rfl
  · rcases lastLength_spec (List.length_pos_iff.mpr empty) with ⟨aligned, within, short⟩
    rcases (decode_eq_ok_iff_parts empty).mp decoded with
      ⟨-, numbers, last, read, ended, rfl⟩
    have split := List.take_append_drop (text.length - lastLength text.length) text
    have rest : (text.drop (text.length - lastLength text.length)).length =
        lastLength text.length := by
      rw [List.length_drop]
      omega
    have front := List.length_take_of_le (Nat.sub_le text.length (lastLength text.length))
    rcases values_eq_ok_iff.mp read with ⟨small, numbers_eq⟩
    rcases exists_of_decodeLast ended with
      ⟨symbols, count, symbols_eq, each, enough, filled, group⟩
    rw [numbers_eq, List.length_map] at front
    rw [symbols_eq, List.length_append, List.length_map, List.length_replicate] at rest
    -- The last group has two symbols at least and four at most, so it is full.
    have four : symbols.length + count = 4 := by omega
    rw [← front] at aligned
    rw [encode_octets_append numbers last aligned small,
      encode_of_lastOctets each enough four group, ← numbers_eq, ← symbols_eq, split]

/-- What is written is read. -/
theorem decode_encode (bytes : List UInt8) : decode (encode bytes) = .ok bytes := by
  by_cases empty : bytes = []
  · rw [empty]
    rfl
  · rcases exists_octets_append bytes empty with ⟨numbers, last, rfl, full, small, more, short⟩
    have lastFour : (encode last).length = 4 := by
      have some := List.length_pos_iff.mpr more
      rw [length_encode]
      omega
    rw [encode_octets_append numbers last full small]
    have whole : (numbers.map symbol ++ encode last).length = numbers.length + 4 := by
      rw [List.length_append, List.length_map, lastFour]
    have nonempty : numbers.map symbol ++ encode last ≠ [] := by
      apply List.ne_nil_of_length_pos
      omega
    have start : (numbers.map symbol ++ encode last).length -
        lastLength (numbers.map symbol ++ encode last).length = (numbers.map symbol).length := by
      have aligned : (numbers.length + 4) % 4 = 0 := by omega
      rw [whole, lastLength, if_pos aligned, List.length_map, Nat.add_sub_cancel]
    have calm : loneStranger? (numbers.map symbol ++ encode last) = none := by
      have several : ¬ (numbers.length + 4) % 4 = 1 := by omega
      rw [loneStranger?, whole, if_neg several]
    rw [decode_eq_ok_iff_parts nonempty, start, List.take_left, List.drop_left]
    exact ⟨calm, numbers, last, values_eq_ok_iff.mpr ⟨small, rfl⟩,
      decodeLast_encode _ more short, rfl⟩

/-- A text stands for what it is written for, and for nothing else. -/
theorem decode_eq_ok_iff {text bytes : List UInt8} :
    decode text = .ok bytes ↔ text = encode bytes := by
  constructor
  · exact eq_encode_of_decode
  · rintro rfl
    exact decode_encode bytes

/-- What holds of the symbols and of the filler holds of a text. -/
theorem forall_encode {holds : UInt8 → Prop} (symbols : ∀ value < 64, holds (symbol value))
    (fill : holds filler) (bytes : List UInt8) : ∀ byte ∈ encode bytes, holds byte := by
  -- A number that is too large has the symbol of the last one.
  have known : ∀ value, holds (symbol value) := by
    intro value
    by_cases small : value < 64
    · exact symbols value small
    · have last : symbol value = symbol 63 := by
        unfold symbol
        rw [if_neg (by omega), if_neg (by omega), if_neg (by omega), if_neg (by omega)]
        rfl
      rw [last]
      exact symbols 63 (by decide)
  fun_induction encode bytes with
  | case1 => nofun
  | case2 | case3 => simp [known, fill]
  | case4 first second third rest inductionHypothesis =>
      simp only [List.forall_mem_cons, known, true_and]
      exact inductionHypothesis

/-- A text has no octet outside ASCII. -/
theorem encode_lt_128 (bytes : List UInt8) : ∀ byte ∈ encode bytes, byte < 128 :=
  forall_encode (by decide) (by decide) bytes

/-- The octets of the text are the octets that it is made of. -/
theorem ofString_encodeText (bytes : List UInt8) :
    Utf8.ofString (encodeText bytes) = encode bytes := by
  have ascii : ∀ octet : Fin 128,
      String.utf8EncodeChar (Char.ofNat octet.val) = [UInt8.ofNat octet.val] := by
    decide
  have single : ∀ byte ∈ encode bytes, String.utf8EncodeChar (Char.ofNat byte.toNat) = [byte] := by
    intro byte mem
    have same := ascii ⟨byte.toNat, UInt8.lt_iff_toNat_lt.mp (encode_lt_128 bytes byte mem)⟩
    rwa [UInt8.ofNat_toNat] at same
  rw [Utf8.ofString, encodeText, String.toList_ofList, Utf8.encode, List.flatMap_map,
    List.flatMap_def, List.map_congr_left single, ← List.flatMap_def, List.flatMap_singleton']

/-- A string stands for what it is written for, and for nothing else. -/
theorem decode_ofString_eq_ok_iff {text : String} {bytes : List UInt8} :
    decode (Utf8.ofString text) = .ok bytes ↔ text = encodeText bytes := by
  rw [decode_eq_ok_iff, ← ofString_encodeText]
  constructor
  · exact Utf8.ofString_injective
  · rintro rfl
    rfl

end Base64

end OneTimePad
