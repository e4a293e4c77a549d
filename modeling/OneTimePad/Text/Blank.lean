/-!
# White space

The twenty-five characters that Unicode calls white space, and the text that
is left when they are taken from both ends.
-/

namespace OneTimePad.Text

/-- The code points that are white space, as closed ranges. -/
def blankRanges : List (Nat × Nat) :=
  [(0x09, 0x0d), (0x20, 0x20), (0x85, 0x85), (0xa0, 0xa0), (0x1680, 0x1680),
    (0x2000, 0x200a), (0x2028, 0x2029), (0x202f, 0x202f), (0x205f, 0x205f), (0x3000, 0x3000)]

/-- Whether a character is white space. -/
def isBlank (char : Char) : Bool :=
  blankRanges.any fun range => range.1 ≤ char.toNat && char.toNat ≤ range.2

/-- The text without the white space at its ends. -/
def trim (chars : List Char) : List Char :=
  ((chars.dropWhile isBlank).reverse.dropWhile isBlank).reverse

/-- White space around a text goes, when the text has none at its own ends. -/
theorem trim_append {before body after : List Char}
    (blankBefore : before.all isBlank) (blankAfter : after.all isBlank)
    (first : body.head?.any isBlank = false) (last : body.getLast?.any isBlank = false) :
    trim (before ++ body ++ after) = body := by
  have dropBlank : ∀ (blank rest : List Char), blank.all isBlank →
      (blank ++ rest).dropWhile isBlank = rest.dropWhile isBlank := by
    intro blank rest allBlank
    induction blank with
    | nil => rfl
    | cons char blank ih =>
        simp only [List.all_cons, Bool.and_eq_true] at allBlank
        simp [allBlank.1, ih allBlank.2]
  have stays : ∀ chars : List Char, chars.head?.any isBlank = false →
      chars.dropWhile isBlank = chars := by
    intro chars head
    cases chars with
    | nil => rfl
    | cons char chars =>
        simp only [List.head?_cons, Option.any_some] at head
        simp [head]
  unfold trim
  rw [List.append_assoc, dropBlank _ _ blankBefore]
  cases body with
  | nil =>
      have gone := dropBlank after [] blankAfter
      simp only [List.append_nil, List.dropWhile_nil] at gone
      simp [gone]
  | cons char body =>
      rw [stays (char :: body ++ after) (by simpa using first), List.reverse_append,
        dropBlank _ _ (by simpa using blankAfter),
        stays _ (by rw [List.head?_reverse]; exact last), List.reverse_reverse]

end OneTimePad.Text
