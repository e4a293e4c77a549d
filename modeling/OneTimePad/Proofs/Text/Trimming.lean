import OneTimePad.Text.Blank

/-!
# Trimming

What is left when the white space at both ends of a text is taken away: the only
part of the text that has white space around it and none at its own ends.
-/

namespace OneTimePad.Text

/-- The body of a text, with nothing but white space around it and none at its
own ends. -/
structure Trims (text body : List Char) : Prop where
  around : ∃ before after, text = before ++ body ++ after ∧ before.all isBlank ∧ after.all isBlank
  first : body.head?.any isBlank = false
  last : body.getLast?.any isBlank = false

theorem any_head?_dropWhile (chars : List Char) :
    (chars.dropWhile isBlank).head?.any isBlank = false := by
  have fails := List.head?_dropWhile_not isBlank chars
  cases first : (chars.dropWhile isBlank).head? with
  | none => rfl
  | some char =>
      rw [first] at fails
      exact fails

/-- A text without the white space at its end. -/
theorem exists_dropWhile_reverse (chars : List Char) :
    ∃ after, chars = (chars.reverse.dropWhile isBlank).reverse ++ after ∧ after.all isBlank := by
  refine ⟨(chars.reverse.takeWhile isBlank).reverse, ?_, ?_⟩
  · rw [← List.reverse_append, List.takeWhile_append_dropWhile, List.reverse_reverse]
  · rw [List.all_reverse]
    exact List.all_takeWhile

theorem trims_trim (text : List Char) : Trims text (trim text) := by
  rcases exists_dropWhile_reverse (text.dropWhile isBlank) with ⟨after, rest, blankAfter⟩
  refine ⟨⟨text.takeWhile isBlank, after, ?_, List.all_takeWhile, blankAfter⟩, ?_, ?_⟩
  · rw [trim, List.append_assoc, ← rest, List.takeWhile_append_dropWhile]
  · have first := any_head?_dropWhile text
    rw [rest] at first
    change (trim text ++ after).head?.any isBlank = false at first
    cases body : trim text with
    | nil => rfl
    | cons char chars =>
        rw [body] at first
        exact first
  · rw [trim, List.getLast?_reverse]
    exact any_head?_dropWhile _

theorem trim_eq_iff {text body : List Char} : trim text = body ↔ Trims text body := by
  constructor
  · rintro rfl
    exact trims_trim text
  · rintro ⟨⟨before, after, rfl, blankBefore, blankAfter⟩, first, last⟩
    exact trim_append blankBefore blankAfter first last

end OneTimePad.Text
