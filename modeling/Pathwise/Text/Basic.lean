/-!
# Text

A text is the list of its characters, so that every rule on paths is a rule on lists and can be
proved by recursion on them. Strings occur at the edge of the program only. A class of characters is
given by the spans of code points that it holds; the blanks, which may surround a name without
belonging to it, are the first of these classes.
-/

namespace Pathwise

/-- A sequence of Unicode scalar values. -/
abbrev Text := List Char

namespace Text

/-- The pieces between line feeds, empty ones included. -/
def lines (text : Text) : List Text :=
  text.splitOn '\n'

/-- The text with a line feed after it. -/
def line (text : Text) : Text :=
  text ++ ['\n']

theorem lines_of_notMem {text : Text} (single : '\n' ∉ text) : text.lines = [text] := by
  rw [lines, List.splitOn_eq_splitOnP, List.splitOnP_eq_singleton]
  intro c member
  exact beq_eq_false_iff_ne.mpr fun same => single (same ▸ member)

@[simp] theorem lines_append_cons (first rest : Text) :
    Text.lines (first ++ '\n' :: rest) = first.lines ++ rest.lines := by
  simp only [lines, List.splitOn_eq_splitOnP]
  exact List.splitOnP_append_cons first rest rfl

/-- The text without the given ending, if it has it. -/
def withoutEnding (text ending : Text) : Text :=
  if ending.isSuffixOf text then text.take (text.length - ending.length) else text

@[simp] theorem withoutEnding_nil (text : Text) : text.withoutEnding [] = text := by
  simp [withoutEnding]

@[simp] theorem withoutEnding_append (text ending : Text) :
    Text.withoutEnding (text ++ ending) ending = text := by
  simp [withoutEnding]

/-- An ending that is absent is not removed. -/
theorem withoutEnding_of_not_suffix {text ending : Text} (h : ¬ ending <:+ text) :
    text.withoutEnding ending = text := by
  simp [withoutEnding, List.isSuffixOf_iff_suffix, h]

/-! ### Classes of characters -/

/-- First and last code points of the spans that make up a character class. -/
abbrev Spans := List (Nat × Nat)

/-- Whether the character's code point lies in one of the spans. -/
def Spans.contains (spans : Spans) (c : Char) : Bool :=
  spans.any fun (first, last) => first ≤ c.toNat && c.toNat ≤ last

theorem Spans.contains_iff {spans : Spans} {c : Char} :
    spans.contains c = true ↔ ∃ span ∈ spans, span.1 ≤ c.toNat ∧ c.toNat ≤ span.2 := by
  simp [Spans.contains]

/-- White space of the standard, together with the four information separators. -/
def blanks : Spans := [
  (0x9, 0xD), (0x1C, 0x20), (0x85, 0x85), (0xA0, 0xA0), (0x1680, 0x1680), (0x2000, 0x200A),
  (0x2028, 0x2029), (0x202F, 0x202F), (0x205F, 0x205F), (0x3000, 0x3000)]

def isBlank (c : Char) : Bool :=
  blanks.contains c

/-- The text without the blanks at its two ends. -/
def trim (text : Text) : Text :=
  ((text.dropWhile isBlank).reverse.dropWhile isBlank).reverse

end Text

end Pathwise
