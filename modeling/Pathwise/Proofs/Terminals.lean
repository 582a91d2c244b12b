import Mathlib.Data.List.TakeWhile
import Pathwise.Console

/-!
# What terminals write

What follows from the promises of a terminal without colour. No tab and no dropped control comes
out of it, and what is visible of a text gets through. A text comes out as it is if it has neither
tabs nor dropped controls, and if none of its lines has blanks at its end that may be lost, because
the line is too long. The simple terminal keeps the promises, whether it has a limit for blanks or
not.
-/

namespace Pathwise

/-- A text is a line, or two texts with a line feed between them. -/
@[elab_as_elim] theorem Text.lines_induction {motive : Text → Prop}
    (single : ∀ line, '\n' ∉ line → motive line)
    (below : ∀ first rest, motive first → motive rest → motive (first ++ '\n' :: rest))
    (text : Text) : motive text := by
  -- The induction collects the characters of the first line until a line feed ends it.
  suffices collected : ∀ line, '\n' ∉ line → motive (line ++ text) from
    collected [] List.not_mem_nil
  induction text with
  | nil =>
    intro line without
    rw [List.append_nil]
    exact single line without
  | cons c rest ih =>
    intro line without
    by_cases feed : c = '\n'
    · subst feed
      exact below line rest (single line without) (ih [] List.not_mem_nil)
    · rw [List.append_cons]
      exact ih (line ++ [c]) (by simp [without, Ne.symm feed])

namespace Terminal

/-! ### Filling and trimming a line -/

namespace Filled

variable {line filled : Text}

theorem mem {c : Char} (fills : Filled line filled) (member : c ∈ filled) :
    c = ' ' ∨ c ∈ line ∧ c ≠ '\t' := by
  induction fills with
  | nil => cases member
  | tab more rest ih =>
    rcases List.mem_append.mp member with spaces | later
    · exact .inl (List.eq_of_mem_replicate spaces)
    · exact (ih later).imp_right fun found => ⟨.tail _ found.1, found.2⟩
  | char other rest ih =>
    rcases List.mem_cons.mp member with rfl | later
    · exact .inr ⟨.head _, other⟩
    · exact (ih later).imp_right fun found => ⟨.tail _ found.1, found.2⟩

/-- Filling concerns blanks only. -/
theorem filter_visible (fills : Filled line filled) :
    filled.filter (!Text.isBlank ·) = line.filter (!Text.isBlank ·) := by
  have space : Text.isBlank ' ' = true := by decide
  have tab : Text.isBlank '\t' = true := by decide
  induction fills with
  | nil => rfl
  | tab more rest ih => simp [ih, space, tab]
  | char other rest ih => simp only [List.filter_cons, ih]

theorem eq_self (fills : Filled line filled) (without : '\t' ∉ line) : filled = line := by
  induction fills with
  | nil => rfl
  | tab more rest ih => exact absurd (.head _) without
  | char other rest ih => rw [ih fun later => without (.tail _ later)]

end Filled

/-- A line that loses no blanks where it is written: it has room, or no blank at its end. -/
def FitsLine (columns : Nat) (line : Text) : Prop :=
  line.length ≤ columns ∨ ∀ c ∈ line.getLast?, Text.isBlank c = false

namespace Trimmed

variable {columns : Nat} {line row : Text}

theorem filter_visible (trims : Trimmed columns line row) :
    row.filter (!Text.isBlank ·) = line.filter (!Text.isBlank ·) := by
  obtain ⟨blanks, rfl, blank, -⟩ := trims
  have unseen : blanks.filter (!Text.isBlank ·) = [] := by simpa using blank
  rw [List.filter_append, unseen, List.append_nil]

theorem eq_self (trims : Trimmed columns line row) (fits : FitsLine columns line) :
    row = line := by
  obtain ⟨blanks, rfl, blank, beyond⟩ := trims
  by_cases lost : blanks = []
  · rw [lost, List.append_nil]
  · exfalso
    have long := beyond lost
    have longer := List.length_pos_iff.mpr lost
    rcases fits with room | visible
    · rw [List.length_append] at room
      omega
    · have last := List.getLast?_eq_some_getLast lost
      have ends := visible (blanks.getLast lost) (by simp [List.getLast?_append, last])
      rw [blank _ (List.getLast_mem lost)] at ends
      cases ends

end Trimmed

/-! ### Writing a text -/

/-- Without colour, the theme has no part in what is written of a result. -/
theorem Uncoloured.result_eq {terminal : Terminal} (uncoloured : terminal.Uncoloured)
    (theme : Theme) (text : Text) :
    Console.result ⟨theme, terminal⟩ text = terminal.written text := by
  rw [Console.result, uncoloured]
  simp [textOf]

/-- A text whose characters are all written. -/
def Clean (text : Text) : Prop :=
  ∀ c ∈ text, c ≠ '\t' ∧ isDropped c = false

/-- A text whose lines lose no blanks. -/
def Fits (columns : Nat) (text : Text) : Prop :=
  ∀ line ∈ text.lines, FitsLine columns line

namespace Plain

variable {terminal : Terminal} {columns : Nat}

theorem clean_written (plain : terminal.Plain columns) (text : Text) :
    Clean (terminal.written text) := by
  induction text using Text.lines_induction with
  | single line single =>
    obtain ⟨filled, row, fills, ⟨blanks, rfl, -, -⟩, written⟩ := plain.row single
    intro c member
    rw [written, Text.line, List.mem_append, List.mem_singleton] at member
    rcases member with inside | rfl
    · rcases fills.mem (List.mem_append_left blanks inside) with rfl | ⟨kept, noTab⟩
      · decide
      · exact ⟨noTab, by simpa using (List.mem_filter.mp kept).2⟩
    · decide
  | below first rest above below =>
    rw [plain.lines]
    exact fun c member => (List.mem_append.mp member).elim (above c) (below c)

/-- What is visible of a text comes out, apart from dropped controls. -/
theorem filter_written (plain : terminal.Plain columns) (text : Text) :
    (terminal.written text).filter (!Text.isBlank ·)
      = text.filter fun c => !Text.isBlank c && !isDropped c := by
  have feed : Text.isBlank '\n' = true := by decide
  induction text using Text.lines_induction with
  | single line single =>
    obtain ⟨filled, row, fills, trims, written⟩ := plain.row single
    calc
      (terminal.written line).filter (!Text.isBlank ·) = row.filter (!Text.isBlank ·) := by
        simp [written, Text.line, feed]
      _ = (line.filter (!isDropped ·)).filter (!Text.isBlank ·) :=
        trims.filter_visible.trans fills.filter_visible
      _ = line.filter fun c => !Text.isBlank c && !isDropped c := List.filter_filter
  | below first rest above below =>
    rw [plain.lines, List.filter_append, above, below]
    simp [feed]

/-- A clean text whose lines lose no blanks comes out as it is. -/
theorem written_eq_line (plain : terminal.Plain columns) {text : Text} (clean : Clean text)
    (fits : Fits columns text) : terminal.written text = Text.line text := by
  induction text using Text.lines_induction with
  | single line single =>
    obtain ⟨filled, row, fills, trims, written⟩ := plain.row single
    have kept : line.filter (!isDropped ·) = line :=
      List.filter_eq_self.mpr fun c member => by simp [(clean c member).2]
    rw [kept] at fills
    obtain rfl := fills.eq_self fun tab => (clean '\t' tab).1 rfl
    rw [written, trims.eq_self (fits _ (by simp [Text.lines_of_notMem single]))]
  | below first rest above below =>
    rw [Fits, Text.lines_append_cons, List.forall_mem_append] at fits
    rw [Clean, List.forall_mem_append, List.forall_mem_cons] at clean
    rw [plain.lines, above clean.1 fits.1, below clean.2.2 fits.2]
    simp [Text.line]

end Plain

/-! ### The simple terminal -/

theorem filled_fillTabs (width : Char → Nat) (column : Nat) (line : Text) :
    Filled line (fillTabs width column line) := by
  fun_induction fillTabs width column line with
  | case1 => exact .nil
  | case2 column rest gap ih =>
    have wide : 1 ≤ gap := by
      simp only [gap, tabStop]
      omega
    have fills := Filled.tab (gap - 1) ih
    rwa [Nat.sub_add_cancel wide] at fills
  | case3 column c rest other ih => exact .char other ih

theorem trimmed_trimBeyond {limit : Option Nat} {columns : Nat}
    (enough : ∀ bound ∈ limit, columns ≤ bound) (line : Text) :
    Trimmed columns line (trimBeyond limit line) := by
  cases limit with
  | none => exact ⟨[], (List.append_nil line).symm, List.forall_mem_nil _, absurd rfl⟩
  | some bound =>
    refine ⟨((line.drop bound).reverse.takeWhile Text.isBlank).reverse, ?_, ?_, ?_⟩
    · rw [trimBeyond, List.append_assoc, ← List.reverse_append, List.takeWhile_append_dropWhile,
        List.reverse_reverse, List.take_append_drop]
    · intro c member
      exact List.mem_takeWhile_imp (List.mem_reverse.mp member)
    · intro lost
      have beyond : bound < line.length := by
        refine Nat.lt_of_not_le fun short => lost ?_
        rw [List.drop_of_length_le short]
        rfl
      calc
        columns ≤ bound := enough bound rfl
        _ = (line.take bound).length := by
          rw [List.length_take, Nat.min_eq_left (Nat.le_of_lt beyond)]
        _ ≤ (trimBeyond (some bound) line).length := by simp [trimBeyond]

theorem uncoloured_simple (limit : Option Nat) (width : Char → Nat) :
    (simple limit width).Uncoloured := by
  intro pieces
  simp [simple, written, textOf]

/-- The simple terminal keeps its promises. If it has a limit for blanks, it has at most as many
columns. -/
theorem plain_simple {limit : Option Nat} {columns : Nat}
    (enough : ∀ bound ∈ limit, columns ≤ bound) (width : Char → Nat) :
    (simple limit width).Plain columns where
  uncoloured := uncoloured_simple limit width
  lines first rest := by
    have feed : isDropped '\n' = false := by decide
    simp [simple, written, textOf, feed]
  row {line} single := by
    have kept : '\n' ∉ line.filter (!isDropped ·) := fun feed =>
      single (List.mem_filter.mp feed).1
    refine ⟨_, _, filled_fillTabs width 0 _, trimmed_trimBeyond enough _, ?_⟩
    simp [simple, written, textOf, Text.lines_of_notMem kept]

-- A limit costs the blank that stands beyond it, and only that one.
example : (simple (some 2) fun _ => 1).written "ab \n  c".toList = "ab\n  c\n".toList := by decide

end Terminal

end Pathwise
