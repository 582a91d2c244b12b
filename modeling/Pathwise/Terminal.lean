import Pathwise.Text.Basic

/-!
# Terminals

The characters of a text are put on a terminal by a library that is not described here. A terminal
is any function from the pieces of a text to the characters that come out of it; what is promised of
such a function is stated as properties that a terminal may have. The program hands its texts over
as a whole and asks that no line of them be broken or cropped. Still not all characters get through:
some controls are left out, tabs are filled up with spaces, and white space at the end of a line is
not sure to be written where it stands beyond the last column.

The simple terminal at the end has these properties.
-/

namespace Pathwise

inductive Colour where
  | white
  | red
  | green
  | brightGreen
  | yellow
  | magenta
  | cyan
  deriving DecidableEq

/-- A piece of a text and the colour that it should have. -/
structure Piece where
  text : Text
  colour : Option Colour
  deriving DecidableEq

/-- The text that consists of some pieces. -/
def textOf (pieces : List Piece) : Text :=
  pieces.flatMap Piece.text

structure Terminal where
  /-- What comes out if the pieces of a text are put on the terminal. -/
  write : List Piece → Text

namespace Terminal

/-- What comes out of a text that no colour is asked for. -/
def written (terminal : Terminal) (text : Text) : Text :=
  terminal.write [⟨text, none⟩]

/-! ### What is promised of a terminal -/

/-- Bell, backspace, vertical tab, form feed and carriage return are left out. -/
def isDropped (c : Char) : Bool :=
  c.toNat == 0x7 || c.toNat == 0x8 || c.toNat == 0xB || c.toNat == 0xC || c.toNat == 0xD

/-- The second text is the first one with one or more spaces for each tab. -/
inductive Filled : Text → Text → Prop
  | nil : Filled [] []
  | tab (more : Nat) {line filled : Text} (rest : Filled line filled) :
    Filled ('\t' :: line) (List.replicate (more + 1) ' ' ++ filled)
  | char {c : Char} {line filled : Text} (other : c ≠ '\t') (rest : Filled line filled) :
    Filled (c :: line) (c :: filled)

/-- The second text is the first one, apart from blanks at its end that stand beyond the last
column. -/
def Trimmed (columns : Nat) (line row : Text) : Prop :=
  ∃ blanks, line = row ++ blanks ∧ (∀ c ∈ blanks, Text.isBlank c = true) ∧
    (blanks ≠ [] → columns ≤ row.length)

/-- A terminal without colour does not care which colours are asked for. -/
def Uncoloured (terminal : Terminal) : Prop :=
  ∀ pieces, terminal.write pieces = terminal.written (textOf pieces)

/-- What is promised of a terminal without colour that has so many columns. -/
structure Plain (terminal : Terminal) (columns : Nat) : Prop where
  uncoloured : terminal.Uncoloured
  /-- Lines are written one below the other. -/
  lines (first rest : Text) :
    terminal.written (first ++ '\n' :: rest) = terminal.written first ++ terminal.written rest
  /-- A line is written in one row, without controls and with spaces for its tabs. -/
  row {line : Text} (single : '\n' ∉ line) :
    ∃ filled row, Filled (line.filter (!isDropped ·)) filled ∧ Trimmed columns filled row ∧
      terminal.written line = Text.line row

/-! ### A simple terminal -/

/-- Tab stops are eight columns apart. -/
def tabStop : Nat := 8

/-- The line with spaces up to the next tab stop for its tabs, if its first character stands in the
given column and each character takes as many columns as its width. -/
def fillTabs (width : Char → Nat) (column : Nat) : Text → Text
  | [] => []
  | c :: rest =>
    if c = '\t' then
      let gap := tabStop - column % tabStop
      List.replicate gap ' ' ++ fillTabs width (column + gap) rest
    else c :: fillTabs width (column + width c) rest

/-- The line without the blanks at its end that stand beyond the limit, if there is one. -/
def trimBeyond (limit : Option Nat) (line : Text) : Text :=
  match limit with
  | some columns =>
    line.take columns ++ ((line.drop columns).reverse.dropWhile Text.isBlank).reverse
  | none => line

/-- A terminal without colour. Versions of a library may differ in whether they have a limit for
blanks. -/
def simple (limit : Option Nat) (width : Char → Nat) : Terminal where
  write pieces :=
    (Text.lines ((textOf pieces).filter (!isDropped ·))).flatMap fun line =>
      Text.line (trimBeyond limit (fillTabs width 0 line))

end Terminal

end Pathwise
