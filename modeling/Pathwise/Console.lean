import Pathwise.Terminal

/-!
# Console output

How results and status lines are put on a terminal. A result has the colour of the theme. Of a
status line only the icon is coloured, in a colour that belongs to the kind of the line.
-/

namespace Pathwise

/-- Colour themes. They differ in the colour of results. -/
inductive Theme where
  | manhattan
  | green
  deriving DecidableEq

namespace Theme

def name : Theme → Text
  | manhattan => "manhattan".toList
  | green => "green".toList

def ofName? (name : Text) : Option Theme :=
  [manhattan, green].find? (·.name = name)

/-- The theme of a given name. A name that is unknown stands for the first theme. -/
def ofName (name : Text) : Theme :=
  (ofName? name).getD manhattan

def resultColour : Theme → Colour
  | manhattan => .white
  | green => .brightGreen

@[simp] theorem ofName?_name (theme : Theme) : ofName? theme.name = some theme := by
  cases theme <;> decide +kernel

end Theme

/-- The kinds of status line. -/
inductive Status where
  | success
  | error
  | warning
  | info
  | debug
  deriving DecidableEq

namespace Status

def icon : Status → Text
  | success => "[✓]".toList
  | error => "[x]".toList
  | warning => "[!]".toList
  | info => "[!]".toList
  | debug => "[D]".toList

def colour : Status → Colour
  | success => .green
  | error => .red
  | warning => .yellow
  | info => .cyan
  | debug => .magenta

end Status

/-- Where output goes. -/
structure Console where
  theme : Theme
  terminal : Terminal

namespace Console

/-- What is written of a result. -/
def result (console : Console) (text : Text) : Text :=
  console.terminal.write [⟨text, some console.theme.resultColour⟩]

/-- What is written of a status line. The space after the icon belongs to it. -/
def status (console : Console) (status : Status) (text : Text) : Text :=
  console.terminal.write [⟨status.icon ++ [' '], some status.colour⟩, ⟨text, none⟩]

end Console

end Pathwise
