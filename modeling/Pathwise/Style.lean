import Pathwise.Text.Casing
import Pathwise.Value

/-!
# Path styles

A style decides what counts as the root of a path and which separator is written. Both styles read
either slash as a separator. A style is chosen by name; case and surrounding blanks of the name do
not matter.
-/

namespace Pathwise

/-- The two path grammars. -/
inductive Style where
  | posix
  | windows
  deriving DecidableEq

namespace Style

/-- The separator that is written between names. -/
def separator : Style → Char
  | posix => '/'
  | windows => '\\'

def name : Style → Text
  | posix => "posix".toList
  | windows => "windows".toList

/-- The styles under all the names they are known by. -/
def names : List (Text × Style) := [
  (posix.name, posix), (windows.name, windows), ("win32".toList, windows), ("nt".toList, windows)]

def ofName? (name : Text) : Option Style :=
  names.lookup name.trim.lower

end Style

/-- The refusal of a value that names no style. -/
structure UnknownStyle where
  given : Value

def UnknownStyle.message (error : UnknownStyle) : Text :=
  "Unknown platform style: ".toList ++ error.given.written
    ++ " (expected 'posix' or 'windows')".toList

namespace Style

/-- The style that a value names; only a text can name one. -/
def ofValue (value : Value) : Except UnknownStyle Style :=
  match value.text?.bind ofName? with
  | some style => .ok style
  | none => .error ⟨value⟩

@[simp] theorem ofName?_name (style : Style) : ofName? style.name = some style := by
  cases style <;> decide +kernel

theorem ofValue_text_eq_ok_iff {name : Text} {style : Style} :
    ofValue (.text name) = .ok style ↔ ofName? name = some style := by
  simp only [ofValue, Value.text?, Option.bind_some]
  cases ofName? name <;> simp

end Style

end Pathwise
