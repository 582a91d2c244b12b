import Pathwise.Style

/-!
# Environments and configurations

An environment is what a program is started in: the style of the host, and variables, each of which
is set or not; an empty value counts as set. A configuration holds the settings of a program run.
What the caller gives comes first, then the environment, then the defaults.
-/

namespace Pathwise

/-- What is looked up in a table is one of its entries. -/
theorem mem_of_lookup_eq_some {α : Type} {name : Text} {value : α} {table : List (Text × α)}
    (found : table.lookup name = some value) : (name, value) ∈ table := by
  obtain ⟨before, after, rfl, -⟩ := List.lookup_eq_some_iff.mp found
  exact List.mem_append_right before List.mem_cons_self

structure Environment where
  /-- The style of paths on the system that the program runs on. -/
  host : Style
  /-- Variables with their values. Of two entries for one variable the first one counts. -/
  entries : List (Text × Text)
  deriving DecidableEq

namespace Environment

def get? (environment : Environment) (name : Text) : Option Text :=
  environment.entries.lookup name

def unset (environment : Environment) (name : Text) : Environment :=
  { environment with entries := environment.entries.filter (·.1 != name) }

def set (environment : Environment) (name value : Text) : Environment :=
  { environment with entries := (name, value) :: (environment.unset name).entries }

end Environment

structure Config where
  style : Style
  /-- The name of the log level, not checked yet. -/
  logLevel : Text
  deriving DecidableEq

namespace Config

/-- The variable that names the style. -/
def styleVariable : Text := "CROSSPATH_PLATFORM_STYLE".toList

/-- The variable that names the log level. -/
def levelVariable : Text := "CROSSPATH_LOG_LEVEL".toList

def defaultLevel : Text := "WARNING".toList

/-- The style that the environment asks for. An empty name counts as none, and without a name the
style is the host's. -/
def environmentStyle (environment : Environment) : Except UnknownStyle Style :=
  match environment.get? styleVariable with
  | none | some [] => .ok environment.host
  | some name => Style.ofValue (.text name)

/-- The log level that the environment asks for. An empty name is kept. -/
def environmentLevel (environment : Environment) : Text :=
  (environment.get? levelVariable).getD defaultLevel

/-- The configuration for the settings given. The environment's style is not looked at if a style
is given. -/
def load (environment : Environment) (style : Option Value) (level : Option Text) :
    Except UnknownStyle Config :=
  let style := match style with
    | some given => Style.ofValue given
    | none => environmentStyle environment
  style.map fun style => ⟨style, level.getD (environmentLevel environment)⟩

end Config

end Pathwise
