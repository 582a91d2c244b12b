import Pathwise.Text.Basic

/-!
# Options

Options stand before the command. An option with a value takes it from the same argument or from the
next one, whatever that is. A single `--` ends the options, and so does the first argument that does
not look like one.
-/

namespace Pathwise.CommandLine

/-- The options that take a value. -/
inductive Setting where
  | style
  | theme
  deriving DecidableEq

/-- The options that a command line holds. Of a setting given twice the last value counts. -/
structure Options where
  style : Option Text
  theme : Option Text
  debug : Bool
  version : Bool
  deriving DecidableEq

namespace Options

/-- No option at all. -/
def initial : Options := ⟨none, none, false, false⟩

def assign (options : Options) : Setting → Text → Options
  | .style, value => { options with style := some value }
  | .theme, value => { options with theme := some value }

end Options

/-- What a single argument means where an option may stand. -/
inductive Token where
  /-- The end of the options. -/
  | terminator
  /-- No option. -/
  | operand
  | debug
  | version
  /-- A setting, with its value if the argument holds it. -/
  | setting (which : Setting) (value : Option Text)
  /-- An option that is unknown or written in the wrong way. -/
  | refused
  deriving DecidableEq

/-- Whether an argument is an option: it starts with a dash and is longer than that. -/
def looksLikeOption : Text → Bool
  | '-' :: _ :: _ => true
  | _ => false

/-- The name of a long option and the value after the first `=`, if there is one. -/
def splitValue (argument : Text) : Text × Option Text :=
  match argument.span (· ≠ '=') with
  | (name, []) => (name, none)
  | (name, _ :: value) => (name, some value)

/-- What an argument means that starts with two dashes. A request for help is not among the options:
`--help` is refused like any unknown one. -/
def Token.ofLong (argument : Text) : Token :=
  let (name, value) := splitValue argument
  if name = "--style".toList then .setting .style value
  else if name = "--theme".toList then .setting .theme value
  else if name = "--debug".toList ∧ value = none then .debug
  else if name = "--version".toList ∧ value = none then .version
  else .refused

/-- A short option is one letter; what follows it in the argument is its value. -/
def Token.ofShort (letter : Char) (value : Text) : Token :=
  let value := if value.isEmpty then none else some value
  match letter with
  | 's' => .setting .style value
  | 't' => .setting .theme value
  | _ => .refused

def Token.ofArgument (argument : Text) : Token :=
  match argument with
  | ['-', '-'] => .terminator
  | '-' :: '-' :: _ => .ofLong argument
  | '-' :: letter :: value => .ofShort letter value
  | _ => .operand

/-- The options at the start of a command line and the arguments after them. A setting that lacks
its value is refused like an unknown option. -/
def Options.read (options : Options) : List Text → Option (Options × List Text)
  | [] => some (options, [])
  | argument :: rest =>
    match Token.ofArgument argument with
    | .terminator => some (options, rest)
    | .operand => some (options, argument :: rest)
    | .debug => read { options with debug := true } rest
    | .version => read { options with version := true } rest
    | .setting which (some value) => read (options.assign which value) rest
    | .setting which none =>
      match rest with
      | [] => none
      | value :: rest => read (options.assign which value) rest
    | .refused => none

/-- The operands of a command. Options are refused, because a command has none of its own and a
request for help is left out here as well; the first `--` is dropped, and everything after it is an
operand. -/
def operands? : List Text → Option (List Text)
  | [] => some []
  | argument :: rest =>
    if argument = ['-', '-'] then some rest
    else if looksLikeOption argument then none
    else (operands? rest).map (argument :: ·)

end Pathwise.CommandLine
