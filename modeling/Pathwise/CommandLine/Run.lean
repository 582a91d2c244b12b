import Pathwise.CommandLine.Command
import Pathwise.CommandLine.Options
import Pathwise.Config

/-!
# Running a command line

A command line consists of options, the name of a command and its operands. They are examined in
that order, and the settings of the environment between the name and the operands. Two things are
taken for granted. The package is already loaded: a style that the environment names, and that does
not exist, may keep it from loading, whatever the command line says, and such a start is no run. And
nobody asks for help: `--help` counts as an unknown option.
-/

namespace Pathwise.CommandLine

def versionLine : Text := Text.line "crosspath, version 1.0.0".toList

/-- The theme that the options ask for; `none` if they name one that does not exist. -/
def Options.theme? (options : Options) : Option Theme :=
  match options.theme with
  | some name => Theme.ofName? name
  | none => some .manhattan

/-- The style that the options ask for, if they do; `none` if they name one that does not exist.
An option has to name a style exactly. -/
def Options.style? (options : Options) : Option (Option Style) :=
  match options.style with
  | some name => ([Style.posix, Style.windows].find? (·.name = name)).map some
  | none => some none

/-- What the command line says, once its options are known to be valid. -/
structure Invocation where
  console : Console
  /-- The style that was asked for; without one the environment decides. -/
  style : Option Style
  debug : Bool
  command : Command
  arguments : List Text

/-- Carry out a valid command line in an environment. -/
def Invocation.run (invocation : Invocation) (environment : Environment) (directory : Directory) :
    Outcome :=
  match Config.load environment (invocation.style.map (.text ·.name)) none with
  | .error error => .unknownStyle error
  | .ok config =>
    match Threshold.choose invocation.debug config.logLevel with
    | .error error =>
      .finished 1 [] (invocation.console.status .error
        ("Invalid ".toList ++ Config.levelVariable ++ ": ".toList ++ error.message))
    | .ok threshold =>
      match operands? invocation.arguments with
      | some operands =>
        invocation.command.execute invocation.console threshold ⟨config.style, directory⟩ operands
      | none => .usageError

/-- Run the program, from the moment that it has been loaded. Asking for the version ends the run
before any value is validated; asking for help is a mistake. -/
def run (terminal : Terminal) (environment : Environment) (directory : Directory)
    (arguments : List Text) : Outcome :=
  match Options.initial.read arguments with
  | none => .usageError
  | some (options, rest) =>
    if options.version then .finished 0 versionLine []
    else match options.theme?, options.style?, rest with
      | some theme, some style, name :: arguments =>
        match Command.ofName? name with
        | some command =>
          Invocation.run ⟨⟨theme, terminal⟩, style, options.debug, command, arguments⟩ environment
            directory
        | none => .usageError
      | _, _, _ => .usageError

end Pathwise.CommandLine
