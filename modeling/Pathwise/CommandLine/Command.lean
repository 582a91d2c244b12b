import Pathwise.Console
import Pathwise.Context
import Pathwise.Log

/-!
# Commands

A command prints the answer of one operation, or the separator of the style. It declares how many
operands it has; they are bound to its parameters, and the body of the command hands these to the
operation. Answers go to the standard output; error messages and log records go to the standard
error.
-/

namespace Pathwise.CommandLine

/-- How a run of the program ends. -/
inductive Outcome where
  | finished (status : Nat) (output errors : Text)
  /-- The command line is malformed. The wording of the message is not fixed. -/
  | usageError
  /-- The environment names an unknown style. -/
  | unknownStyle (error : UnknownStyle)
  /-- The current directory could not be read. -/
  | noDirectory

inductive Command where
  | operation (operation : Operation)
  | separator
  deriving DecidableEq

namespace Command

def names : List (Text × Command) := [
  ("normalize".toList, operation .normalize), ("resolve".toList, operation .resolve),
  ("join".toList, operation .join), ("dirname".toList, operation .dirname),
  ("basename".toList, operation .basename), ("extname".toList, operation .extname),
  ("is-absolute".toList, operation .isAbsolute), ("relative".toList, operation .relative),
  ("sep".toList, separator)]

def ofName? (name : Text) : Option Command :=
  names.lookup name

/-- Whether the command takes that many operands. -/
def accepts (command : Command) (count : Nat) : Bool :=
  match command with
  | operation .resolve | operation .join => 1 ≤ count
  | operation .basename => count == 1 || count == 2
  | operation .relative => count == 2
  | operation .normalize | operation .dirname | operation .extname | operation .isAbsolute =>
    count == 1
  | separator => count == 0

end Command

/-- What the log shows of the decisions behind an answer. -/
def writtenDecisions (threshold : Threshold) (decisions : List Decision) : Text :=
  decisions.flatMap fun decision => threshold.written .debug decision.message

/-- Call an operation and print its answer. -/
def printAnswer (console : Console) (threshold : Threshold) (context : Context)
    (operation : Operation) (arguments : List Value) : Outcome :=
  match (context.call operation arguments).1 with
  | .ok answer =>
    .finished 0 (console.result answer.value.printed)
      (writtenDecisions threshold answer.decisions)
  | .error (.argument error) => .finished 1 [] (console.status .error error.message)
  | .error .noDirectory => .noDirectory

namespace Command

variable (console : Console) (threshold : Threshold) (context : Context)

/-! ### The bodies of the commands -/

/-- The body of `normalize`, `dirname`, `extname` and `is-absolute`. -/
def onPath (called : Operation) (path : Text) : Outcome :=
  printAnswer console threshold context called [.text path]

/-- The body of `resolve` and `join`. -/
def onPaths (called : Operation) (paths : List Text) : Outcome :=
  printAnswer console threshold context called (paths.map .text)

/-- A suffix is handed on only if there is one. -/
def basename (path : Text) (suffix : Option Text) : Outcome :=
  match suffix with
  | some suffix => printAnswer console threshold context .basename [.text path, .text suffix]
  | none => printAnswer console threshold context .basename [.text path]

def relative (source target : Text) : Outcome :=
  printAnswer console threshold context .relative [.text source, .text target]

def printSeparator : Outcome :=
  .finished 0 (console.result [context.style.separator]) []

/-- Carry out a command on its operands. -/
def execute (command : Command) (operands : List Text) : Outcome :=
  if command.accepts operands.length then
    match command, operands with
    | operation .normalize, [path] => onPath console threshold context .normalize path
    | operation .resolve, paths => onPaths console threshold context .resolve paths
    | operation .join, paths => onPaths console threshold context .join paths
    | operation .dirname, [path] => onPath console threshold context .dirname path
    | operation .basename, path :: suffix =>
      basename console threshold context path suffix.head?
    | operation .extname, [path] => onPath console threshold context .extname path
    | operation .isAbsolute, [path] => onPath console threshold context .isAbsolute path
    | operation .relative, [source, target] => relative console threshold context source target
    | separator, _ => printSeparator console context
    -- The operands have been counted, so that no other case is left.
    | _, _ => .usageError
  else
    .usageError

end Command

end Pathwise.CommandLine
