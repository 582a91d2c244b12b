import Pathwise.Text.Casing
import Pathwise.Text.Quoted

/-!
# Logging

A record is shown if its severity reaches the threshold. The threshold is given by the name of a
level, whose case does not matter.
-/

namespace Pathwise

inductive Severity where
  | debug
  | info
  | warning
  | error
  | critical
  deriving DecidableEq

namespace Severity

def rank : Severity → Nat
  | debug => 10
  | info => 20
  | warning => 30
  | error => 40
  | critical => 50

def label : Severity → Text
  | debug => "DEBUG".toList
  | info => "INFO".toList
  | warning => "WARNING".toList
  | error => "ERROR".toList
  | critical => "CRITICAL".toList

end Severity

/-- The refusal of a text that names no level. -/
structure UnknownLevel where
  given : Text
  deriving DecidableEq

def UnknownLevel.message (error : UnknownLevel) : Text :=
  "Unknown level: ".toList ++ error.given.quoted

/-- The least rank that is shown. -/
structure Threshold where
  rank : Nat
  deriving DecidableEq

namespace Threshold

/-- The threshold of a program that does not choose one. -/
def standard : Threshold := ⟨Severity.warning.rank⟩

/-- The levels under all the names they are known by. -/
def names : List (Text × Threshold) := [
  ("CRITICAL".toList, ⟨50⟩), ("FATAL".toList, ⟨50⟩), ("ERROR".toList, ⟨40⟩),
  ("WARNING".toList, ⟨30⟩), ("WARN".toList, ⟨30⟩), ("INFO".toList, ⟨20⟩), ("DEBUG".toList, ⟨10⟩),
  ("NOTSET".toList, ⟨0⟩)]

def ofName? (name : Text) : Option Threshold :=
  names.lookup name.capitals

/-- The threshold for a level name. Debugging shows every record, and the name is not looked at. -/
def choose (debug : Bool) (level : Text) : Except UnknownLevel Threshold :=
  if debug then .ok ⟨Severity.debug.rank⟩
  else match ofName? level with
    | some threshold => .ok threshold
    | none => .error ⟨level⟩

/-- What is written for a record: one line, or nothing if the threshold is not reached. -/
def written (threshold : Threshold) (severity : Severity) (message : Text) : Text :=
  if threshold.rank ≤ severity.rank then
    Text.line ('[' :: severity.label ++ "] ".toList ++ message)
  else
    []

theorem written_of_lt {threshold : Threshold} {severity : Severity}
    (h : severity.rank < threshold.rank) (message : Text) :
    threshold.written severity message = [] := by
  simp [written, Nat.not_le.2 h]

end Threshold

end Pathwise
