import Pathwise.Text.Basic

/-!
# Sources of the current directory

The current directory is read from a source that may answer differently each time and may fail.
The source counts its reads, failed ones included.
-/

namespace Pathwise

/-- A source of the current directory. An answer of `none` is a failure. -/
structure Directory where
  /-- The answer to the next read. -/
  next : Option Text
  /-- The answers to the reads after it; the last answer is repeated for ever. -/
  upcoming : List (Option Text)
  /-- How many times the source has been read. -/
  reads : Nat
  /-- Whether the number of reads is made known. -/
  counted : Bool
  deriving DecidableEq

namespace Directory

/-- A source that always gives the same directory. -/
def constant (directory : Text) : Directory := ⟨some directory, [], 0, true⟩

/-- A source that fails at every read. -/
def missing : Directory := ⟨none, [], 0, true⟩

/-- A source with a list of answers; an empty list means failure. -/
def ofAnswers : List (Option Text) → Directory
  | [] => missing
  | next :: upcoming => ⟨next, upcoming, 0, true⟩

/-- The directory of the running process, whose reads are not made known. -/
def ofProcess (directory : Text) : Directory := ⟨some directory, [], 0, false⟩

/-- The number of reads, if it is made known. -/
def reads? (source : Directory) : Option Nat :=
  if source.counted then some source.reads else none

/-- The source after one read; the answer of the read is `next`. -/
def advance (source : Directory) : Directory :=
  match source.upcoming with
  | [] => { source with reads := source.reads + 1 }
  | next :: upcoming => ⟨next, upcoming, source.reads + 1, source.counted⟩

/-- The source with the answers of another one and its own count of reads. -/
def replaceAnswers (source other : Directory) : Directory :=
  ⟨other.next, other.upcoming, source.reads, source.counted⟩

@[simp] theorem reads_advance (source : Directory) : source.advance.reads = source.reads + 1 := by
  unfold advance; split <;> rfl

@[simp] theorem reads_replaceAnswers (source other : Directory) :
    (source.replaceAnswers other).reads = source.reads := rfl

end Directory

end Pathwise
