import Pathwise.Decision
import Pathwise.Path.Basic

/-!
# Normal paths

A path is brought to its normal form by carrying out its segments from left to right: `.` does
nothing and `..` removes the segment before it. Where nothing is left to remove, a relative path
keeps the `..` and an absolute one discards it, because a path cannot climb above its root.
-/

namespace Pathwise

/-- What the segments read so far amount to. -/
structure Reduction where
  /-- The segments that are left, the last one first. -/
  stack : List Text
  /-- How many times `..` was discarded. -/
  discarded : Nat
  deriving DecidableEq

namespace Reduction

def start : Reduction := ⟨[], 0⟩

/-- The effect of `..` where no segment can be removed. -/
def climbBlocked (absolute : Bool) (reduction : Reduction) : Reduction :=
  if absolute then { reduction with discarded := reduction.discarded + 1 }
  else { reduction with stack := parentSegment :: reduction.stack }

/-- The effect of `..`. -/
def climb (absolute : Bool) (reduction : Reduction) : Reduction :=
  match reduction.stack with
  | [] => reduction.climbBlocked absolute
  | top :: rest =>
    if top = parentSegment then reduction.climbBlocked absolute
    else { reduction with stack := rest }

/-- The effect of one segment. -/
def step (absolute : Bool) (reduction : Reduction) (segment : Text) : Reduction :=
  if segment = currentSegment then reduction
  else if segment = parentSegment then reduction.climb absolute
  else { reduction with stack := segment :: reduction.stack }

/-- The effect of a list of segments, from left to right. -/
def ofSegments (absolute : Bool) (segments : List Text) : Reduction :=
  segments.foldl (step absolute) start

/-- The segments that are left, in order. -/
def segments (reduction : Reduction) : List Text :=
  reduction.stack.reverse

@[simp] theorem ofSegments_nil (absolute : Bool) : ofSegments absolute [] = start := rfl

theorem ofSegments_append (absolute : Bool) (before after : List Text) :
    ofSegments absolute (before ++ after)
      = after.foldl (step absolute) (ofSegments absolute before) := by
  simp [ofSegments]

end Reduction

namespace Path

def reduction (path : Path) : Reduction :=
  Reduction.ofSegments path.isAbsolute path.segments

/-- The normal form of a path. A relative path that leads nowhere is `.`. -/
def normalize (path : Path) : Path :=
  let left := path.reduction.segments
  path.withSegments (if left.isEmpty && !path.isAbsolute then [currentSegment] else left)

/-- The record of the `..` that normalizing the path discards. -/
def discards (path : Path) : List Decision :=
  match path.root with
  | some root => List.replicate path.reduction.discarded (.discardedAbove root)
  | none => []

@[simp] theorem isAbsolute_normalize (path : Path) :
    path.normalize.isAbsolute = path.isAbsolute := rfl

@[simp] theorem root_normalize (path : Path) : path.normalize.root = path.root := rfl

end Path

end Pathwise
