import Pathwise.Lexical

/-!
# Locations and routes

A location is an absolute path in normal form: it denotes the same place whatever the current
directory is. Anchoring finds the location of a list of parts. The last absolute part wins; if there
is none, the parts are taken from the current directory.

A route leads from one location to another: up to the nearest common ancestor and down from there.
Locations on different roots have no route between them.
-/

namespace Pathwise

structure Location where
  root : Text
  segments : List Text
  deriving DecidableEq

namespace Location

def toPath (location : Location) : Path :=
  ⟨some location.root, location.segments, false⟩

def render (style : Style) (location : Location) : Text :=
  location.toPath.render style

/-- The location that segments lead to from a root. Climbing above the root is recorded. -/
def ofSegments (root : Text) (segments : List Text) : Logged Location :=
  let reduction := Reduction.ofSegments true segments
  ⟨⟨root, reduction.segments⟩, List.replicate reduction.discarded (.discardedAbove root)⟩

/-- The location of a path is its normal form. -/
theorem toPath_ofSegments (root : Text) (segments : List Text) (trailing : Bool) :
    (ofSegments root segments).value.toPath
      = (Path.mk (some root) segments trailing).normalize := by
  simp [ofSegments, toPath, Path.normalize, Path.withSegments, Path.isAbsolute, Path.reduction]

end Location

/-- The last part that is absolute on its own, with the parts after it. -/
def lastAbsolute? (style : Style) : List Text → Option (Text × List Text)
  | [] => none
  | part :: later =>
    match lastAbsolute? style later with
    | some found => some found
    | none => if isAbsolute style part then some (part, later) else none

/-- The parts that decide a location, from the one it starts at, with the choice of that start. -/
def startingParts (style : Style) (parts : List Text) (directory : Text) : Logged (List Text) :=
  match lastAbsolute? style parts with
  | some (part, later) => ⟨part :: later, [.stoppedAt part]⟩
  | none => ⟨directory :: parts, [.anchoredTo directory]⟩

/-- The location of a list of parts. A path that is still relative starts from the bare root. -/
def anchor (style : Style) (parts : List Text) (directory : Text) : Logged Location :=
  let starting := startingParts style parts directory
  let path := Path.parse style (concatenate [style.separator] starting.value)
  let grafted := if path.isAbsolute then [] else [Decision.anchoredAtRoot directory]
  let root := path.root.getD [style.separator]
  let location := Location.ofSegments root path.segments
  ⟨location.value, starting.decisions ++ grafted ++ location.decisions⟩

/-- The location of a list of parts, as a text. -/
def resolve (style : Style) (parts : List Text) (directory : Text) : Logged Text :=
  (anchor style parts directory).map (·.render style)

/-! ### Routes -/

/-- The form under which names are compared: the Windows style ignores case. -/
def comparable : Style → Text → Text
  | .posix, name => name
  | .windows, name => name.lower

/-- The segments of the route between two lists of segments under one root. -/
def routeBetween (style : Style) : (source target : List Text) → List Text
  | left :: source, right :: target =>
    if comparable style left = comparable style right then routeBetween style source target
    else List.replicate (source.length + 1) parentSegment ++ right :: target
  | source, target => List.replicate source.length parentSegment ++ target

namespace Location

/-- The route between two locations, if they are on the same root. -/
def route? (style : Style) (source target : Location) : Option (List Text) :=
  if comparable style source.root = comparable style target.root then
    some (routeBetween style source.segments target.segments)
  else
    none

end Location

/-- The text that leads from one path to another. Both are anchored to the same directory. Equal
locations are joined by `.`, and without a route the answer is the target itself. -/
def relative (style : Style) (source target directory : Text) : Logged Text :=
  let start := anchor style [source] directory
  let goal := anchor style [target] directory
  let decisions := start.decisions ++ goal.decisions
  match start.value.route? style goal.value with
  | none => ⟨goal.value.render style, decisions ++ [.noRoute start.value.root goal.value.root]⟩
  | some [] => ⟨currentSegment, decisions⟩
  | some segments => ⟨(Path.ofSegments segments).render style, decisions⟩

end Pathwise
