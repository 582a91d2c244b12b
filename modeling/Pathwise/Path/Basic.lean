import Pathwise.Separator
import Pathwise.Style

/-!
# Paths

A path is an optional root and a list of segments. The root is what an absolute path starts from.
Under the POSIX style there is one root. Under the Windows style a path may also start with a drive
or with a network host, whose first name, if there is one, is the share and belongs to the root.

Every text is read as a path, and its segments are kept as they are written, `.` and `..` included.
The parser produces only some paths; writing and the other operations are defined on all of them. A
path is written as its root followed by its segments. A relative path whose first segment looks like
a drive would be read as an absolute one under the Windows style, so there it is written with `.` in
front.
-/

namespace Pathwise

/-! ### Roots -/

inductive Root where
  | bare
  | drive (letter : Char)
  | host (machine : Text)
  | share (machine folder : Text)
  deriving DecidableEq

namespace Root

/-- How a root is written, its final separator included. -/
def text (style : Style) : Root → Text
  | bare => [style.separator]
  | drive letter => [letter, ':', style.separator]
  | host machine => style.separator :: style.separator :: machine ++ [style.separator]
  | share machine folder =>
    style.separator :: style.separator :: machine ++ style.separator :: folder
      ++ [style.separator]

/-- A network root follows exactly two separators. -/
def ofNetworkText? : Text → Option (Root × List Text)
  | first :: second :: rest =>
    if isSeparator first && isSeparator second && !rest.head?.all isSeparator then
      match components rest with
      | [] => none
      | [machine] => some (host machine, [])
      | machine :: folder :: segments => some (share machine folder, segments)
    else
      none
  | _ => none

def ofDriveText? : Text → Option (Root × List Text)
  | letter :: ':' :: rest => if letter.isAlpha then some (drive letter, components rest) else none
  | _ => none

/-- A text that starts with a separator is rooted. -/
def ofBareText? : Text → Option (Root × List Text)
  | first :: rest => if isSeparator first then some (bare, components rest) else none
  | [] => none

/-- The root that a text starts with and the segments after it, if it starts with a root. -/
def ofText? : Style → Text → Option (Root × List Text)
  | .posix, raw => ofBareText? raw
  | .windows, raw => ofNetworkText? raw <|> ofDriveText? raw <|> ofBareText? raw

end Root

/-! ### Paths taken apart -/

/-- A path taken apart. The root is the text that the path is written with up to its first segment;
a path with a root is absolute, even if the text is empty. -/
structure Path where
  root : Option Text
  segments : List Text
  /-- Whether the path was written with a separator after its last segment. -/
  trailing : Bool
  deriving DecidableEq

/-- The segment that stands for the directory it occurs in. -/
def currentSegment : Text := ['.']

/-- The segment that stands for the parent of the directory it occurs in. -/
def parentSegment : Text := ['.', '.']

namespace Path

def isAbsolute (path : Path) : Bool :=
  path.root.isSome

def lastSegment (path : Path) : Text :=
  path.segments.getLast?.getD []

/-- The path with the same root and other segments, without a trailing separator. -/
def withSegments (path : Path) (segments : List Text) : Path :=
  ⟨path.root, segments, false⟩

/-- The relative path of the given segments. -/
def ofSegments (segments : List Text) : Path :=
  ⟨none, segments, false⟩

@[simp] theorem root_withSegments (path : Path) (segments : List Text) :
    (path.withSegments segments).root = path.root := rfl

@[simp] theorem segments_withSegments (path : Path) (segments : List Text) :
    (path.withSegments segments).segments = segments := rfl

@[simp] theorem isAbsolute_withSegments (path : Path) (segments : List Text) :
    (path.withSegments segments).isAbsolute = path.isAbsolute := rfl

@[simp] theorem isAbsolute_ofSegments (segments : List Text) :
    (ofSegments segments).isAbsolute = false := rfl

/-! ### Reading -/

/-- Whether a text with these segments has a separator after the last one. -/
def endsInSeparator (segments : List Text) (raw : Text) : Bool :=
  !segments.isEmpty && endsWithSeparator raw

/-- The path that a text denotes under a style. -/
def parse (style : Style) (raw : Text) : Path :=
  match Root.ofText? style raw with
  | some (root, segments) => ⟨some (root.text style), segments, endsInSeparator segments raw⟩
  | none => ⟨none, components raw, endsInSeparator (components raw) raw⟩

@[simp] theorem parse_nil (style : Style) : parse style [] = ⟨none, [], false⟩ := by
  cases style <;> rfl

theorem isAbsolute_parse (style : Style) (raw : Text) :
    (parse style raw).isAbsolute = (Root.ofText? style raw).isSome := by
  unfold parse isAbsolute
  cases Root.ofText? style raw <;> rfl

/-! ### Writing -/

/-- Whether the path needs a guard in front, to be read as the relative path that it is. -/
def needsGuard (style : Style) (path : Path) : Bool :=
  style == .windows && !path.isAbsolute && path.segments.head?.any startsWithDrive

def render (style : Style) (path : Path) : Text :=
  let body := joinNames [style.separator] path.segments
  match path.root with
  | some root => root ++ body
  | none =>
    if path.needsGuard style then currentSegment ++ style.separator :: body else body

end Path

end Pathwise
