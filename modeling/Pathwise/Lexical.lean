import Pathwise.Path.Normal

/-!
# Operations on path texts

What is found out from texts alone, whatever the current directory is.

Parts are glued with one separator between neighbours. Empty parts are skipped, and leading
separators of a later part are dropped: two separators at the start would name a network host. A
text is normalized by reading it, bringing the path to its normal form and writing that; joining
normalizes what the parts give when they are glued together. The parent, the last name and the
extension are read off a path as it is written, so `.` and `..` are names like any other.
-/

namespace Pathwise

/-! ### Gluing parts -/

/-- The text so far with one more part after it. -/
def appendPart (separator raw part : Text) : Text :=
  if raw.isEmpty then part
  else
    let rest := dropLeadingSeparators part
    if rest.isEmpty then raw
    else if endsWithSeparator raw then raw ++ rest
    else raw ++ separator ++ rest

def concatenate (separator : Text) (parts : List Text) : Text :=
  parts.foldl (appendPart separator) []

@[simp] theorem concatenate_nil (separator : Text) : concatenate separator [] = [] := rfl

@[simp] theorem concatenate_singleton (separator part : Text) :
    concatenate separator [part] = part := rfl

/-- An empty part changes nothing. -/
@[simp] theorem appendPart_nil_right (separator raw : Text) :
    appendPart separator raw [] = raw := by
  cases raw <;> simp [appendPart, dropLeadingSeparators]

/-! ### Normalizing and joining -/

/-- Whether a text denotes an absolute path. -/
def isAbsolute (style : Style) (raw : Text) : Bool :=
  (Path.parse style raw).isAbsolute

/-- The normal form of a path text. -/
def normalize (style : Style) (raw : Text) : Logged Text :=
  let path := Path.parse style raw
  ⟨path.normalize.render style, path.discards⟩

/-- The parts glued together, in normal form. -/
def join (style : Style) (parts : List Text) : Logged Text :=
  normalize style (concatenate [style.separator] parts)

@[simp] theorem isAbsolute_nil (style : Style) : isAbsolute style [] = false := by
  simp [isAbsolute, Path.isAbsolute]

/-- Joining one part normalizes it. -/
@[simp] theorem join_singleton (style : Style) (part : Text) :
    join style [part] = normalize style part := rfl

/-! ### Names in a path -/

/-- The text without its last segment, or what is left when there is no more than one. -/
def dirname (style : Style) (raw : Text) : Text :=
  let path := Path.parse style raw
  if path.segments.length ≤ 1 then path.root.getD currentSegment
  else (path.withSegments path.segments.dropLast).render style

/-- The last segment without the given ending. The ending is compared character by character and
may be the whole segment. -/
def basename (style : Style) (raw ending : Text) : Text :=
  (Path.parse style raw).lastSegment.withoutEnding ending

/-- What follows the last dot of a name, with the dot. A name has no extension if it consists of
dots or has no dot after its first character. -/
def extension (name : Text) : Text :=
  let afterDot := (name.reverse.takeWhile (· ≠ '.')).reverse
  if name.all (· == '.') || name.length ≤ afterDot.length + 1 then [] else '.' :: afterDot

def extname (style : Style) (raw : Text) : Text :=
  extension (Path.parse style raw).lastSegment

end Pathwise
