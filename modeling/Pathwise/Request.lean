import Pathwise.Location

/-!
# Requests

A request is an operation together with arguments that suit it. Arguments of any number and kind
are checked before anything else happens; what passes the check is a request, and every request has
an answer.
-/

namespace Pathwise

inductive Operation where
  | normalize
  | resolve
  | join
  | dirname
  | basename
  | extname
  | isAbsolute
  | relative
  deriving DecidableEq

/-- The name of an operation in messages to the caller. -/
def Operation.title : Operation → Text
  | normalize => "path.normalize".toList
  | resolve => "path.resolve".toList
  | join => "path.join".toList
  | dirname => "path.dirname".toList
  | basename => "path.basename".toList
  | extname => "path.extname".toList
  | isAbsolute => "path.isAbsolute".toList
  | relative => "path.relative".toList

/-- What is wrong with a list of arguments. -/
inductive ArgumentFault where
  /-- Exactly one path is expected. -/
  | notOnePath
  /-- At least one part is expected. -/
  | noParts
  /-- A part is not a text. -/
  | partNotText
  /-- A path and at most one ending are expected. -/
  | notPathAndEnding
  | pathNotText
  | endingNotText
  /-- Exactly two paths are expected. -/
  | notTwoPaths
  deriving DecidableEq

def ArgumentFault.message : ArgumentFault → Text
  | notOnePath => "requires 1 string parameter of file path.".toList
  | noParts => "requires at least one string parameters.".toList
  | partNotText => "doesn't accept non-string argument.".toList
  | notPathAndEnding =>
    "takes 1 required argument of file path and 1 optional argument of extension".toList
  | pathNotText => "requires a string parameter of file path.".toList
  | endingNotText => "requires a string as 2nd parameter of extension.".toList
  | notTwoPaths => "requires 2 arguments of string type.".toList

/-- The refusal of the arguments of an operation. -/
structure ArgumentError where
  operation : Operation
  fault : ArgumentFault
  deriving DecidableEq

def ArgumentError.message (error : ArgumentError) : Text :=
  error.operation.title ++ ' ' :: error.fault.message

/-- An operation with its arguments. -/
inductive Request where
  | normalize (path : Text)
  | resolve (first : Text) (others : List Text)
  | join (first : Text) (others : List Text)
  | dirname (path : Text)
  | basename (path ending : Text)
  | extname (path : Text)
  | isAbsolute (path : Text)
  | relative (source target : Text)
  deriving DecidableEq

/-- The texts among some values, if all of them are texts. -/
def texts? : List Value → Option (List Text)
  | [] => some []
  | .text text :: rest => (texts? rest).map (text :: ·)
  | _ :: _ => none

@[simp] theorem texts?_map_text (texts : List Text) : texts? (texts.map .text) = some texts := by
  induction texts with
  | nil => rfl
  | cons text rest ih => simp [texts?, ih]

theorem texts?_eq_some_iff {values : List Value} {texts : List Text} :
    texts? values = some texts ↔ values = texts.map .text := by
  constructor
  · fun_induction texts? values generalizing texts with
    | case1 => simp +contextual
    | case2 text rest ih =>
      intro h
      obtain ⟨others, hothers, rfl⟩ := Option.map_eq_some_iff.1 h
      simp [ih hothers]
    | case3 => simp
  · rintro rfl; simp

namespace Operation

/-- The path among arguments that should be one path. -/
def onePath (operation : Operation) : List Value → Except ArgumentError Text
  | [.text path] => .ok path
  | _ => .error ⟨operation, .notOnePath⟩

/-- The request that an operation makes of its arguments. The refusals are tried in a fixed order,
so that arguments with two faults have one message. -/
def request (operation : Operation) (arguments : List Value) : Except ArgumentError Request :=
  match operation, arguments with
  | .normalize, _ => (operation.onePath arguments).map .normalize
  | .dirname, _ => (operation.onePath arguments).map .dirname
  | .extname, _ => (operation.onePath arguments).map .extname
  | .isAbsolute, _ => (operation.onePath arguments).map .isAbsolute
  | .resolve, _ =>
    match texts? arguments with
    | some (first :: others) => .ok (.resolve first others)
    | some [] => .error ⟨.resolve, .noParts⟩
    | none => .error ⟨.resolve, .partNotText⟩
  | .join, .text first :: rest =>
    match texts? rest with
    | some others => .ok (.join first others)
    | none => .error ⟨.join, .partNotText⟩
  | .join, _ => .error ⟨.join, .noParts⟩
  | .basename, [.text path] => .ok (.basename path [])
  | .basename, [.text path, .text ending] => .ok (.basename path ending)
  | .basename, [.text _, _] => .error ⟨.basename, .endingNotText⟩
  | .basename, [_] => .error ⟨.basename, .pathNotText⟩
  | .basename, [_, _] => .error ⟨.basename, .pathNotText⟩
  | .basename, _ => .error ⟨.basename, .notPathAndEnding⟩
  | .relative, [.text source, .text target] => .ok (.relative source target)
  | .relative, _ => .error ⟨.relative, .notTwoPaths⟩

end Operation

/-- The answer to a request: a text, or the truth of a statement about a path. -/
inductive Answer where
  | text (value : Text)
  | truth (value : Bool)
  deriving DecidableEq

/-- The answer as it is printed. -/
def Answer.printed : Answer → Text
  | text value => value
  | truth true => "true".toList
  | truth false => "false".toList

/-- The answer as an argument of a later request. -/
def Answer.toValue : Answer → Value
  | text value => .text value
  | truth value => .boolean value

namespace Request

/-- Whether the answer may depend on the current directory. -/
def needsDirectory : Request → Bool
  | resolve .. | relative .. => true
  | _ => false

/-- The answer to a request, given the current directory. -/
def answer (style : Style) (directory : Text) : Request → Logged Answer
  | normalize path => (Pathwise.normalize style path).map .text
  | resolve first others => (Pathwise.resolve style (first :: others) directory).map .text
  | join first others => (Pathwise.join style (first :: others)).map .text
  | dirname path => .pure (.text (Pathwise.dirname style path))
  | basename path ending => .pure (.text (Pathwise.basename style path ending))
  | extname path => .pure (.text (Pathwise.extname style path))
  | isAbsolute path => .pure (.truth (Pathwise.isAbsolute style path))
  | relative source target => (Pathwise.relative style source target directory).map .text

/-- The current directory matters only to a request that needs it. -/
theorem answer_eq_of_not_needsDirectory {request : Request} (h : request.needsDirectory = false)
    (style : Style) (directory other : Text) :
    request.answer style directory = request.answer style other := by
  cases request <;> first | rfl | simp [needsDirectory] at h

end Request

end Pathwise
