import Pathwise.Directory
import Pathwise.Request

/-!
# Contexts

A context is all that a call depends on besides its arguments: the style, and where the current
directory is read from. A call reads it at most once, after its arguments have been accepted.
-/

namespace Pathwise

structure Context where
  style : Style
  directory : Directory
  deriving DecidableEq

/-- Why a call has no answer. -/
inductive CallError where
  | argument (error : ArgumentError)
  /-- The current directory could not be read. -/
  | noDirectory
  deriving DecidableEq

def CallError.message : CallError → Text
  | argument error => error.message
  | noDirectory => "no current directory".toList

namespace Context

/-- The line by which a context is shown to its user. -/
def summary (context : Context) : Text :=
  "PathModule(platform_style=".toList ++ context.style.name.quoted ++ [')']

/-- What a request is answered, and the context after it. -/
def answer (context : Context) (request : Request) : Except CallError (Logged Answer) × Context :=
  if request.needsDirectory then
    let after := { context with directory := context.directory.advance }
    match context.directory.next with
    | some directory => (.ok (request.answer context.style directory), after)
    | none => (.error .noDirectory, after)
  else
    (.ok (request.answer context.style []), context)

/-- What a call gives, and the context after it. -/
def call (context : Context) (operation : Operation) (arguments : List Value) :
    Except CallError (Logged Answer) × Context :=
  match operation.request arguments with
  | .ok request => context.answer request
  | .error error => (.error (.argument error), context)

@[simp] theorem style_answer (context : Context) (request : Request) :
    (context.answer request).2.style = context.style := by
  unfold answer; split
  · dsimp only; split <;> rfl
  · rfl

/-- A call does not change the style. -/
@[simp] theorem style_call (context : Context) (operation : Operation) (arguments : List Value) :
    (context.call operation arguments).2.style = context.style := by
  unfold call; split
  · simp
  · rfl

theorem call_of_error {operation : Operation} {arguments : List Value} {error : ArgumentError}
    (h : operation.request arguments = .error error) (context : Context) :
    context.call operation arguments = (.error (.argument error), context) := by
  simp [call, h]

end Context

end Pathwise
