import Pathwise.Config
import Pathwise.Context

/-!
# Sessions

A session is a sequence of steps that build contexts, change them and call operations in them. A
step that fails has an error for its result and leaves the context and the environment as they were,
apart from a read of the current directory that has already taken place. The result of a step may be
an argument of a later one.
-/

namespace Pathwise

/-- An argument of a call in a session. -/
inductive Argument where
  | value (value : Value)
  /-- The result of the step of that number, counted from zero. -/
  | resultOf (step : Nat)

inductive Step where
  /-- Start from a configuration; without a style the environment decides. -/
  | configure (style : Option Value) (directory : Directory)
  /-- Start from a named style; without a source the directory of the process is read. -/
  | start (style : Value) (directory : Option Directory)
  /-- Start from a style that needs no look-up. The session works on a context of its own: what it
  changes there is not seen where others start from the same style. -/
  | choose (style : Style) (directory : Directory)
  | setStyle (style : Value)
  /-- Replace what is left to read of the current directory. -/
  | changeDirectory (answers : Directory)
  | setVariable (name value : Text)
  | unsetVariable (name : Text)
  | call (operation : Operation) (arguments : List Argument)

inductive StepError where
  | call (error : CallError)
  | unknownStyle (error : UnknownStyle)

structure Session where
  /-- The directory that the process is in. -/
  processDirectory : Text
  context : Context
  environment : Environment
  /-- The answers of the steps so far, in order; a step without an answer has `none`. -/
  answers : List (Option Answer)

namespace Session

/-- The session of a process before its first step. -/
def start (environment : Environment) (processDirectory : Text) : Session :=
  ⟨processDirectory, ⟨.posix, .constant processDirectory⟩, environment, []⟩

/-- The value that an argument stands for. A step without an answer counts as no value. -/
def value (session : Session) : Argument → Value
  | .value value => value
  | .resultOf step =>
    match session.answers[step]? with
    | some (some answer) => answer.toValue
    | _ => .null

/-- What a step gives, before its answer is entered. -/
def perform (session : Session) : Step → Except StepError (Option Answer) × Session
  | .configure style directory =>
    match Config.load session.environment style none with
    | .ok config => (.ok none, { session with context := ⟨config.style, directory⟩ })
    | .error error => (.error (.unknownStyle error), session)
  | .start style directory =>
    match Style.ofValue style with
    | .ok style =>
      (.ok none,
        { session with
          context := ⟨style, directory.getD (.ofProcess session.processDirectory)⟩ })
    | .error error => (.error (.unknownStyle error), session)
  | .choose style directory => (.ok none, { session with context := ⟨style, directory⟩ })
  | .setStyle style =>
    match Style.ofValue style with
    | .ok style => (.ok none, { session with context.style := style })
    | .error error => (.error (.unknownStyle error), session)
  | .changeDirectory answers =>
    (.ok none,
      { session with context.directory := session.context.directory.replaceAnswers answers })
  | .setVariable name value =>
    (.ok none, { session with environment := session.environment.set name value })
  | .unsetVariable name =>
    (.ok none, { session with environment := session.environment.unset name })
  | .call operation arguments =>
    let done := session.context.call operation (arguments.map session.value)
    let after := { session with context := done.2 }
    match done.1 with
    | .ok answer => (.ok (some answer.value), after)
    | .error error => (.error (.call error), after)

/-- What a step gives, and the session after it. -/
def step (session : Session) (step : Step) : Except StepError (Option Answer) × Session :=
  let done := session.perform step
  (done.1, { done.2 with answers := session.answers ++ [done.1.toOption.join] })

/-- What a sequence of steps gives: the result of each step with the session after it. -/
def run (session : Session) : List Step → List (Except StepError (Option Answer) × Session)
  | [] => []
  | step :: rest =>
    let done := session.step step
    done :: done.2.run rest

end Session

end Pathwise
