import Pathwise.Proofs.Calls
import Pathwise.Session

/-!
# Runs of sessions

What holds of one step holds of a whole run through the session that the steps before it lead to:
the result of a step in a run is what it gives in that session.
-/

namespace Pathwise

namespace Session

/-! ### Steps one after the other -/

/-- The session after a sequence of steps. -/
def after (session : Session) (steps : List Step) : Session :=
  steps.foldl (fun session step => (session.step step).2) session

@[simp] theorem after_nil (session : Session) : session.after [] = session := rfl

@[simp] theorem after_cons (session : Session) (step : Step) (steps : List Step) :
    session.after (step :: steps) = (session.step step).2.after steps := rfl

@[simp] theorem run_cons (session : Session) (step : Step) (steps : List Step) :
    session.run (step :: steps) = session.step step :: (session.step step).2.run steps := rfl

/-- A step of a run gives what it gives in the session that the steps before it lead to. -/
theorem getElem?_run (session : Session) (steps : List Step) (number : Nat) :
    (session.run steps)[number]?
      = steps[number]?.map (session.after (steps.take number)).step := by
  induction steps generalizing session number with
  | nil => rfl
  | cons step rest ih =>
    cases number with
    | zero => rfl
    | succ number => exact ih (session.step step).2 number

/-! ### A single step -/

@[simp] theorem context_step (session : Session) (step : Step) :
    (session.step step).2.context = (session.perform step).2.context := rfl

@[simp] theorem environment_step (session : Session) (step : Step) :
    (session.step step).2.environment = (session.perform step).2.environment := rfl

@[simp] theorem fst_step (session : Session) (step : Step) :
    (session.step step).1 = (session.perform step).1 := rfl

/-- The values of the arguments of a call. -/
def values (session : Session) (arguments : List Argument) : List Value :=
  arguments.map session.value

variable {operation : Operation} {arguments : List Argument}

theorem fst_perform_call (session : Session) (operation : Operation) (arguments : List Argument) :
    (session.perform (.call operation arguments)).1
      = ((session.context.call operation (session.values arguments)).1.map
          fun answer => some answer.value).mapError .call := by
  simp only [perform, values]
  split
  · next answered =>
    rw [answered]
    rfl
  · next failed =>
    rw [failed]
    rfl

@[simp] theorem context_perform_call (session : Session) (operation : Operation)
    (arguments : List Argument) :
    (session.perform (.call operation arguments)).2.context
      = (session.context.call operation (session.values arguments)).2 := by
  simp only [perform, values]
  split <;> rfl

end Session

end Pathwise
