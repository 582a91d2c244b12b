import Pathwise.Proofs.Runs

/-!
# Snapshots of the current directory

A call that resolves parts or relates two paths takes one snapshot of the current directory, once
its arguments are known to suit; no other call takes any. What a call gives hangs on the style, on
the values of its arguments and on its own snapshot. It does not hang on the snapshots of other
calls, on how often the directory has been read, or on what it will be later.

So the reads of a run can be counted from its calls alone, and the two ends of a route are never
taken from different directories.
-/

namespace Pathwise

/-- Whether a step goes on with the context that there is. The other steps build a new one. -/
def Step.keepsContext : Step → Bool
  | configure .. | start .. | choose .. => false
  | setStyle .. | changeDirectory .. | setVariable .. | unsetVariable .. | call .. => true

namespace Session

/-- The calls of a run, with the values that their arguments have at the time. -/
def calls (session : Session) : List Step → List (Operation × List Value)
  | [] => []
  | .call operation arguments :: rest =>
    (operation, session.values arguments) :: (session.step (.call operation arguments)).2.calls rest
  | step :: rest => (session.step step).2.calls rest

/-! ### Counting the reads -/

theorem directory_step_call (session : Session) (operation : Operation)
    (arguments : List Argument) :
    (session.step (.call operation arguments)).2.context.directory
      = if operation.anchors (session.values arguments) then session.context.directory.advance
        else session.context.directory := by
  rw [context_step, context_perform_call, Context.directory_call]

theorem reads_step_call (session : Session) (operation : Operation) (arguments : List Argument) :
    (session.step (.call operation arguments)).2.context.directory.reads
      = session.context.directory.reads
        + if operation.anchors (session.values arguments) then 1 else 0 := by
  rw [directory_step_call]
  split
  · exact Directory.reads_advance _
  · rfl

/-- A change of the style, of the directory or of the environment is no read. -/
theorem reads_step_of_keepsContext {step : Step} (keeps : step.keepsContext = true)
    (change : ∀ operation arguments, step ≠ .call operation arguments) (session : Session) :
    (session.step step).2.context.directory.reads = session.context.directory.reads := by
  cases step with
  | configure | start | choose => cases keeps
  | setStyle style =>
    simp only [context_step, perform]
    split <;> rfl
  | changeDirectory | setVariable | unsetVariable => rfl
  | call operation arguments => exact absurd rfl (change operation arguments)

/-- The reads of a run are as many as its calls that start from the current directory. -/
theorem reads_after (session : Session) {steps : List Step}
    (keeps : ∀ step ∈ steps, step.keepsContext = true) :
    (session.after steps).context.directory.reads
      = session.context.directory.reads
        + (session.calls steps).countP fun call => call.1.anchors call.2 := by
  induction steps generalizing session with
  | nil => rfl
  | cons step rest ih =>
    have others := ih (session.step step).2 fun other member =>
      keeps other (List.mem_cons_of_mem step member)
    rw [after_cons, others]
    cases step with
    | call operation arguments =>
      simp only [reads_step_call, calls, List.countP_cons]
      omega
    | _ =>
      rw [reads_step_of_keepsContext (keeps _ List.mem_cons_self) nofun]
      rfl

/-! ### What the result of a call hangs on -/

/-- A call of a run that reads the current directory once if it starts from it, and else not at all,
and whose result hangs on nothing but the style, the values of its arguments and the directory that
it reads itself. -/
structure TakesSnapshot (now : Session) (operation : Operation) (arguments : List Argument) :
    Prop where
  directory_eq : (now.step (.call operation arguments)).2.context.directory
    = if operation.anchors (now.values arguments) then now.context.directory.advance
      else now.context.directory
  /-- The arguments are refused unless they are texts in the right number. -/
  refused_iff :
    (∃ error, (now.step (.call operation arguments)).1 = .error (.call (.argument error))) ↔
      ¬ ∃ texts : List Text,
        now.values arguments = texts.map .text ∧ operation.Takes texts.length
  /-- Refusing arguments is not preceded by a read. -/
  directory_of_refused (error : ArgumentError) :
    (now.step (.call operation arguments)).1 = .error (.call (.argument error)) →
      (now.step (.call operation arguments)).2.context.directory = now.context.directory
  /-- All of the answer is taken from one directory, the one that the call reads. -/
  answered {request : Request} {directory : Text} :
    operation.Makes (now.values arguments) request →
      (operation.anchors (now.values arguments) = true →
        now.context.directory.next = some directory) →
      (now.step (.call operation arguments)).1
        = .ok (some (request.answer now.context.style directory).value)
  /-- In any other run a call with the same style, values and directory has the same result. -/
  result_congr (other : Session) (arguments' : List Argument) :
    other.context.style = now.context.style → other.values arguments' = now.values arguments →
      (operation.anchors (now.values arguments) = true →
        other.context.directory.next = now.context.directory.next) →
      (other.step (.call operation arguments')).1 = (now.step (.call operation arguments)).1

theorem step_call_eq_refused_iff {now : Session} {operation : Operation}
    {arguments : List Argument} {error : ArgumentError} :
    (now.step (.call operation arguments)).1 = .error (.call (.argument error)) ↔
      (now.context.call operation (now.values arguments)).1 = .error (.argument error) := by
  rw [fst_step, fst_perform_call]
  cases (now.context.call operation (now.values arguments)).1 with
  | ok answer => exact iff_of_false nofun nofun
  | error other =>
    constructor
    · intro same
      cases same
      rfl
    · intro same
      cases same
      rfl

theorem takesSnapshot (now : Session) (operation : Operation) (arguments : List Argument) :
    now.TakesSnapshot operation arguments where
  directory_eq := directory_step_call now operation arguments
  refused_iff := by
    simp only [step_call_eq_refused_iff]
    exact Context.exists_call_eq_refused_iff now.context operation (now.values arguments)
  directory_of_refused error refused := by
    have suits := (Context.exists_call_eq_refused_iff now.context operation _).mp
      ⟨error, step_call_eq_refused_iff.mp refused⟩
    rw [directory_step_call, if_neg]
    intro needs
    exact suits (Operation.exists_makes_iff.mp (Operation.exists_makes_of_anchors needs))
  answered makes found := by
    rw [fst_step, fst_perform_call, Context.fst_call_of_makes makes found]
    rfl
  result_congr other arguments' style values next := by
    rw [fst_step, fst_step, fst_perform_call, fst_perform_call, values,
      Context.fst_call_congr style next]

/-- In a run within one context the current directory is read once for every call that starts from
it, at that very call, and all else that a call gives is decided by the style and its arguments. -/
theorem reads_after_and_takesSnapshot (session : Session) {steps : List Step}
    (keeps : ∀ step ∈ steps, step.keepsContext = true) :
    (session.after steps).context.directory.reads
        = session.context.directory.reads
          + (session.calls steps).countP (fun call => call.1.anchors call.2) ∧
      ∀ number operation arguments, steps[number]? = some (.call operation arguments) →
        (session.run steps)[number]?
            = some ((session.after (steps.take number)).step (.call operation arguments)) ∧
          (session.after (steps.take number)).TakesSnapshot operation arguments := by
  refine ⟨reads_after session keeps, ?_⟩
  intro number operation arguments called
  refine ⟨?_, takesSnapshot _ operation arguments⟩
  rw [getElem?_run, called, Option.map_some]

/-- A directory that is lost for one read, while the style changes. -/
theorem takesSnapshot_lost_and_found :
    let session : Session :=
      ⟨"/".toList,
        ⟨.posix, .ofAnswers [some "/home".toList, none, some "C:\\Home".toList]⟩, ⟨.posix, []⟩, []⟩
    let steps : List Step :=
      [.call .resolve [.value (.text "x".toList)], .call .resolve [.value .null],
        .setStyle (.text " NT".toList), .call .relative [.resultOf 0, .value (.text [])],
        .call .join [.value (.text "a".toList)],
        .call .relative [.value (.text "a".toList), .value (.text "c:\\home\\b".toList)]]
    (∀ step ∈ steps, step.keepsContext = true) ∧
      (session.after steps).context.directory.reads = 3 ∧
      ((session.after (steps.take 5)).step (.call .relative
          [.value (.text "a".toList), .value (.text "c:\\home\\b".toList)])).1.toOption
        = some (some (.text "..\\b".toList)) := by
  intro session steps
  have keeps : ∀ step ∈ steps, step.keepsContext = true := by decide
  obtain ⟨reads, snapshots⟩ := reads_after_and_takesSnapshot session keeps
  have found : (session.after (steps.take 5)).context.directory.next = some "C:\\Home".toList := by
    decide +kernel
  have answered := (snapshots 5 _ _ rfl).2.answered (.relative _ _) fun _ => found
  exact ⟨keeps, reads.trans (by decide +kernel),
    (congrArg Except.toOption answered).trans (by decide +kernel)⟩

end Session

end Pathwise
