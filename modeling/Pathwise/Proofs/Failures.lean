import Mathlib.Data.Nat.Count
import Pathwise.Proofs.Runs

/-!
# Failed steps

A step of a session fails because its arguments are refused, because it names a style that is
unknown, or because the current directory cannot be read. In the last case the read has taken place;
apart from that a failed step leaves everything as it was.

So a step that was refused may as well be left out. A session without some of its refused steps
gives the same results in the steps that remain, if the references to their answers are counted
anew.
-/

namespace Pathwise

/-! ### What a failed step leaves behind -/

/-- Whether a step failed because of what it asks for. The only other error is that the current
directory cannot be read. -/
def StepError.isRefusal : StepError → Bool
  | call (.argument _) | unknownStyle _ => true
  | call .noDirectory => false

/-- The answers of the reads to come; the last one is repeated for ever. -/
def Directory.remaining (source : Directory) : List (Option Text) :=
  source.next :: source.upcoming

/-- A read takes one answer away, unless it is the last one. -/
theorem Directory.remaining_advance (source : Directory) :
    source.advance.remaining
      = if source.upcoming.isEmpty then source.remaining else source.upcoming := by
  obtain ⟨next, upcoming, reads, counted⟩ := source
  cases upcoming <;> rfl

namespace Session

/-- A failed step leaves the session as it was, apart from the read that has failed. -/
theorem perform_of_error {session : Session} {step : Step} {error : StepError}
    (failed : (session.perform step).1 = .error error) :
    (error.isRefusal = true ∧ (session.perform step).2 = session) ∨
      (error = .call .noDirectory ∧ session.context.directory.next = none ∧
        (session.perform step).2
          = { session with context.directory := session.context.directory.advance }) := by
  cases step with
  | configure style directory =>
    simp only [perform] at failed ⊢
    split at failed
    · cases failed
    · cases failed
      exact .inl ⟨rfl, rfl⟩
  | start style directory | setStyle style =>
    simp only [perform] at failed ⊢
    split at failed
    · cases failed
    · cases failed
      exact .inl ⟨rfl, rfl⟩
  | choose | changeDirectory | setVariable | unsetVariable => cases failed
  | call operation arguments =>
    have called := session.context.called_call operation (arguments.map session.value)
    simp only [perform] at failed ⊢
    generalize session.context.call operation (arguments.map session.value) = done
      at called failed ⊢
    cases called with
    | refused request =>
      cases failed
      exact .inl ⟨rfl, rfl⟩
    | answered | anchored => cases failed
    | lost makes needs missing =>
      cases failed
      exact .inr ⟨rfl, missing, rfl⟩

/-- What a failed step leaves behind. -/
structure Spared (before after : Session) (error : StepError) : Prop where
  style : after.context.style = before.context.style
  summary : after.context.summary = before.context.summary
  environment : after.environment = before.environment
  directory_of_refusal : error.isRefusal = true →
    after.context.directory = before.context.directory
  /-- The read that has failed is the only one, and its answer the only one that is gone. -/
  directory_of_lost : error.isRefusal = false →
    before.context.directory.next = none ∧
      after.context.directory.reads = before.context.directory.reads + 1 ∧
      after.context.directory.remaining
        = if before.context.directory.upcoming.isEmpty then before.context.directory.remaining
          else before.context.directory.upcoming

theorem spared_step {session : Session} {step : Step} {error : StepError}
    (failed : (session.step step).1 = .error error) :
    session.Spared (session.step step).2 error := by
  rw [fst_step] at failed
  rcases perform_of_error failed with ⟨refusal, same⟩ | ⟨lost, missing, read⟩
  · have context : (session.step step).2.context = session.context :=
      (context_step session step).trans (congrArg Session.context same)
    have environment : (session.step step).2.environment = session.environment :=
      (environment_step session step).trans (congrArg Session.environment same)
    refine ⟨by rw [context], by rw [context], environment, fun _ => by rw [context], ?_⟩
    intro lost
    rw [refusal] at lost
    cases lost
  · have context : (session.step step).2.context
        = { session.context with directory := session.context.directory.advance } :=
      (context_step session step).trans (congrArg Session.context read)
    have environment : (session.step step).2.environment = session.environment :=
      (environment_step session step).trans (by rw [read])
    refine ⟨by rw [context], by rw [context]; rfl, environment, ?_, ?_⟩
    · intro refusal
      simp [lost, StepError.isRefusal] at refusal
    · intro _
      rw [context]
      exact ⟨missing, Directory.reads_advance _, Directory.remaining_advance _⟩

end Session

/-! ### Leaving steps out -/

variable {α : Type}

/-- What is left of a list once the entries with dropped numbers are gone. The first entry has the
number `first`. -/
def keep (dropped : Finset Nat) (first : Nat) : List α → List α
  | [] => []
  | entry :: rest =>
    if first ∈ dropped then keep dropped (first + 1) rest
    else entry :: keep dropped (first + 1) rest

/-- The number of a step after the dropped steps before it are gone. -/
def renumbered (dropped : Finset Nat) (step : Nat) : Nat :=
  Nat.count (· ∉ dropped) step

theorem keep_append (dropped : Finset Nat) (first : Nat) (before after : List α) :
    keep dropped first (before ++ after)
      = keep dropped first before ++ keep dropped (first + before.length) after := by
  induction before generalizing first with
  | nil => rfl
  | cons entry rest ih =>
    have shift : first + 1 + rest.length = first + (entry :: rest).length := by
      rw [List.length_cons]
      omega
    simp only [List.cons_append, keep, ih, shift]
    split <;> rfl

theorem getElem?_keep {dropped : Finset Nat} (entries : List α) {first number : Nat}
    (left : number + first ∉ dropped) :
    (keep dropped first entries)[Nat.count (· + first ∉ dropped) number]? = entries[number]? := by
  induction entries generalizing first number with
  | nil => rfl
  | cons entry rest ih =>
    cases number with
    | zero =>
      rw [Nat.zero_add] at left
      simp [keep, left]
    | succ number =>
      rw [Nat.add_right_comm, Nat.add_assoc] at left
      have others := ih left
      simp only [Nat.count_succ', Nat.add_right_comm _ 1 first, Nat.add_assoc, Nat.zero_add, keep]
      split
      · next gone => simpa [gone] using others
      · next stays => simpa [stays] using others

/-- The entry of a number that is not dropped is found under its new number. -/
theorem getElem?_keep_renumbered {dropped : Finset Nat} (entries : List α) {number : Nat}
    (left : number ∉ dropped) :
    (keep dropped 0 entries)[renumbered dropped number]? = entries[number]? := by
  exact @getElem?_keep α dropped entries 0 number left

def Argument.renumber (dropped : Finset Nat) : Argument → Argument
  | .value given => .value given
  | .resultOf step => .resultOf (renumbered dropped step)

/-- The step with its references counted anew. -/
def Step.renumber (dropped : Finset Nat) : Step → Step
  | .call operation arguments => .call operation (arguments.map (·.renumber dropped))
  | step => step

/-- Whether an argument of the step is the result of the step of that number. -/
def Step.RefersTo : Step → Nat → Prop
  | .call _ arguments, number => .resultOf number ∈ arguments
  | _, _ => False

namespace Session

/-- The session without the answers of dropped steps. -/
def without (dropped : Finset Nat) (session : Session) : Session :=
  { session with answers := keep dropped 0 session.answers }

@[simp] theorem context_without (dropped : Finset Nat) (session : Session) :
    (session.without dropped).context = session.context := rfl

@[simp] theorem environment_without (dropped : Finset Nat) (session : Session) :
    (session.without dropped).environment = session.environment := rfl

variable {dropped : Finset Nat}

theorem values_without {session : Session} {arguments : List Argument}
    (left : ∀ number, .resultOf number ∈ arguments → number ∉ dropped) :
    (session.without dropped).values (arguments.map (·.renumber dropped))
      = session.values arguments := by
  rw [values, values, List.map_map]
  refine List.map_congr_left ?_
  intro argument member
  cases argument with
  | value given => rfl
  | resultOf number =>
    have found := getElem?_keep_renumbered session.answers (left number member)
    simp only [Function.comp_apply, Argument.renumber, value, without, found]

/-- A step that remains gives the same if the dropped steps before it are missing. -/
theorem perform_without {session : Session} {step : Step}
    (left : ∀ number, step.RefersTo number → number ∉ dropped) :
    (session.without dropped).perform (step.renumber dropped)
      = ((session.perform step).1, (session.perform step).2.without dropped) := by
  cases step with
  | call operation arguments =>
    have same := @values_without dropped session arguments left
    rw [values, values] at same
    simp only [Step.renumber, perform, same, context_without]
    split <;> rfl
  | configure | start | setStyle =>
    simp only [Step.renumber, perform, context_without, environment_without]
    split <;> rfl
  | choose | changeDirectory | setVariable | unsetVariable => rfl

theorem length_answers_step (session : Session) (step : Step) :
    (session.step step).2.answers.length = session.answers.length + 1 :=
  List.length_append

theorem step_without {session : Session} {step : Step}
    (left : ∀ number, step.RefersTo number → number ∉ dropped)
    (stays : session.answers.length ∉ dropped) :
    (session.without dropped).step (step.renumber dropped)
      = ((session.step step).1, (session.step step).2.without dropped) := by
  simp only [Session.step, perform_without left]
  simp [without, keep_append, keep, stays]

/-- Of a step that is refused and dropped nothing is left. -/
theorem without_step_of_refusal {session : Session} {step : Step} {error : StepError}
    (failed : (session.perform step).1 = .error error) (refusal : error.isRefusal = true)
    (gone : session.answers.length ∈ dropped) :
    (session.step step).2.without dropped = session.without dropped := by
  rcases perform_of_error failed with ⟨-, same⟩ | ⟨rfl, -⟩
  · simp [Session.step, same, without, keep_append, keep, gone]
  · cases refusal

/-- The steps that remain give what they gave before, and leave the same context and environment. -/
theorem run_keep {session : Session} {steps : List Step}
    (refused : ∀ number, session.answers.length + number ∈ dropped →
      ∃ error, (session.run steps)[number]?.map Prod.fst = some (.error error) ∧
        error.isRefusal = true)
    (left : ∀ step ∈ keep dropped session.answers.length steps,
      ∀ number, step.RefersTo number → number ∉ dropped) :
    (session.without dropped).run
        ((keep dropped session.answers.length steps).map (·.renumber dropped))
      = (keep dropped session.answers.length (session.run steps)).map
          fun done => (done.1, done.2.without dropped) := by
  induction steps generalizing session with
  | nil => rfl
  | cons step rest ih =>
    have next := length_answers_step session step
    have others := @ih (session.step step).2
    rw [next] at others
    have refusedLater : ∀ number, session.answers.length + 1 + number ∈ dropped →
        ∃ error, ((session.step step).2.run rest)[number]?.map Prod.fst = some (.error error) ∧
          error.isRefusal = true := by
      intro number gone
      rw [Nat.add_right_comm, Nat.add_assoc] at gone
      exact refused (number + 1) gone
    by_cases gone : session.answers.length ∈ dropped
    · obtain ⟨error, failed, refusal⟩ := refused 0 gone
      have failed : (session.perform step).1 = .error error := Option.some.inj failed
      simp only [keep, gone, if_true] at left
      have same := others refusedLater left
      rw [without_step_of_refusal failed refusal gone] at same
      simpa only [keep, gone, if_true, run_cons] using same
    · simp only [keep, gone, if_false, List.forall_mem_cons] at left
      have same := others refusedLater left.2
      simp only [keep, gone, if_false, run_cons, List.map_cons, step_without left.1 gone, same]

/-- A failed step changes nothing: it leaves the context and the environment as they were, apart
from a read that has failed. So the refused steps of a session may be left out, in any selection, as
long as none of the others refers to them: the results of the others stay the same, and so do the
context and the environment after each of them. -/
theorem spared_step_and_run_keep :
    (∀ (session : Session) (step : Step) (error : StepError),
        (session.step step).1 = .error error → session.Spared (session.step step).2 error) ∧
      ∀ (environment : Environment) (directory : Text) (steps : List Step)
        (dropped : Finset Nat),
        (∀ number ∈ dropped, ∃ error,
          ((start environment directory).run steps)[number]?.map Prod.fst = some (.error error) ∧
            error.isRefusal = true) →
        (∀ step ∈ keep dropped 0 steps, ∀ number, step.RefersTo number → number ∉ dropped) →
        ((start environment directory).run ((keep dropped 0 steps).map (·.renumber dropped))).map
            (fun done => (done.1, done.2.context, done.2.environment))
          = (keep dropped 0 ((start environment directory).run steps)).map
              fun done => (done.1, done.2.context, done.2.environment) := by
  refine ⟨fun session step error failed => spared_step failed, ?_⟩
  intro environment directory steps dropped refused left
  have refused' : ∀ number, (start environment directory).answers.length + number ∈ dropped →
      ∃ error, ((start environment directory).run steps)[number]?.map Prod.fst
        = some (.error error) ∧
        error.isRefusal = true := by
    intro number gone
    exact refused number (Nat.zero_add number ▸ gone)
  have same := run_keep refused' left
  calc
    _ = ((keep dropped 0 ((start environment directory).run steps)).map
          fun done => (done.1, done.2.without dropped)).map
            fun done => (done.1, done.2.context, done.2.environment) := congrArg _ same
    _ = _ := by simp

/-- Three refusals that are left out: a style of the environment, an argument and a style by name.
The directory that is lost between them stays lost. -/
theorem run_keep_three_refusals :
    let environment : Environment := ⟨.posix, [(Config.styleVariable, "vms".toList)]⟩
    let directory : Text := "/".toList
    let steps : List Step :=
      [.configure none .missing, .choose .windows (.ofAnswers [some "C:\\a".toList, none]),
        .call .resolve [.value .null], .call .resolve [.value (.text "b".toList)],
        .setStyle .null, .call .relative [.resultOf 3, .value (.text [])],
        .call .dirname [.resultOf 3]]
    let others : List Step :=
      [.choose .windows (.ofAnswers [some "C:\\a".toList, none]),
        .call .resolve [.value (.text "b".toList)],
        .call .relative [.resultOf 1, .value (.text [])], .call .dirname [.resultOf 1]]
    (∀ number ∈ ({0, 2, 4} : Finset Nat), ∃ error,
        ((start environment directory).run steps)[number]?.map Prod.fst = some (.error error) ∧
          error.isRefusal = true) ∧
      (∀ step ∈ keep {0, 2, 4} 0 steps, ∀ number, step.RefersTo number →
        number ∉ ({0, 2, 4} : Finset Nat)) ∧
      ((start environment directory).run others).map
          (fun done => (done.1, done.2.context, done.2.environment))
        = (keep {0, 2, 4} 0 ((start environment directory).run steps)).map
            fun done => (done.1, done.2.context, done.2.environment) := by
  intro environment directory steps others
  have refused : ∀ number ∈ ({0, 2, 4} : Finset Nat), ∃ error,
      ((start environment directory).run steps)[number]?.map Prod.fst = some (.error error) ∧
        error.isRefusal = true := by
    simp only [Finset.mem_insert, Finset.mem_singleton, forall_eq_or_imp, forall_eq]
    exact ⟨⟨.unknownStyle ⟨.text "vms".toList⟩, rfl, rfl⟩,
      ⟨.call (.argument ⟨.resolve, .partNotText⟩), rfl, rfl⟩, ⟨.unknownStyle ⟨.null⟩, rfl, rfl⟩⟩
  have left : ∀ step ∈ keep {0, 2, 4} 0 steps, ∀ number, step.RefersTo number →
      number ∉ ({0, 2, 4} : Finset Nat) := by
    simp [keep, steps, Step.RefersTo]
  exact ⟨refused, left,
    spared_step_and_run_keep.2 environment directory steps {0, 2, 4} refused left⟩

end Session

end Pathwise
