import Pathwise.Proofs.CommandLines
import Pathwise.Proofs.Records
import Pathwise.Proofs.Terminals

/-!
# Diagnostics

Debugging and the theme have no part in what a program answers: to ask for debugging, or for another
theme, leaves the exit code and the output of a command line as they are. The log goes to the
standard error only. If debugging is asked for or the level of the environment lets all records
pass, it holds the records of the call behind the command, one line each; otherwise it is empty.
All of this is about terminals without colour, where the theme cannot be seen.

The level has to exist. One that does not ends the run, but not if debugging is asked for, because
then it is not looked at.
-/

namespace Pathwise.CommandLine

/-- An outcome without what is written to the standard error. -/
def Outcome.answer : Outcome → Outcome
  | finished status output _ => finished status output []
  | usageError => usageError
  | unknownStyle error => unknownStyle error
  | noDirectory => noDirectory

theorem Outcome.exists_finished_of_exitCode?_eq_zero {outcome : Outcome}
    (zero : outcome.exitCode? = some 0) : ∃ output errors, outcome = finished 0 output errors := by
  cases outcome with
  | finished status output errors =>
    obtain rfl := Option.some.inj zero
    exact ⟨output, errors, rfl⟩
  | usageError | unknownStyle | noDirectory => cases zero

/-! ### What a command logs -/

/-- The line of the log that a record stands on. -/
def debugLine (record : Text) : Text :=
  Text.line ("[DEBUG] ".toList ++ record)

theorem writtenDecisions_eq (threshold : Threshold) (decisions : List Decision) :
    writtenDecisions threshold decisions
      = if threshold.rank ≤ Severity.debug.rank then
          (decisions.map Decision.message).flatMap debugLine
        else [] := by
  rw [List.flatMap_map]
  unfold writtenDecisions Threshold.written
  split
  · rfl
  · simp

namespace Command

/-- The records of the call behind a command. Printing the separator calls nothing. -/
def records (context : Context) : Command → List Text → List Text
  | operation called, operands => context.records called (operands.map .text)
  | separator, _ => []

variable {context : Context} {command : Command} {operands : List Text}

/-- A command that succeeds logs the records of its call, or nothing. -/
theorem errors_execute {console : Console} {threshold : Threshold} {output errors : Text}
    (succeeds : command.execute console threshold context operands = .finished 0 output errors) :
    errors = if threshold.rank ≤ Severity.debug.rank then
        (command.records context operands).flatMap debugLine
      else [] := by
  have executed := executed_execute console threshold context command operands
  rw [succeeds] at executed
  cases executed with
  | separator => simp [records]
  | answered _ answered => rw [writtenDecisions_eq, records, Context.records, answered]

/-- Without colour, the answer of a command depends on what is called and on nothing else. -/
theorem answer_execute_congr {terminal : Terminal} (uncoloured : terminal.Uncoloured)
    (theme other : Theme) (threshold otherThreshold : Threshold) :
    (command.execute ⟨theme, terminal⟩ threshold context operands).answer
      = (command.execute ⟨other, terminal⟩ otherThreshold context operands).answer := by
  by_cases accepts : command.accepts operands.length = true
  · cases command with
    | separator =>
      obtain rfl := List.length_eq_zero_iff.mp (accepts_iff_takes.mp accepts)
      simp only [execute_separator, Outcome.answer, uncoloured.result_eq]
    | operation called =>
      rw [execute_operation accepts, execute_operation accepts, printAnswer, printAnswer]
      split
      · simp only [Outcome.answer, uncoloured.result_eq]
      · rfl
      · rfl
  · rw [execute_of_not_accepts accepts, execute_of_not_accepts accepts]

end Command

/-! ### What diagnostics change -/

/-- A level that exists gives a threshold, and the threshold lets debug records pass if debugging is
asked for or the level is one of the two lowest. -/
theorem exists_choose_eq_ok (debug : Bool) {level : Text}
    (accepted : level.capitals ∈ Threshold.names.map Prod.fst) :
    ∃ threshold, Threshold.choose debug level = .ok threshold ∧
      (threshold.rank ≤ Severity.debug.rank ↔
        debug = true ∨ level.capitals = "DEBUG".toList ∨ level.capitals = "NOTSET".toList) := by
  cases debug with
  | true => exact ⟨_, rfl, by simp [Severity.rank]⟩
  | false =>
    have all : ∀ entry ∈ Threshold.names, entry.2.rank ≤ Severity.debug.rank ↔
        entry.1 = "DEBUG".toList ∨ entry.1 = "NOTSET".toList := by decide
    obtain ⟨threshold, known⟩ := Option.isSome_iff_exists.mp (isSome_lookup_iff.mpr accepted)
    refine ⟨threshold, by simp [Threshold.choose, Threshold.ofName?, known], ?_⟩
    simpa using all (level.capitals, threshold) (mem_of_lookup_eq_some known)

variable {environment : Environment} {directory : Directory}

/-- Two invocations that call for the same command in the same style have the same answer. -/
theorem Invocation.answer_run_congr {terminal : Terminal} (uncoloured : terminal.Uncoloured)
    (accepted : (Config.environmentLevel environment).capitals ∈ Threshold.names.map Prod.fst)
    (theme other : Theme) (style : Option Style) (debug otherDebug : Bool) (command : Command)
    (arguments : List Text) :
    (run ⟨⟨theme, terminal⟩, style, debug, command, arguments⟩ environment directory).answer
      = (run ⟨⟨other, terminal⟩, style, otherDebug, command, arguments⟩ environment
          directory).answer := by
  obtain ⟨threshold, chosen, -⟩ := exists_choose_eq_ok debug accepted
  obtain ⟨otherThreshold, otherChosen, -⟩ := exists_choose_eq_ok otherDebug accepted
  unfold run
  dsimp only
  split
  · rfl
  · next config loaded =>
    rw [(load_eq_ok_iff.mp loaded).2, chosen, otherChosen]
    dsimp only
    split
    · exact Command.answer_execute_congr uncoloured theme other threshold otherThreshold
    · rfl

/-- The options that concern diagnostics and looks: debugging, and a theme that exists. -/
def Choice.IsDiagnostic (choice : Choice) : Prop :=
  choice = .debug ∨ ∃ theme : Theme, choice = .setting .theme theme.name

theorem lastValue?_cons (which : Setting) (choice : Choice) (choices : List Choice) :
    lastValue? which (choice :: choices) = (lastValue? which choices).or (choice.value? which) := by
  unfold lastValue?
  cases value : choice.value? which with
  | none => rw [List.filterMap_cons_none value, Option.or_none]
  | some text =>
    rw [List.filterMap_cons_some value, List.getLast?_cons]
    cases (choices.filterMap (·.value? which)).getLast? <;> rfl

namespace Choice.IsDiagnostic

variable {choice : Choice} {choices : List Choice}

theorem lastValue?_style (diagnostic : choice.IsDiagnostic) :
    lastValue? .style (choice :: choices) = lastValue? .style choices := by
  rw [lastValue?_cons]
  obtain rfl | ⟨theme, rfl⟩ := diagnostic <;> exact Option.or_none

/-- In front of valid options a diagnostic one is valid. -/
theorem valid (diagnostic : choice.IsDiagnostic) (valid : Valid choices) :
    Valid (choice :: choices) := by
  refine ⟨?_, by rw [diagnostic.lastValue?_style]; exact valid.style⟩
  intro value last
  rw [lastValue?_cons, Option.or_eq_some_iff] at last
  rcases last with later | ⟨-, own⟩
  · exact valid.theme value later
  · obtain rfl | ⟨theme, rfl⟩ := diagnostic
    · cases own
    · exact ⟨theme, Option.some.inj own⟩

theorem ne_version (diagnostic : choice.IsDiagnostic) : choice ≠ .version := by
  obtain rfl | ⟨theme, rfl⟩ := diagnostic <;> exact nofun

end Choice.IsDiagnostic

/-- The style that valid options lead to: the one that they ask for, or else the environment's. -/
theorem style_of_load {choices : List Choice} {style : Option Style} {config : Config}
    (asked : (Options.ofChoices choices).style? = some style)
    (loaded : Config.load environment (style.map (.text ·.name)) none = .ok config) :
    lastValue? .style choices = some config.style.name ∨
      lastValue? .style choices = none ∧
        Config.environmentStyle environment = .ok config.style := by
  rw [← style?_eq_some_iff.mp asked]
  obtain ⟨rfl | ⟨rfl, offered⟩, -⟩ := load_eq_ok_iff.mp loaded
  · exact .inl rfl
  · exact .inr ⟨rfl, offered⟩

/-- An invocation that succeeds has a style and operands, and it logs the records of its command if
the threshold is low enough. -/
theorem Invocation.errors_run {invocation : Invocation} {output errors : Text}
    (accepted : (Config.environmentLevel environment).capitals ∈ Threshold.names.map Prod.fst)
    (succeeds : invocation.run environment directory = .finished 0 output errors) :
    ∃ config operands,
      Config.load environment (invocation.style.map (.text ·.name)) none = .ok config ∧
      operands? invocation.arguments = some operands ∧
      errors = if invocation.debug = true ∨
            (Config.environmentLevel environment).capitals = "DEBUG".toList ∨
            (Config.environmentLevel environment).capitals = "NOTSET".toList then
          (invocation.command.records ⟨config.style, directory⟩ operands).flatMap debugLine
        else [] := by
  obtain ⟨threshold, chosen, reaches⟩ := exists_choose_eq_ok invocation.debug accepted
  cases loaded : Config.load environment (invocation.style.map (.text ·.name)) none with
  | error error =>
    rw [run, loaded] at succeeds
    cases succeeds
  | ok config =>
    rw [← (load_eq_ok_iff.mp loaded).2] at chosen reaches ⊢
    cases separated : operands? invocation.arguments with
    | none =>
      simp only [run, loaded, chosen, separated] at succeeds
      cases succeeds
    | some operands =>
      rw [run_eq_execute loaded chosen separated] at succeeds
      refine ⟨config, operands, rfl, rfl, ?_⟩
      rw [Command.errors_execute succeeds]
      exact if_congr reaches rfl rfl

/-- On a terminal without colour, and for a command line with valid options, a command and an
environment whose log level exists, it makes no difference to the answer whether an option for
debugging or for a theme is put in front, in whatever form. And if the run succeeds, its log holds
the records of the call behind the command, in the style that is asked for, if debugging is asked
for or the level lets all records pass; else it is empty. -/
theorem answer_run_append_and_errors_eq {terminal : Terminal} {environment : Environment}
    {choices : List Choice} {command : Command} {arguments rest : List Text}
    (uncoloured : terminal.Uncoloured)
    (accepted : (Config.environmentLevel environment).capitals ∈ Threshold.names.map Prod.fst)
    (starts : StartsWith choices arguments (command.name :: rest)) (valid : Valid choices)
    (unasked : .version ∉ choices) (directory : Directory) :
    (∀ choice written, Choice.IsDiagnostic choice → Written choice written →
        (run terminal environment directory (written ++ arguments)).answer
          = (run terminal environment directory arguments).answer) ∧
      ∀ output errors,
        run terminal environment directory arguments = .finished 0 output errors →
          ∃ style operands,
            (lastValue? .style choices = some (Style.name style) ∨
              lastValue? .style choices = none ∧
                Config.environmentStyle environment = .ok style) ∧
            operands? rest = some operands ∧
            errors = if .debug ∈ choices ∨
                  (Config.environmentLevel environment).capitals = "DEBUG".toList ∨
                  (Config.environmentLevel environment).capitals = "NOTSET".toList then
                (command.records ⟨style, directory⟩ operands).flatMap debugLine
              else [] := by
  obtain ⟨⟨theme, themed⟩, style, styled⟩ := valid_iff.mp valid
  have runs := @run_of_startsWith terminal environment directory _ _ _ _ _ _ starts unasked themed
    styled
  constructor
  · intro choice written diagnostic form
    obtain ⟨⟨other, otherThemed⟩, -⟩ := valid_iff.mp (diagnostic.valid valid)
    have otherStyled : (Options.ofChoices (choice :: choices)).style? = some style := by
      rw [style?_eq_some_iff, diagnostic.lastValue?_style, style?_eq_some_iff.mp styled]
    have otherUnasked : .version ∉ choice :: choices :=
      List.not_mem_cons_of_ne_of_not_mem diagnostic.ne_version.symm unasked
    rw [runs, run_of_startsWith (.option form starts) otherUnasked otherThemed otherStyled]
    exact Invocation.answer_run_congr uncoloured accepted other theme style _ _ command rest
  · intro output errors succeeds
    rw [runs] at succeeds
    obtain ⟨config, operands, loaded, separated, logged⟩ :=
      Invocation.errors_run accepted succeeds
    refine ⟨config.style, operands, style_of_load styled loaded, separated, ?_⟩
    simpa only [decide_eq_true_eq] using logged

/-- The environment names the style and lets all records pass, and the current directory is
relative. -/
theorem answer_run_append_and_errors_eq_unrooted :
    let terminal := Terminal.simple none fun _ => 1
    let environment : Environment :=
      ⟨.posix, [(Config.levelVariable, "Notset".toList), (Config.styleVariable, " NT".toList)]⟩
    let directory : Directory := .constant "work".toList
    let choices : List Choice := [.setting .theme "green".toList]
    let rest := ["--".toList, "-a".toList, "..".toList]
    let arguments := "-tgreen".toList :: Command.name (.operation .resolve) :: rest
    terminal.Uncoloured ∧
      (Config.environmentLevel environment).capitals ∈ Threshold.names.map Prod.fst ∧
      StartsWith choices arguments (Command.name (.operation .resolve) :: rest) ∧
      Valid choices ∧ .version ∉ choices ∧
      Choice.IsDiagnostic .debug ∧ Written .debug ["--debug".toList] ∧
      (run terminal environment directory (["--debug".toList] ++ arguments)).answer
        = (run terminal environment directory arguments).answer ∧
      ∃ output errors style operands,
        run terminal environment directory arguments = .finished 0 output errors ∧
        operands? rest = some operands ∧
        errors = (Command.records ⟨style, directory⟩ (.operation .resolve) operands).flatMap
          debugLine := by
  intro terminal environment directory choices rest arguments
  have uncoloured : terminal.Uncoloured := Terminal.uncoloured_simple none _
  have accepted :
      (Config.environmentLevel environment).capitals ∈ Threshold.names.map Prod.fst := by
    decide +kernel
  have lowest : (Config.environmentLevel environment).capitals = "NOTSET".toList := by
    decide +kernel
  have starts : StartsWith choices arguments (Command.name (.operation .resolve) :: rest) :=
    .option (.shortJoined .theme (List.cons_ne_nil 'g' _))
      (.operand (Command.looksLikeOption_name (.operation .resolve)) rest)
  have valid : Valid choices := valid_iff.mpr ⟨⟨.green, rfl⟩, none, rfl⟩
  have unasked : .version ∉ choices := by decide
  have zero : (run terminal environment directory arguments).exitCode? = some 0 := by decide +kernel
  obtain ⟨same, logged⟩ :=
    answer_run_append_and_errors_eq uncoloured accepted starts valid unasked directory
  obtain ⟨output, errors, finished⟩ := Outcome.exists_finished_of_exitCode?_eq_zero zero
  obtain ⟨style, operands, -, separated, written⟩ := logged output errors finished
  rw [if_pos (.inr (.inr lowest))] at written
  exact ⟨uncoloured, accepted, starts, valid, unasked, .inl rfl, .debug,
    same .debug _ (.inl rfl) .debug, output, errors, style, operands, finished, separated, written⟩

end Pathwise.CommandLine
