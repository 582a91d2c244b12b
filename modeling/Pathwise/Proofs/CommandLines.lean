import Mathlib.Data.List.Basic
import Pathwise.CommandLine.Run
import Pathwise.Proofs.Calls
import Pathwise.Proofs.Options

/-!
# Outcomes of command lines

A command hands its operands to the operation of the same name, as they are and in order, and prints
the answer. It takes just as many operands as the operation takes arguments, so the operation never
refuses what the command has accepted, and a run has only one way to end with the exit code 1: the
environment names no log level that exists, and nothing that is checked earlier is wrong.
-/

namespace Pathwise.CommandLine

/-- The exit code of a run. A run that ends in an error that nothing catches has none. -/
def Outcome.exitCode? : Outcome → Option Nat
  | finished status _ _ => some status
  | usageError => some 2
  | unknownStyle _ | noDirectory => none

/-! ### Carrying out a command -/

namespace Command

/-- The word that calls for a command. -/
def name : Command → Text
  | operation .normalize => "normalize".toList
  | operation .resolve => "resolve".toList
  | operation .join => "join".toList
  | operation .dirname => "dirname".toList
  | operation .basename => "basename".toList
  | operation .extname => "extname".toList
  | operation .isAbsolute => "is-absolute".toList
  | operation .relative => "relative".toList
  | separator => "sep".toList

theorem ofName?_eq_some_iff {word : Text} {command : Command} :
    ofName? word = some command ↔ word = command.name := by
  constructor
  · intro found
    have all : ∀ entry ∈ names, entry.1 = entry.2.name := by decide
    exact all (word, command) (mem_of_lookup_eq_some found)
  · rintro rfl
    cases command with
    | operation called => cases called <;> rfl
    | separator => rfl

theorem looksLikeOption_name (command : Command) : looksLikeOption command.name = false := by
  cases command with
  | operation called => cases called <;> rfl
  | separator => rfl

/-- How many operands a command takes. -/
def Takes : Command → Nat → Prop
  | operation called, count => called.Takes count
  | separator, count => count = 0

theorem accepts_iff_takes {command : Command} {count : Nat} :
    command.accepts count = true ↔ command.Takes count := by
  cases command with
  | operation called => cases called <;> simp [accepts, Takes, Operation.Takes]
  | separator => simp [accepts, Takes]

/-- A command takes what its operation takes. -/
theorem accepts_operation_iff {called : Operation} {operands : List Text} :
    (operation called).accepts operands.length = true ↔
      ∃ request, called.request (operands.map .text) = .ok request := by
  rw [accepts_iff_takes]
  simp only [Operation.request_eq_ok_iff, Operation.exists_makes_iff]
  constructor
  · intro takes
    exact ⟨operands, rfl, takes⟩
  · rintro ⟨texts, same, takes⟩
    have length := congrArg List.length same
    rw [List.length_map, List.length_map] at length
    rwa [← length] at takes

/-- How a command ends. -/
inductive Executed (console : Console) (threshold : Threshold) (context : Context) :
    Command → List Text → Outcome → Prop
  | miscounted {command : Command} {operands : List Text}
    (miscounted : ¬ command.Takes operands.length) :
    Executed console threshold context command operands .usageError
  | separator :
    Executed console threshold context .separator []
      (.finished 0 (console.result [context.style.separator]) [])
  | answered {called : Operation} {operands : List Text} {answer : Logged Answer}
    (takes : called.Takes operands.length)
    (answered : (context.call called (operands.map .text)).1 = .ok answer) :
    Executed console threshold context (.operation called) operands
      (.finished 0 (console.result answer.value.printed)
        (writtenDecisions threshold answer.decisions))
  | lost {called : Operation} {operands : List Text} (takes : called.Takes operands.length)
    (lost : (context.call called (operands.map .text)).1 = .error .noDirectory) :
    Executed console threshold context (.operation called) operands .noDirectory

/-- A command that accepts its operands hands them to its operation, as they are and in order. -/
theorem execute_operation {called : Operation} {operands : List Text}
    (accepts : (operation called).accepts operands.length = true) (console : Console)
    (threshold : Threshold) (context : Context) :
    execute console threshold context (operation called) operands
      = printAnswer console threshold context called (operands.map .text) := by
  unfold execute
  rw [if_pos accepts]
  -- One body for each shape of parameters; the operands are as many as the body binds.
  cases called with
  | resolve | join => rfl
  | normalize | dirname | extname | isAbsolute =>
    obtain ⟨path, rfl⟩ := List.length_eq_one_iff.mp (beq_iff_eq.mp accepts)
    rfl
  | basename =>
    rcases Bool.or_eq_true_iff.mp accepts with one | two
    · obtain ⟨path, rfl⟩ := List.length_eq_one_iff.mp (beq_iff_eq.mp one)
      rfl
    · obtain ⟨path, suffix, rfl⟩ := List.length_eq_two.mp (beq_iff_eq.mp two)
      rfl
  | relative =>
    obtain ⟨source, target, rfl⟩ := List.length_eq_two.mp (beq_iff_eq.mp accepts)
    rfl

theorem execute_separator (console : Console) (threshold : Threshold) (context : Context) :
    execute console threshold context separator []
      = .finished 0 (console.result [context.style.separator]) [] := rfl

theorem execute_of_not_accepts {command : Command} {operands : List Text}
    (refuses : ¬ command.accepts operands.length = true) (console : Console)
    (threshold : Threshold) (context : Context) :
    execute console threshold context command operands = .usageError := by
  unfold execute
  exact if_neg refuses

theorem executed_execute (console : Console) (threshold : Threshold) (context : Context)
    (command : Command) (operands : List Text) :
    Executed console threshold context command operands
      (command.execute console threshold context operands) := by
  by_cases accepts : command.accepts operands.length = true
  · have takes := accepts_iff_takes.mp accepts
    cases command with
    | separator =>
      obtain rfl := List.length_eq_zero_iff.mp takes
      exact .separator
    | operation called =>
      rw [execute_operation accepts, printAnswer]
      split
      · next answer answered => exact .answered takes answered
      · next error refused =>
        have suits := (Context.exists_call_eq_refused_iff context called _).mp ⟨error, refused⟩
        exact absurd ⟨operands, rfl, takes⟩ suits
      · next lost => exact .lost takes lost
  · rw [execute_of_not_accepts accepts]
    exact .miscounted (mt accepts_iff_takes.mpr accepts)

theorem exitCode?_execute_ne_one (console : Console) (threshold : Threshold) (context : Context)
    (command : Command) (operands : List Text) :
    (command.execute console threshold context operands).exitCode? ≠ some 1 := by
  have executed := executed_execute console threshold context command operands
  generalize command.execute console threshold context operands = outcome at executed
  cases executed <;> simp [Outcome.exitCode?]

end Command

/-! ### Valid options -/

/-- Settings whose values exist. Of a setting that is given more than once the last value counts. -/
structure Valid (choices : List Choice) : Prop where
  theme (value : Text) :
    lastValue? .theme choices = some value → ∃ theme : Theme, theme.name = value
  style (value : Text) :
    lastValue? .style choices = some value → ∃ style : Style, style.name = value

theorem ofName?_theme_eq_some_iff {name : Text} {theme : Theme} :
    Theme.ofName? name = some theme ↔ theme.name = name := by
  constructor
  · intro found
    simpa using List.find?_some found
  · rintro rfl
    exact Theme.ofName?_name theme

theorem find?_style_eq_some_iff {name : Text} {style : Style} :
    [Style.posix, Style.windows].find? (·.name = name) = some style ↔ style.name = name := by
  constructor
  · intro found
    simpa using List.find?_some found
  · rintro rfl
    cases style <;> rfl

theorem exists_theme?_iff {choices : List Choice} :
    (∃ theme, (Options.ofChoices choices).theme? = some theme) ↔
      ∀ value, lastValue? .theme choices = some value → ∃ theme : Theme, theme.name = value := by
  simp only [Options.theme?, Options.ofChoices]
  cases lastValue? .theme choices with
  | none => simp
  | some name => simp [ofName?_theme_eq_some_iff]

/-- The style that the options ask for is named by the value that counts. -/
theorem style?_eq_some_iff {choices : List Choice} {style : Option Style} :
    (Options.ofChoices choices).style? = some style ↔
      style.map Style.name = lastValue? .style choices := by
  simp only [Options.style?, Options.ofChoices]
  cases lastValue? .style choices with
  | none => simp [@eq_comm _ none]
  | some name =>
    cases style with
    | none => simp
    | some style =>
      simp only [Option.map_eq_some_iff, find?_style_eq_some_iff, Option.some.injEq,
        exists_eq_right, exists_eq_left']

theorem exists_style?_iff {choices : List Choice} :
    (∃ style, (Options.ofChoices choices).style? = some style) ↔
      ∀ value, lastValue? .style choices = some value → ∃ style : Style, style.name = value := by
  simp only [style?_eq_some_iff]
  cases lastValue? .style choices with
  | none => exact iff_of_true ⟨none, rfl⟩ nofun
  | some name =>
    simp only [Option.map_eq_some_iff, Option.some.injEq, forall_eq']
    constructor
    · rintro ⟨_, style, -, named⟩
      exact ⟨style, named⟩
    · rintro ⟨style, named⟩
      exact ⟨some style, style, rfl, named⟩

theorem valid_iff {choices : List Choice} :
    Valid choices ↔
      (∃ theme, (Options.ofChoices choices).theme? = some theme) ∧
        ∃ style, (Options.ofChoices choices).style? = some style := by
  rw [exists_theme?_iff, exists_style?_iff]
  exact ⟨fun valid => ⟨valid.theme, valid.style⟩, fun found => ⟨found.1, found.2⟩⟩

/-- A style that the options ask for takes the place of the environment's. -/
theorem isSome_eq_of_style?_eq_some {choices : List Choice} {style : Option Style}
    (asked : (Options.ofChoices choices).style? = some style) :
    style.isSome = (lastValue? .style choices).isSome := by
  rw [← style?_eq_some_iff.mp asked, Option.isSome_map]

/-! ### The settings of the environment -/

theorem isSome_lookup_iff {α : Type} {name : Text} {table : List (Text × α)} :
    (table.lookup name).isSome = true ↔ name ∈ table.map Prod.fst := by
  rw [List.lookup_isSome_iff, List.mem_map]
  simp only [beq_iff_eq, @eq_comm _ name]

/-- The environment has a style to offer, where an unset or empty name stands for the style of the
host. -/
def OffersStyle (environment : Environment) : Prop :=
  ∀ name, environment.get? Config.styleVariable = some name → name ≠ [] →
    name.trim.lower ∈ Style.names.map Prod.fst

theorem exists_environmentStyle_iff {environment : Environment} :
    (∃ style, Config.environmentStyle environment = .ok style) ↔ OffersStyle environment := by
  unfold OffersStyle Config.environmentStyle
  split
  · next unset => simp [unset]
  · next empty => simp [empty]
  · next name filled given =>
    simp only [Style.ofValue_text_eq_ok_iff, ← Option.isSome_iff_exists, Style.ofName?,
      isSome_lookup_iff, given, Option.some.injEq, forall_eq']
    exact ⟨fun known _ => known, fun known => known filled⟩

theorem load_eq_ok_iff {environment : Environment} {style : Option Style} {config : Config} :
    Config.load environment (style.map (.text ·.name)) none = .ok config ↔
      (style = some config.style ∨
        style = none ∧ Config.environmentStyle environment = .ok config.style) ∧
      config.logLevel = Config.environmentLevel environment := by
  obtain ⟨chosen, level⟩ := config
  cases style with
  | some style =>
    have named : Style.ofValue (.text style.name) = .ok style :=
      Style.ofValue_text_eq_ok_iff.mpr (Style.ofName?_name style)
    simp [Config.load, named, Except.map, @eq_comm _ level]
  | none =>
    cases found : Config.environmentStyle environment with
    | error error => simp [Config.load, found, Except.map]
    | ok style => simp [Config.load, found, Except.map, @eq_comm _ level]

theorem exists_load_eq_ok_iff {environment : Environment} {style : Option Style} :
    (∃ config, Config.load environment (style.map (.text ·.name)) none = .ok config) ↔
      style.isSome = true ∨ OffersStyle environment := by
  simp only [load_eq_ok_iff]
  constructor
  · rintro ⟨config, rfl | ⟨-, found⟩, -⟩
    · exact .inl rfl
    · exact .inr (exists_environmentStyle_iff.mp ⟨config.style, found⟩)
  · cases style with
    | some style => exact fun _ => ⟨⟨style, Config.environmentLevel environment⟩, .inl rfl, rfl⟩
    | none =>
      rintro (given | offers)
      · cases given
      · obtain ⟨style, found⟩ := exists_environmentStyle_iff.mpr offers
        exact ⟨⟨style, Config.environmentLevel environment⟩, .inr ⟨rfl, found⟩, rfl⟩

theorem exists_choose_eq_error_iff {debug : Bool} {level : Text} :
    (∃ error, Threshold.choose debug level = .error error) ↔
      debug = false ∧ level.capitals ∉ Threshold.names.map Prod.fst := by
  rw [← isSome_lookup_iff, ← Threshold.ofName?]
  cases debug with
  | true => simp [Threshold.choose]
  | false => cases found : Threshold.ofName? level <;> simp [Threshold.choose, found]

/-! ### Running -/

namespace Invocation

variable {invocation : Invocation} {environment : Environment} {directory : Directory}

theorem run_eq_execute {config : Config} {threshold : Threshold} {operands : List Text}
    (loaded : Config.load environment (invocation.style.map (.text ·.name)) none = .ok config)
    (chosen : Threshold.choose invocation.debug config.logLevel = .ok threshold)
    (separated : operands? invocation.arguments = some operands) :
    invocation.run environment directory
      = invocation.command.execute invocation.console threshold ⟨config.style, directory⟩
          operands := by
  simp [run, loaded, chosen, separated]

/-- An invocation ends with the exit code 1 for one reason: the log level does not exist. -/
theorem exitCode?_run_eq_one_iff :
    (invocation.run environment directory).exitCode? = some 1 ↔
      (invocation.style.isSome = true ∨ OffersStyle environment) ∧ invocation.debug = false ∧
        (Config.environmentLevel environment).capitals ∉ Threshold.names.map Prod.fst := by
  rw [← exists_load_eq_ok_iff, ← exists_choose_eq_error_iff]
  -- One case for each place where the run can end. Only in the second one it ends with the code 1.
  fun_cases run invocation environment directory with
  | case1 error failed => simp [failed, Outcome.exitCode?]
  | case2 config loaded error unknown =>
    rw [(load_eq_ok_iff.mp loaded).2] at unknown
    simp [loaded, unknown, Outcome.exitCode?]
  | case3 config loaded threshold known operands _ =>
    rw [(load_eq_ok_iff.mp loaded).2] at known
    simp [known, Command.exitCode?_execute_ne_one]
  | case4 config loaded threshold known =>
    rw [(load_eq_ok_iff.mp loaded).2] at known
    simp [known, Outcome.exitCode?]

end Invocation

/-- How a run of the program ends. -/
inductive Ran (terminal : Terminal) (environment : Environment) (directory : Directory)
    (arguments : List Text) : Outcome → Prop
  | malformed : Ran terminal environment directory arguments .usageError
  | version {choices : List Choice} {rest : List Text} (starts : StartsWith choices arguments rest)
    (asked : .version ∈ choices) :
    Ran terminal environment directory arguments (.finished 0 versionLine [])
  | invoked {choices : List Choice} {command : Command} {rest : List Text} {theme : Theme}
    {style : Option Style} (starts : StartsWith choices arguments (command.name :: rest))
    (unasked : .version ∉ choices) (themed : (Options.ofChoices choices).theme? = some theme)
    (styled : (Options.ofChoices choices).style? = some style) :
    Ran terminal environment directory arguments
      (Invocation.run ⟨⟨theme, terminal⟩, style, decide (.debug ∈ choices), command, rest⟩
        environment directory)

theorem ran_run (terminal : Terminal) (environment : Environment) (directory : Directory)
    (arguments : List Text) :
    Ran terminal environment directory arguments
      (run terminal environment directory arguments) := by
  fun_cases run terminal environment directory arguments with
  | case1 | case4 | case5 => exact .malformed
  | case2 options rest read asked =>
    obtain ⟨choices, starts, rfl⟩ := read_eq_some_iff.mp read
    rw [foldl_put_initial] at asked
    exact .version starts (of_decide_eq_true asked)
  | case3 options unasked theme style name rest styled themed command found read =>
    obtain ⟨choices, starts, rfl⟩ := read_eq_some_iff.mp read
    rw [foldl_put_initial] at unasked themed styled ⊢
    obtain rfl := Command.ofName?_eq_some_iff.mp found
    exact .invoked starts (fun asked => unasked (decide_eq_true asked)) themed styled

theorem run_of_startsWith {terminal : Terminal} {environment : Environment} {directory : Directory}
    {choices : List Choice} {arguments rest : List Text} {command : Command} {theme : Theme}
    {style : Option Style} (starts : StartsWith choices arguments (command.name :: rest))
    (unasked : .version ∉ choices) (themed : (Options.ofChoices choices).theme? = some theme)
    (styled : (Options.ofChoices choices).style? = some style) :
    run terminal environment directory arguments
      = Invocation.run ⟨⟨theme, terminal⟩, style, decide (.debug ∈ choices), command, rest⟩
          environment directory := by
  have read : Options.initial.read arguments
      = some (Options.ofChoices choices, command.name :: rest) := by
    rw [read_of_startsWith starts, foldl_put_initial]
  have found := Command.ofName?_eq_some_iff.mpr (rfl : command.name = command.name)
  have unasked : (Options.ofChoices choices).version = false := decide_eq_false unasked
  simp only [run, read, unasked, themed, styled, found]
  rfl

/-- A run ends with the exit code 1 if and only if its options are valid and do not ask for the
version, the command exists, there is a style, and the log level of the environment does not exist
while `--debug` is not given. What a command accepts is what its operation takes, so that no run
gets as far as an argument that is refused. -/
theorem exitCode?_eq_one_iff_and_accepts_iff :
    (∀ (terminal : Terminal) (environment : Environment) (directory : Directory)
        (arguments : List Text),
      (run terminal environment directory arguments).exitCode? = some 1 ↔
        ∃ (choices : List Choice) (command : Command) (operands : List Text),
          StartsWith choices arguments (command.name :: operands) ∧ Valid choices ∧
          .version ∉ choices ∧
          ((lastValue? .style choices).isSome = true ∨ OffersStyle environment) ∧
          .debug ∉ choices ∧
          (Config.environmentLevel environment).capitals ∉ Threshold.names.map Prod.fst) ∧
      ∀ (called : Operation) (operands : List Text),
        (Command.operation called).accepts operands.length = true ↔
          ∃ request, called.request (operands.map .text) = .ok request := by
  refine ⟨fun terminal environment directory arguments => ⟨?_, ?_⟩, ?_⟩
  · intro failed
    have ran := ran_run terminal environment directory arguments
    generalize run terminal environment directory arguments = outcome at ran failed
    cases ran with
    | malformed | version => cases failed
    | @invoked choices command rest theme style starts unasked themed styled =>
      obtain ⟨source, silent, unknown⟩ := Invocation.exitCode?_run_eq_one_iff.mp failed
      rw [isSome_eq_of_style?_eq_some styled] at source
      exact ⟨choices, command, rest, starts, valid_iff.mpr ⟨⟨theme, themed⟩, style, styled⟩,
        unasked, source, of_decide_eq_false silent, unknown⟩
  · rintro ⟨choices, command, operands, starts, valid, unasked, source, silent, unknown⟩
    obtain ⟨⟨theme, themed⟩, style, styled⟩ := valid_iff.mp valid
    rw [← isSome_eq_of_style?_eq_some styled] at source
    rw [run_of_startsWith starts unasked themed styled]
    exact Invocation.exitCode?_run_eq_one_iff.mpr ⟨source, decide_eq_false silent, unknown⟩
  · exact fun called operands => Command.accepts_operation_iff

-- The environment is looked at before the operands, so the code is 1 and not 2.
example (terminal : Terminal) :
    (run terminal ⟨.posix, [(Config.levelVariable, "loud".toList)]⟩ .missing
      ["sep".toList, "--loud".toList]).exitCode? = some 1 := rfl

end Pathwise.CommandLine
