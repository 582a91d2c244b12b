import Pathwise.Proofs.CommandLines

/-!
# Operands

After the name of a command come its operands. Behind `--` every argument is one, whatever it looks
like, so that a command can be given any texts at all. It hands them to its operation as they are
and in order, and prints the answer. The `--` may be left out if no operand looks like an option.
-/

namespace Pathwise.CommandLine

/-! ### Telling operands from options -/

/-- Of the texts that start with a dash only the dash itself is no option. -/
theorem looksLikeOption_eq_false_iff {argument : Text} :
    looksLikeOption argument = false ↔ (argument.head? = some '-' → argument = ['-']) := by
  fun_cases looksLikeOption argument with
  | case1 c rest => simp
  | case2 _ noOption =>
    refine iff_of_true rfl ?_
    intro dash
    obtain ⟨rest, rfl⟩ := List.head?_eq_some_iff.mp dash
    cases rest with
    | nil => rfl
    | cons c rest => exact absurd rfl (noOption c rest)

theorem operands?_separated (operands : List Text) :
    operands? ("--".toList :: operands) = some operands := rfl

theorem operands?_of_plain {operands : List Text}
    (plain : ∀ operand ∈ operands, looksLikeOption operand = false) :
    operands? operands = some operands := by
  induction operands with
  | nil => rfl
  | cons operand rest ih =>
    obtain ⟨first, others⟩ := List.forall_mem_cons.mp plain
    have goesOn : operand ≠ ['-', '-'] := by
      rintro rfl
      cases first
    simp [operands?, goesOn, first, ih others]

/-! ### Commands under a style -/

namespace Command

/-- The command line that calls for a command under a style. -/
def line (style : Style) (command : Command) (arguments : List Text) : List Text :=
  "--style".toList :: style.name :: command.name :: arguments

/-- What a command answers where the current directory is the root. -/
def result (style : Style) : Command → List Text → Except CallError Text
  | operation called, operands =>
    (Context.call ⟨style, .constant ['/']⟩ called (operands.map .text)).1.map (·.value.printed)
  | separator, _ => .ok [style.separator]

variable {style : Style} {command : Command} {operands : List Text}

theorem execute_of_takes (console : Console) (threshold : Threshold)
    (takes : command.Takes operands.length) :
    ∃ text errors, command.result style operands = .ok text ∧
      command.execute console threshold ⟨style, .constant ['/']⟩ operands
        = .finished 0 (console.result text) errors := by
  have executed := executed_execute console threshold ⟨style, .constant ['/']⟩ command operands
  generalize command.execute console threshold ⟨style, .constant ['/']⟩ operands = outcome
    at executed
  cases executed with
  | miscounted miscounted => exact absurd takes miscounted
  | separator => exact ⟨_, _, rfl, rfl⟩
  | answered _ answered => exact ⟨_, _, congrArg (Except.map _) answered, rfl⟩
  | lost takes lost =>
    -- The root can be read at any time.
    obtain ⟨request, makes⟩ := Operation.exists_makes_iff.mpr ⟨operands, rfl, takes⟩
    cases lost.symm.trans (Context.fst_call_of_makes makes fun _ => rfl)

theorem run_line {environment : Environment} {threshold : Threshold} {arguments : List Text}
    (known : Threshold.ofName? (Config.environmentLevel environment) = some threshold)
    (terminal : Terminal) (directory : Directory)
    (separated : operands? arguments = some operands) :
    run terminal environment directory (command.line style arguments)
      = command.execute ⟨.manhattan, terminal⟩ threshold ⟨style, directory⟩ operands := by
  have starts : StartsWith [.setting .style style.name] (command.line style arguments)
      (command.name :: arguments) :=
    .option (.long .style style.name) (.operand (looksLikeOption_name command) arguments)
  have themed : (Options.ofChoices [.setting .style style.name]).theme? = some .manhattan := rfl
  have styled : (Options.ofChoices [.setting .style style.name]).style? = some (some style) := by
    cases style <;> rfl
  rw [run_of_startsWith starts (by simp) themed styled]
  refine @Invocation.run_eq_execute _ _ _ ⟨style, Config.environmentLevel environment⟩ threshold
    operands ?loaded ?chosen separated
  case loaded => exact load_eq_ok_iff.mpr ⟨.inl rfl, rfl⟩
  case chosen => simp [Threshold.choose, known]

/-- Called under a style and with `--` before its operands, a command succeeds if and only if it
takes that many, whatever they look like, and then prints what its operation answers to just these;
else the command line is malformed. Operands that do not look like options need no `--`. -/
theorem run_line_separated {environment : Environment}
    (accepted :
      (Config.environmentLevel environment).capitals ∈ Threshold.names.map Prod.fst)
    (terminal : Terminal) (style : Style) (command : Command) (operands : List Text) :
    let outcome (arguments : List Text) :=
      run terminal environment (.constant ['/']) (command.line style arguments)
    ((outcome ("--".toList :: operands)).exitCode? = some 0 ↔ command.Takes operands.length) ∧
      (command.Takes operands.length → ∃ text errors,
        command.result style operands = .ok text ∧
          outcome ("--".toList :: operands)
            = .finished 0 (Console.result ⟨.manhattan, terminal⟩ text) errors) ∧
      (¬ command.Takes operands.length →
        (outcome ("--".toList :: operands)).exitCode? = some 2) ∧
      ((∀ operand ∈ operands, operand.head? = some '-' → operand = ['-']) →
        outcome operands = outcome ("--".toList :: operands)) := by
  intro outcome
  obtain ⟨threshold, known⟩ := Option.isSome_iff_exists.mp (isSome_lookup_iff.mpr accepted)
  have separated : outcome ("--".toList :: operands)
      = command.execute ⟨.manhattan, terminal⟩ threshold ⟨style, .constant ['/']⟩ operands :=
    run_line known terminal _ (operands?_separated operands)
  have unseparated : (∀ operand ∈ operands, operand.head? = some '-' → operand = ['-']) →
      outcome operands = outcome ("--".toList :: operands) := by
    intro plain
    rw [separated]
    refine run_line known terminal _ (operands?_of_plain ?_)
    intro operand member
    exact looksLikeOption_eq_false_iff.mpr (plain operand member)
  by_cases takes : command.Takes operands.length
  · obtain ⟨text, errors, answered, executed⟩ :=
      @execute_of_takes style _ _ ⟨.manhattan, terminal⟩ threshold takes
    have finished := separated.trans executed
    refine ⟨iff_of_true ?_ takes, ?_, fun miscounted => absurd takes miscounted, unseparated⟩
    · rw [finished]
      rfl
    · intro _
      exact ⟨text, errors, answered, finished⟩
  · have refused : outcome ("--".toList :: operands) = .usageError :=
      separated.trans (execute_of_not_accepts (mt accepts_iff_takes.mp takes) _ threshold _)
    refine ⟨iff_of_false ?_ takes, fun taken => absurd taken takes, ?_, unseparated⟩
    · rw [refused]
      exact nofun
    · intro _
      rw [refused]
      rfl

/-- Two operands that would be options, and two that would not. -/
theorem run_line_separated_relative :
    let terminal := Terminal.simple none fun _ => 1
    let environment : Environment := ⟨.posix, [(Config.levelVariable, "Fatal".toList)]⟩
    let outcome (arguments : List Text) :=
      run terminal environment (.constant ['/'])
        ((Command.operation .relative).line .windows arguments)
    (Config.environmentLevel environment).capitals ∈ Threshold.names.map Prod.fst ∧
      (∃ text errors,
        (Command.operation .relative).result .windows ["--".toList, "-a".toList] = .ok text ∧
          outcome ["--".toList, "--".toList, "-a".toList]
            = .finished 0 (Console.result ⟨.manhattan, terminal⟩ text) errors) ∧
      outcome ["-".toList, []] = outcome ["--".toList, "-".toList, []] := by
  intro terminal environment outcome
  have accepted :
      (Config.environmentLevel environment).capitals ∈ Threshold.names.map Prod.fst := by
    decide +kernel
  have dashes := run_line_separated accepted terminal .windows (.operation .relative)
    ["--".toList, "-a".toList]
  have plain := run_line_separated accepted terminal .windows (.operation .relative)
    ["-".toList, []]
  exact ⟨accepted, dashes.2.1 rfl, plain.2.2.2 (by simp)⟩

end Command

end Pathwise.CommandLine
