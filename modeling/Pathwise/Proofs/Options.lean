import Mathlib.Data.List.Induction
import Mathlib.Data.List.TakeDrop
import Pathwise.CommandLine.Options

/-!
# The grammar of options

A command line starts with any number of options, each written in one of its forms, and they end
with the line, with `--`, or before the first argument that does not look like an option. Reading
accepts exactly the lines of this form, and what it finds is decided by the options alone: of a
setting the last value counts, of a switch that it is there.
-/

namespace Pathwise.CommandLine

/-! ### How options are written -/

/-- An option, however it is written. -/
inductive Choice where
  | setting (which : Setting) (value : Text)
  | debug
  | version
  deriving DecidableEq

namespace Setting

def long : Setting → Text
  | style => "--style".toList
  | theme => "--theme".toList

def short : Setting → Text
  | style => "-s".toList
  | theme => "-t".toList

end Setting

/-- The arguments that an option is written with. -/
inductive Written : Choice → List Text → Prop
  | long (which : Setting) (value : Text) : Written (.setting which value) [which.long, value]
  | longJoined (which : Setting) (value : Text) :
    Written (.setting which value) [which.long ++ '=' :: value]
  | short (which : Setting) (value : Text) : Written (.setting which value) [which.short, value]
  | shortJoined (which : Setting) {value : Text} (filled : value ≠ []) :
    Written (.setting which value) [which.short ++ value]
  | debug : Written .debug ["--debug".toList]
  | version : Written .version ["--version".toList]

/-- A command line that starts with some options, and what comes after them. -/
inductive StartsWith : List Choice → List Text → List Text → Prop
  | exhausted : StartsWith [] [] []
  | terminated (rest : List Text) : StartsWith [] ("--".toList :: rest) rest
  | operand {argument : Text} (plain : looksLikeOption argument = false) (rest : List Text) :
    StartsWith [] (argument :: rest) (argument :: rest)
  | option {choice : Choice} {choices : List Choice} {written arguments rest : List Text}
    (form : Written choice written) (others : StartsWith choices arguments rest) :
    StartsWith (choice :: choices) (written ++ arguments) rest

/-! ### What a single argument stands for -/

/-- An argument is the name of its option, followed by the value if it holds one. -/
theorem eq_of_splitValue (argument : Text) :
    argument = (splitValue argument).1 ++ ((splitValue argument).2.map ('=' :: ·)).getD [] := by
  have whole := List.takeWhile_append_dropWhile (p := (· ≠ '=')) (l := argument)
  have sign := List.head?_dropWhile_not (· ≠ '=') argument
  unfold splitValue
  rw [List.span_eq_takeWhile_dropWhile]
  generalize argument.takeWhile (· ≠ '=') = name at whole ⊢
  generalize argument.dropWhile (· ≠ '=') = tail at whole sign ⊢
  cases tail with
  | nil => exact whole.symm
  | cons c value =>
    obtain rfl : c = '=' := by simpa using sign
    exact whole.symm

theorem splitValue_append {name : Text} (plain : '=' ∉ name) (value : Text) :
    splitValue (name ++ '=' :: value) = (name, some value) := by
  have all : ∀ c ∈ name, decide (c ≠ '=') = true :=
    fun c member => decide_eq_true fun same => plain (same ▸ member)
  unfold splitValue
  rw [List.span_eq_takeWhile_dropWhile, List.takeWhile_append_of_pos all,
    List.dropWhile_append_of_pos all]
  simp

/-- The forms of the arguments that stand for something. -/
inductive Stands : Text → Token → Prop
  | terminator : Stands "--".toList .terminator
  | operand {argument : Text} (plain : looksLikeOption argument = false) : Stands argument .operand
  | debug : Stands "--debug".toList .debug
  | version : Stands "--version".toList .version
  | long (which : Setting) : Stands which.long (.setting which none)
  | longJoined (which : Setting) (value : Text) :
    Stands (which.long ++ '=' :: value) (.setting which (some value))
  | short (which : Setting) : Stands which.short (.setting which none)
  | shortJoined (which : Setting) {value : Text} (filled : value ≠ []) :
    Stands (which.short ++ value) (.setting which (some value))
  | refused (argument : Text) : Stands argument .refused

theorem stands_ofLong (argument : Text) : Stands argument (Token.ofLong argument) := by
  have whole := eq_of_splitValue argument
  unfold Token.ofLong
  generalize splitValue argument = parts at whole
  obtain ⟨name, value⟩ := parts
  dsimp only at whole ⊢
  split
  · next isStyle =>
    subst isStyle
    cases value with
    | none => exact whole ▸ Stands.long .style
    | some value => exact whole ▸ Stands.longJoined .style value
  split
  · next isTheme =>
    subst isTheme
    cases value with
    | none => exact whole ▸ Stands.long .theme
    | some value => exact whole ▸ Stands.longJoined .theme value
  split
  · next isDebug =>
    obtain ⟨rfl, rfl⟩ := isDebug
    exact whole ▸ Stands.debug
  split
  · next isVersion =>
    obtain ⟨rfl, rfl⟩ := isVersion
    exact whole ▸ Stands.version
  exact .refused argument

theorem stands_ofShort (letter : Char) (value : Text) :
    Stands ('-' :: letter :: value) (Token.ofShort letter value) := by
  cases value with
  | nil =>
    simp only [Token.ofShort, List.isEmpty_nil, if_true]
    split
    · exact .short .style
    · exact .short .theme
    · exact .refused _
  | cons c rest =>
    simp only [Token.ofShort, List.isEmpty_cons, if_false, Bool.false_eq_true]
    split
    · exact .shortJoined .style (List.cons_ne_nil c rest)
    · exact .shortJoined .theme (List.cons_ne_nil c rest)
    · exact .refused _

theorem stands_ofArgument (argument : Text) : Stands argument (Token.ofArgument argument) := by
  fun_cases Token.ofArgument argument with
  | case1 => exact .terminator
  | case2 => exact stands_ofLong _
  | case3 => exact stands_ofShort _ _
  | case4 _ _ _ noOption =>
    refine .operand ?_
    fun_cases looksLikeOption argument with
    | case1 letter value => exact absurd rfl (noOption letter value)
    | case2 => rfl

theorem ofArgument_longJoined (which : Setting) (value : Text) :
    Token.ofArgument (which.long ++ '=' :: value) = .setting which (some value) := by
  have plain : '=' ∉ which.long := by cases which <;> decide
  have parts := splitValue_append plain value
  have isLong : Token.ofArgument (which.long ++ '=' :: value)
      = Token.ofLong (which.long ++ '=' :: value) := by
    cases which <;> rfl
  rw [isLong, Token.ofLong, parts]
  cases which <;> rfl

theorem ofArgument_shortJoined (which : Setting) {value : Text} (filled : value ≠ []) :
    Token.ofArgument (which.short ++ value) = .setting which (some value) := by
  obtain ⟨c, rest, rfl⟩ := List.exists_cons_of_ne_nil filled
  cases which <;> rfl

/-- Each form is read as what it stands for. -/
theorem Stands.ofArgument_eq {argument : Text} {token : Token} (stands : Stands argument token)
    (accepted : token ≠ .refused) : Token.ofArgument argument = token := by
  cases stands with
  | terminator | debug | version => rfl
  | operand plain =>
    unfold Token.ofArgument
    split
    all_goals first | rfl | cases plain
  | long which | short which => cases which <;> rfl
  | longJoined which value => exact ofArgument_longJoined which value
  | shortJoined which filled => exact ofArgument_shortJoined which filled
  | refused => exact absurd rfl accepted

/-! ### Reading options -/

/-- The options with one more choice. -/
def Options.put (options : Options) : Choice → Options
  | .setting which value => options.assign which value
  | .debug => { options with debug := true }
  | .version => { options with version := true }

theorem read_of_startsWith {choices : List Choice} {arguments rest : List Text}
    (starts : StartsWith choices arguments rest) (options : Options) :
    options.read arguments = some (choices.foldl Options.put options, rest) := by
  induction starts generalizing options with
  | exhausted => rfl
  | terminated rest => rfl
  | operand plain rest => simp [Options.read, (Stands.operand plain).ofArgument_eq nofun]
  | option form others ih =>
    cases form with
    | long which value =>
      simp [Options.read, (Stands.long which).ofArgument_eq nofun, ih, Options.put]
    | longJoined which value =>
      simp [Options.read, (Stands.longJoined which value).ofArgument_eq nofun, ih, Options.put]
    | short which value =>
      simp [Options.read, (Stands.short which).ofArgument_eq nofun, ih, Options.put]
    | shortJoined which filled =>
      simp [Options.read, (Stands.shortJoined which filled).ofArgument_eq nofun, ih, Options.put]
    | debug | version => exact ih _

theorem exists_startsWith_of_read {options found : Options} {arguments rest : List Text}
    (read : options.read arguments = some (found, rest)) :
    ∃ choices, StartsWith choices arguments rest ∧ found = choices.foldl Options.put options := by
  fun_induction Options.read options arguments generalizing found with
  | case1 options =>
    cases read
    exact ⟨[], .exhausted, rfl⟩
  | case2 options argument others token =>
    have stands := token ▸ stands_ofArgument argument
    cases stands
    cases read
    exact ⟨[], .terminated _, rfl⟩
  | case3 options argument others token =>
    have stands := token ▸ stands_ofArgument argument
    cases stands with
    | operand plain =>
      cases read
      exact ⟨[], .operand plain others, rfl⟩
  | case4 options argument others token ih =>
    have stands := token ▸ stands_ofArgument argument
    cases stands
    obtain ⟨choices, starts, rfl⟩ := ih read
    exact ⟨.debug :: choices, .option .debug starts, rfl⟩
  | case5 options argument others token ih =>
    have stands := token ▸ stands_ofArgument argument
    cases stands
    obtain ⟨choices, starts, rfl⟩ := ih read
    exact ⟨.version :: choices, .option .version starts, rfl⟩
  | case6 options argument others which value token ih =>
    have stands := token ▸ stands_ofArgument argument
    obtain ⟨choices, starts, rfl⟩ := ih read
    refine ⟨.setting which value :: choices, ?_, rfl⟩
    cases stands with
    | longJoined => exact .option (.longJoined which value) starts
    | shortJoined _ filled => exact .option (.shortJoined which filled) starts
  | case8 options argument which token value others ih =>
    have stands := token ▸ stands_ofArgument argument
    obtain ⟨choices, starts, rfl⟩ := ih read
    refine ⟨.setting which value :: choices, ?_, rfl⟩
    cases stands with
    | long => exact .option (.long which value) starts
    | short => exact .option (.short which value) starts
  | case7 | case9 => cases read

/-- Options are read from a line if and only if it starts with them. -/
theorem read_eq_some_iff {options found : Options} {arguments rest : List Text} :
    options.read arguments = some (found, rest) ↔
      ∃ choices, StartsWith choices arguments rest ∧
        found = choices.foldl Options.put options := by
  constructor
  · exact exists_startsWith_of_read
  · rintro ⟨choices, starts, rfl⟩
    exact read_of_startsWith starts options

/-! ### What options amount to -/

def Choice.value? (which : Setting) : Choice → Option Text
  | .setting other value => if other = which then some value else none
  | .debug | .version => none

/-- The value of a setting that counts: the last one that it is given. -/
def lastValue? (which : Setting) (choices : List Choice) : Option Text :=
  (choices.filterMap (·.value? which)).getLast?

/-- The options that choices amount to. -/
def Options.ofChoices (choices : List Choice) : Options :=
  ⟨lastValue? .style choices, lastValue? .theme choices, decide (.debug ∈ choices),
    decide (.version ∈ choices)⟩

theorem foldl_put_initial (choices : List Choice) :
    choices.foldl Options.put Options.initial = Options.ofChoices choices := by
  induction choices using List.reverseRecOn with
  | nil => rfl
  | append_singleton choices choice ih =>
    rw [List.foldl_append, ih]
    cases choice with
    | setting which value =>
      cases which <;>
        simp [Options.put, Options.assign, Options.ofChoices, lastValue?, Choice.value?]
    | debug | version => simp [Options.put, Options.ofChoices, lastValue?, Choice.value?]

end Pathwise.CommandLine
