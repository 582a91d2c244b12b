import Pathwise.Proofs.CommandLines
import Pathwise.Proofs.Terminals

/-!
# Printed results

Results are meant to be printed verbatim, and brackets and line feeds in them are. But a terminal
without colour fills up tabs and leaves out some controls, and a path may hold any of them. So a
result that is printed as it is has none, and a result that has none is printed as it is, unless
blanks at the end of a long line are lost. What is visible is printed in any case.
-/

namespace Pathwise.CommandLine

/-- A program that does not choose a threshold writes down no decision. -/
theorem writtenDecisions_standard (decisions : List Decision) :
    writtenDecisions .standard decisions = [] := by
  have low : Severity.debug.rank < Threshold.standard.rank := by decide
  simp [writtenDecisions, Threshold.written_of_lt low]

/-- Of texts that it takes, an operation prints its answer, without an error. If the answer is
printed verbatim, with a line feed after it, then it has no tab and no control that is dropped; and
if it has none, and all its lines fit the terminal, then it is printed verbatim. In any case what is
printed is the answer without these, apart from blanks. -/
theorem printAnswer_verbatim_iff {terminal : Terminal} {columns : Nat}
    (plain : terminal.Plain columns) {operation : Operation} {texts : List Text}
    (takes : operation.Takes texts.length) (theme : Theme) (style : Style) (directory : Text) :
    let context : Context := ⟨style, .constant directory⟩
    let arguments := texts.map Value.text
    ∃ answer output, (context.call operation arguments).1 = .ok answer ∧
      printAnswer ⟨theme, terminal⟩ .standard context operation arguments
        = .finished 0 output [] ∧
      (output = Text.line answer.value.printed → Terminal.Clean answer.value.printed) ∧
      (Terminal.Fits columns answer.value.printed → Terminal.Clean answer.value.printed →
        output = Text.line answer.value.printed) ∧
      output.filter (!Text.isBlank ·) = answer.value.printed.filter fun c =>
        !Text.isBlank c && !Terminal.isDropped c := by
  intro context arguments
  obtain ⟨request, makes⟩ := Operation.exists_makes_iff.mpr ⟨texts, rfl, takes⟩
  have answered : (context.call operation arguments).1 = .ok (request.answer style directory) :=
    Context.fst_call_of_makes makes fun _ => rfl
  refine ⟨_, terminal.written (request.answer style directory).value.printed, answered, ?_, ?_,
    fun fits clean => plain.written_eq_line clean fits, plain.filter_written _⟩
  · rw [printAnswer, answered]
    simp only [plain.uncoloured.result_eq, writtenDecisions_standard]
  · intro verbatim c member
    refine plain.clean_written (request.answer style directory).value.printed c ?_
    rw [verbatim]
    exact List.mem_append_left _ member

/-- Brackets and line feeds are printed as they are. -/
theorem printAnswer_verbatim_brackets :
    let terminal := Terminal.simple (some 80) fun _ => 1
    let context : Context := ⟨.posix, .constant "/".toList⟩
    let path := "[bold]a\nb[/bold]".toList
    terminal.Plain 80 ∧ Operation.normalize.Takes [path].length ∧
      printAnswer ⟨.green, terminal⟩ .standard context .normalize [.text path]
        = .finished 0 (Text.line path) [] := by
  intro terminal context path
  have plain : terminal.Plain 80 := Terminal.plain_simple (by simp) _
  refine ⟨plain, rfl, ?_⟩
  obtain ⟨answer, output, answered, printed, -, verbatim, -⟩ :=
    @printAnswer_verbatim_iff terminal 80 plain .normalize [path] rfl .green .posix "/".toList
  have same : answer = ⟨.text path, []⟩ := Except.ok.inj (answered.symm.trans rfl)
  subst same
  have narrow : (Text.lines path).all (·.length ≤ 80) = true := by decide
  have fits : Terminal.Fits 80 path := fun line member =>
    .inl (of_decide_eq_true (List.all_eq_true.mp narrow line member))
  have clean : Terminal.Clean path := by simp [Terminal.Clean, path, Terminal.isDropped]
  rw [verbatim fits clean] at printed
  exact printed

/-- A tab in a file name is lost: seven spaces stand in its place. -/
theorem printAnswer_tab_not_verbatim :
    let terminal := Terminal.simple (some 80) fun _ => 1
    let context : Context := ⟨.posix, .constant "/".toList⟩
    let path := "a\tb".toList
    terminal.Plain 80 ∧
      (context.call .normalize [.text path]).1 = .ok ⟨.text path, []⟩ ∧
      printAnswer ⟨.manhattan, terminal⟩ .standard context .normalize [.text path]
        = .finished 0 "a       b\n".toList [] ∧
      "a       b\n".toList ≠ Text.line path := by
  intro terminal context path
  exact ⟨Terminal.plain_simple (by simp) _, rfl, rfl, by decide⟩

end Pathwise.CommandLine
