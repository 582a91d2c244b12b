import Pathwise.Proofs.Locations
import Pathwise.Proofs.Spelling
import Pathwise.Request

/-!
# Answers to respelled requests

How the separators of a path are written does not matter to any operation. If two requests and the
two current directories differ in spelling only, the answers are equal to the letter; what is logged
may differ, because it quotes the arguments.

Operations on one path only see what is read. The others concatenate parts, and a concatenation of
respelled parts is a respelled concatenation.
-/

namespace Pathwise

theorem isAbsolute_spelling (style : Style) (raw : Text) :
    isAbsolute style (spelling raw) = isAbsolute style raw := by
  rw [isAbsolute, Path.parse_spelling, isAbsolute]

/-- Parts make up the same path however they are spelled. -/
theorem parse_concatenate_map_spelling (style : Style) (parts : List Text) :
    Path.parse style (concatenate [style.separator] (parts.map spelling))
      = Path.parse style (concatenate [style.separator] parts) := by
  have sound := Root.isSeparator_separator style
  have again : (parts.map spelling).map spelling = parts.map spelling := by simp
  rw [← Path.parse_spelling, spelling_concatenate sound, again, ← spelling_concatenate sound,
    Path.parse_spelling]

theorem lastAbsolute?_map_spelling (style : Style) (parts : List Text) :
    lastAbsolute? style (parts.map spelling)
      = (lastAbsolute? style parts).map fun found => (spelling found.1, found.2.map spelling) := by
  induction parts with
  | nil => rfl
  | cons part later ih =>
    rw [List.map_cons, lastAbsolute?_cons, lastAbsolute?_cons, ih, isAbsolute_spelling,
      Option.map_or]
    split <;> rfl

theorem value_startingParts_map_spelling (style : Style) (parts : List Text) (directory : Text) :
    (startingParts style (parts.map spelling) (spelling directory)).value
      = (startingParts style parts directory).value.map spelling := by
  simp only [startingParts, lastAbsolute?_map_spelling]
  cases lastAbsolute? style parts with
  | none => rfl
  | some found => rfl

theorem value_anchor_map_spelling (style : Style) (parts : List Text) (directory : Text) :
    (anchor style (parts.map spelling) (spelling directory)).value
      = (anchor style parts directory).value := by
  rw [value_anchor, value_anchor, value_startingParts_map_spelling, parse_concatenate_map_spelling]

theorem value_relative_spelling (style : Style) (source target directory : Text) :
    (relative style (spelling source) (spelling target) (spelling directory)).value
      = (relative style source target directory).value := by
  have start := value_anchor_map_spelling style [source] directory
  have goal := value_anchor_map_spelling style [target] directory
  rw [List.map_singleton] at start goal
  simp only [relative, start, goal]
  split <;> rfl

namespace Request

/-- The request with its paths in one spelling. An ending is no path and is kept as it is. -/
def respelled : Request → Request
  | normalize path => normalize (spelling path)
  | resolve first others => resolve (spelling first) (others.map spelling)
  | join first others => join (spelling first) (others.map spelling)
  | dirname path => dirname (spelling path)
  | basename path ending => basename (spelling path) ending
  | extname path => extname (spelling path)
  | isAbsolute path => isAbsolute (spelling path)
  | relative source target => relative (spelling source) (spelling target)

theorem value_answer_respelled (request : Request) (style : Style) (directory : Text) :
    (request.respelled.answer style (spelling directory)).value
      = (request.answer style directory).value := by
  cases request with
  | normalize path =>
    simp only [respelled, answer, Pathwise.normalize, Path.parse_spelling]
  | resolve first others =>
    have same := value_anchor_map_spelling style (first :: others) directory
    exact congrArg (fun location => Answer.text (location.render style)) same
  | join first others =>
    have same := parse_concatenate_map_spelling style (first :: others)
    exact congrArg (fun path => Answer.text (path.normalize.render style)) same
  | dirname path => simp only [respelled, answer, Pathwise.dirname, Path.parse_spelling]
  | basename path ending => simp only [respelled, answer, Pathwise.basename, Path.parse_spelling]
  | extname path => simp only [respelled, answer, Pathwise.extname, Path.parse_spelling]
  | isAbsolute path => simp only [respelled, answer, isAbsolute_spelling]
  | relative source target =>
    exact congrArg Answer.text (value_relative_spelling style source target directory)

/-- Requests that differ only in how separators are written are answered alike, if the current
directories differ only in that, too. -/
theorem value_answer_congr_of_respelled_eq {request other : Request} {directory directory' : Text}
    (same : request.respelled = other.respelled)
    (sameDirectory : spelling directory = spelling directory') (style : Style) :
    (request.answer style directory).value = (other.answer style directory').value := by
  rw [← value_answer_respelled request, same, sameDirectory, value_answer_respelled]

/-- A route to a share, spelled in two ways, from a directory that is spelled in two ways. -/
theorem value_answer_respelled_share :
    (relative "a//..\\b\\".toList "\\/Srv\\share//x\\\\y".toList).respelled
        = (relative "a/../b//".toList "//Srv/share\\x/y".toList).respelled ∧
      spelling "//Srv\\share".toList = spelling "\\\\Srv/share".toList ∧
      ((relative "a//..\\b\\".toList "\\/Srv\\share//x\\\\y".toList).answer .windows
          "//Srv\\share".toList).value
        = ((relative "a/../b//".toList "//Srv/share\\x/y".toList).answer .windows
            "\\\\Srv/share".toList).value ∧
      ((relative "a/../b//".toList "//Srv/share\\x/y".toList).answer .windows
          "\\\\Srv/share".toList).value = .text "..\\x\\y".toList := by
  have same : (relative "a//..\\b\\".toList "\\/Srv\\share//x\\\\y".toList).respelled
      = (relative "a/../b//".toList "//Srv/share\\x/y".toList).respelled := by
    decide
  have sameDirectory : spelling "//Srv\\share".toList = spelling "\\\\Srv/share".toList := by
    decide
  exact ⟨same, sameDirectory, value_answer_congr_of_respelled_eq same sameDirectory .windows,
    by decide +kernel⟩

end Request

end Pathwise
