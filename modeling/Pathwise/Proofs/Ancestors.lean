import Mathlib.Data.List.TakeDrop
import Mathlib.Logic.Function.Iterate
import Pathwise.Lexical
import Pathwise.Proofs.Grammar

/-!
# Climbing from parent to parent

The parent of a path keeps the root and loses the last segment. What is written of it is read back as
just that, so that taking the parent again and again goes up one segment at a time, whatever the
segments are. The last segment is not taken from a path: the climb ends at the root, or at `.` where
there is no root, and stays there for ever.
-/

namespace Pathwise

namespace Path

theorem RootForm.take {style : Style} {root : Option Text} {segments : List Text}
    (rootForm : RootForm style root segments) (count : Nat) :
    RootForm style root (segments.take count) := by
  cases rootForm with
  | relative plain =>
    apply RootForm.relative
    intro windows
    rw [List.head?_take]
    split
    · rfl
    · exact plain windows
  | bare => exact .bare
  | drive alpha => exact .drive alpha
  | host isMachine =>
    rw [List.take_nil]
    exact .host isMachine
  | share isMachine isFolder => exact .share isMachine isFolder

/-- The first segments of a path that was read make up a path that can be read. -/
theorem WellFormed.take {style : Style} {path : Path} (wellFormed : path.WellFormed style)
    (count : Nat) : (path.withSegments (path.segments.take count)).WellFormed style := by
  refine ⟨?_, wellFormed.rootForm.take count, nofun⟩
  intro name member
  exact wellFormed.isName name (List.mem_of_mem_take member)

theorem parse_render_take (style : Style) (raw : Text) (count : Nat) :
    parse style (((parse style raw).withSegments ((parse style raw).segments.take count)).render
        style)
      = (parse style raw).withSegments ((parse style raw).segments.take count) :=
  ((wellFormed_parse style raw).take count).parse_render

end Path

/-! ### One step -/

/-- The parent of a path with two segments or more is read as the path without the last one. -/
theorem parse_dirname {style : Style} {raw : Text}
    (deep : 1 < (Path.parse style raw).segments.length) :
    Path.parse style (dirname style raw)
      = (Path.parse style raw).withSegments (Path.parse style raw).segments.dropLast := by
  have written : dirname style raw
      = ((Path.parse style raw).withSegments
          (Path.parse style raw).segments.dropLast).render style :=
    if_neg (Nat.not_le.mpr deep)
  rw [written, List.dropLast_eq_take]
  exact Path.parse_render_take style raw _

/-- The parent of a shorter path is where every climb ends. -/
theorem dirname_of_length_le_one {style : Style} {raw : Text}
    (short : (Path.parse style raw).segments.length ≤ 1) :
    dirname style raw = (Path.parse style raw).root.getD currentSegment :=
  if_pos short

/-- A root is its own parent, and so is `.`. -/
theorem dirname_getD_root (style : Style) (raw : Text) :
    dirname style ((Path.parse style raw).root.getD currentSegment)
      = (Path.parse style raw).root.getD currentSegment := by
  cases found : (Path.parse style raw).root with
  | none => cases style <;> rfl
  | some root =>
    have read := Path.parse_render_take style raw 0
    have written : ((Path.parse style raw).withSegments
        ((Path.parse style raw).segments.take 0)).render style = root := by
      simp [Path.render, found, joinNames]
    rw [written] at read
    rw [Option.getD_some, dirname_of_length_le_one (by simp [read]), read]
    simp [found]

/-! ### The climb -/

/-- As long as segments are left, each step takes one of them off. -/
theorem parse_iterate_dirname {style : Style} {raw : Text} {steps : Nat} (started : 0 < steps)
    (below : steps < (Path.parse style raw).segments.length) :
    Path.parse style ((dirname style)^[steps] raw)
      = (Path.parse style raw).withSegments
          ((Path.parse style raw).segments.take
            ((Path.parse style raw).segments.length - steps)) := by
  induction steps, started using Nat.le_induction with
  | base => rw [Function.iterate_one, parse_dirname below, List.dropLast_eq_take]
  | succ steps started ih =>
    -- What was reached is read back in full, so the next step finds the segments that are left.
    have reached := ih (Nat.lt_of_succ_lt below)
    have deep : 1 < (Path.parse style ((dirname style)^[steps] raw)).segments.length := by
      rw [reached, Path.segments_withSegments, List.length_take]
      omega
    rw [Function.iterate_succ_apply', parse_dirname deep, reached, Path.segments_withSegments,
      List.dropLast_take (by omega), Nat.sub_sub]
    rfl

/-- The step that finds no more than one segment ends the climb. -/
theorem iterate_dirname_length (style : Style) (raw : Text) :
    (dirname style)^[max (Path.parse style raw).segments.length 1] raw
      = (Path.parse style raw).root.getD currentSegment := by
  by_cases short : (Path.parse style raw).segments.length ≤ 1
  · rw [Nat.max_eq_right short, Function.iterate_one, dirname_of_length_le_one short]
  · obtain ⟨steps, length⟩ : ∃ steps, (Path.parse style raw).segments.length = steps + 1 + 1 :=
      Nat.exists_eq_add_of_le' (Nat.lt_of_not_le short)
    have reached : Path.parse style ((dirname style)^[steps + 1] raw) = _ :=
      parse_iterate_dirname (Nat.succ_pos steps) (by omega)
    have last : (Path.parse style ((dirname style)^[steps + 1] raw)).segments.length ≤ 1 := by
      rw [reached, Path.segments_withSegments, List.length_take]
      omega
    rw [Nat.max_eq_left (by omega), length, Function.iterate_succ_apply',
      dirname_of_length_le_one last, reached, Path.root_withSegments]

/-- Climbing from parent to parent goes up one segment at a time and always ends. As long as
segments are left, what is reached is read as the root of the path with the first of them; after
that it is the root, or `.` for a relative path. -/
theorem iterate_dirname_climbs (style : Style) (raw : Text) (steps : Nat) :
    let path := Path.parse style raw
    (0 < steps → steps < path.segments.length →
      Path.parse style ((dirname style)^[steps] raw)
        = ⟨path.root, path.segments.take (path.segments.length - steps), false⟩) ∧
    (max path.segments.length 1 ≤ steps →
      (dirname style)^[steps] raw = path.root.getD currentSegment) := by
  intro path
  constructor
  · intro started below
    exact parse_iterate_dirname started below
  · intro beyond
    obtain ⟨more, rfl⟩ := Nat.exists_eq_add_of_le' beyond
    rw [Function.iterate_add_apply, iterate_dirname_length]
    exact Function.iterate_fixed (dirname_getD_root style raw) more

/-- From a share up, over names that normalizing would carry out, and from a relative path. -/
theorem iterate_dirname_climbs_share_and_relative :
    let raw := "//srv\\share/a\\.//..\\c:b/".toList
    (0 < 2 ∧ 2 < (Path.parse .windows raw).segments.length ∧
      Path.parse .windows ((dirname .windows)^[2] raw)
        = ⟨some "\\\\srv\\share\\".toList, ["a".toList, ".".toList], false⟩) ∧
    (max (Path.parse .windows raw).segments.length 1 ≤ 100 ∧
      (dirname .windows)^[100] raw = "\\\\srv\\share\\".toList) ∧
    max (Path.parse .windows "x\\c:y".toList).segments.length 1 ≤ 2 ∧
      (dirname .windows)^[2] "x\\c:y".toList = ".".toList := by
  intro raw
  have below : 2 < (Path.parse .windows raw).segments.length := by decide
  have beyond : max (Path.parse .windows raw).segments.length 1 ≤ 100 := by decide
  have beyond' : max (Path.parse .windows "x\\c:y".toList).segments.length 1 ≤ 2 := by decide
  have onTheWay := (iterate_dirname_climbs .windows raw 2).1 Nat.two_pos below
  have atTheTop := (iterate_dirname_climbs .windows raw 100).2 beyond
  have relative := (iterate_dirname_climbs .windows "x\\c:y".toList 2).2 beyond'
  exact ⟨⟨Nat.two_pos, below, onTheWay.trans (by decide)⟩,
    ⟨beyond, atTheTop.trans (by decide)⟩, beyond', relative.trans (by decide)⟩

end Pathwise
