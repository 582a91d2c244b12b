import Pathwise.Proofs.RoundTrip

/-!
# Which place lies inside which

The text that leads from one path to another tells how the two places lie to each other. It is
absolute just between different roots, and on one root it is `.` just if the places are the same,
starts with `..` just if the goal is outside the directory that one starts from, and otherwise holds
no `..` at all. The guard in front of a name that looks like a drive is none of these.

The places alone decide: a directory that is spelled in another way leads to its goal by the same
text.
-/

namespace Pathwise

/-! ### Routes that climb -/

section Routes

variable {style : Style} {source target : List Text}
  (toNames : ∀ name ∈ target, IsOrdinary name)
include toNames

/-- A route starts by climbing unless its goal is inside the source. -/
theorem head?_routeBetween_eq_parentSegment_iff :
    (routeBetween style source target).head? = some parentSegment ↔
      ¬ source.map (comparable style) <+: target.map (comparable style) := by
  induction source generalizing target with
  | nil =>
    have down : target.head? ≠ some parentSegment := fun climbs =>
      not_isOrdinary_parentSegment (toNames _ (List.mem_of_head? climbs))
    simpa using down
  | cons left source ih =>
    cases target with
    | nil => simp [List.replicate_succ]
    | cons right target =>
      by_cases same : comparable style left = comparable style right
      · rw [routeBetween_cons_of_eq same, ih (List.forall_mem_cons.mp toNames).2]
        simp [same]
      · simp [routeBetween_cons_of_ne same, List.replicate_succ, List.cons_prefix_cons, same]

/-- If it does not start by climbing, it does not climb at all. -/
theorem parentSegment_notMem_routeBetween
    (inside : source.map (comparable style) <+: target.map (comparable style)) :
    parentSegment ∉ routeBetween style source target := by
  obtain ⟨shared, others, back, onward, rfl, rfl, -, route⟩ :=
    exists_routeBetween_eq style source target
  have level := mt (head?_routeBetween_eq_parentSegment_iff toNames).mp (not_not.mpr inside)
  rw [route] at level ⊢
  -- The `..` of a route come first, so a route that starts with a name has none.
  cases back with
  | nil =>
    intro climbs
    exact not_isOrdinary_parentSegment (toNames _ (List.mem_append_right others climbs))
  | cons name back => simp [List.replicate_succ] at level

end Routes

/-- The guard stands in front of a name that looks like a drive, and `..` does not. -/
theorem Path.head?_guarded_eq_parentSegment_iff (style : Style) (path : Path) :
    (path.guarded style).head? = some parentSegment ↔
      path.segments.head? = some parentSegment := by
  by_cases guard : path.needsGuard style = true
  · rw [guarded, if_pos guard, List.head?_cons, Option.some_inj]
    rw [needsGuard, Bool.and_eq_true] at guard
    constructor
    · intro same
      exact absurd same (by decide)
    · intro climbs
      rw [climbs] at guard
      exact absurd guard.2 (by decide)
  · rw [guarded, if_neg guard]

/-! ### What the text of a route tells -/

section Comparable

variable {style : Style} {source target directory : Text}
  (roots : comparable style (anchor style [source] directory).value.root
    = comparable style (anchor style [target] directory).value.root)
include roots

theorem value_relative_eq_currentSegment_iff :
    (relative style source target directory).value = currentSegment ↔
      (anchor style [source] directory).value.names style
        = (anchor style [target] directory).value.names style := by
  rw [Location.names, Location.names, ← routeBetween_eq_nil_iff]
  constructor
  · intro same
    rw [← filter_components_relative roots, same]
    rfl
  · intro nowhere
    rw [value_relative_of_comparable roots, nowhere]
    cases style <;> rfl

theorem head?_parse_relative_eq_parentSegment_iff :
    (Path.parse style (relative style source target directory).value).segments.head?
        = some parentSegment ↔
      ¬ (anchor style [source] directory).value.names style
        <+: (anchor style [target] directory).value.names style := by
  have goal := settled_anchor style [target] directory
  rw [segments_parse_relative roots, value_relative_of_comparable roots,
    components_route (settled_routeBetween style goal.isOrdinary)
      (isName_routeBetween style goal.isName),
    Path.head?_guarded_eq_parentSegment_iff, Location.names, Location.names,
    ← head?_routeBetween_eq_parentSegment_iff goal.isOrdinary]
  generalize routeBetween style _ _ = route
  cases route with
  | nil => decide
  | cons name route => rfl

theorem parentSegment_notMem_parse_relative
    (inside : (anchor style [source] directory).value.names style
      <+: (anchor style [target] directory).value.names style) :
    parentSegment ∉ (Path.parse style (relative style source target directory).value).segments := by
  have goal := settled_anchor style [target] directory
  intro climbs
  rw [segments_parse_relative roots] at climbs
  have member : parentSegment ∈ (components (relative style source target directory).value).filter
      (· ≠ currentSegment) := List.mem_filter.mpr ⟨climbs, by decide⟩
  rw [filter_components_relative roots] at member
  exact parentSegment_notMem_routeBetween goal.isOrdinary inside member

end Comparable

theorem isAbsolute_relative_iff {style : Style} {source target directory : Text} :
    isAbsolute style (relative style source target directory).value = true ↔
      comparable style (anchor style [source] directory).value.root
        ≠ comparable style (anchor style [target] directory).value.root := by
  constructor
  · intro absolute roots
    rw [isAbsolute_relative roots] at absolute
    exact Bool.noConfusion absolute
  · intro roots
    rw [value_relative_of_not_comparable roots]
    exact isAbsolute_resolve style [target] directory

/-- The text that leads from one path to another is absolute just if the roots differ, and then it
is the target itself. On one root, it is `.` just if the places are the same, it starts with `..`
just if the target does not lie inside the source, and if it does, then the text holds no `..`. -/
theorem relative_tells_containment (style : Style) (source target directory : Text) :
    let start := (anchor style [source] directory).value
    let goal := (anchor style [target] directory).value
    let text := (relative style source target directory).value
    (isAbsolute style text = true ↔ comparable style start.root ≠ comparable style goal.root) ∧
      (comparable style start.root ≠ comparable style goal.root →
        text = (resolve style [target] directory).value) ∧
      (comparable style start.root = comparable style goal.root →
        (text = currentSegment ↔ start.names style = goal.names style) ∧
          ((Path.parse style text).segments.head? = some parentSegment ↔
            ¬ start.names style <+: goal.names style) ∧
          (start.names style <+: goal.names style →
            parentSegment ∉ (Path.parse style text).segments)) := by
  intro start goal text
  refine ⟨isAbsolute_relative_iff, ?_, ?_⟩
  · intro roots
    exact value_relative_of_not_comparable roots
  · intro roots
    exact ⟨value_relative_eq_currentSegment_iff roots,
      head?_parse_relative_eq_parentSegment_iff roots,
      parentSegment_notMem_parse_relative roots⟩

/-- Another drive, and a name inside the source that looks like another drive. -/
theorem relative_tells_containment_drives :
    comparable .windows (anchor .windows ["C:\\a".toList] []).value.root
        ≠ comparable .windows (anchor .windows ["d:x".toList] []).value.root ∧
      (relative .windows "C:\\a".toList "d:x".toList []).value
        = (resolve .windows ["d:x".toList] []).value ∧
      comparable .windows (anchor .windows ["C:\\a".toList] []).value.root
        = comparable .windows (anchor .windows ["c:/A/d:x".toList] []).value.root ∧
      (anchor .windows ["C:\\a".toList] []).value.names .windows
        <+: (anchor .windows ["c:/A/d:x".toList] []).value.names .windows ∧
      parentSegment ∉ (Path.parse .windows
        (relative .windows "C:\\a".toList "c:/A/d:x".toList []).value).segments := by
  have apart : comparable .windows (anchor .windows ["C:\\a".toList] []).value.root
      ≠ comparable .windows (anchor .windows ["d:x".toList] []).value.root := by
    decide +kernel
  have roots : comparable .windows (anchor .windows ["C:\\a".toList] []).value.root
      = comparable .windows (anchor .windows ["c:/A/d:x".toList] []).value.root := by
    decide +kernel
  have inside : (anchor .windows ["C:\\a".toList] []).value.names .windows
      <+: (anchor .windows ["c:/A/d:x".toList] []).value.names .windows := by
    decide +kernel
  have outer := relative_tells_containment .windows "C:\\a".toList "d:x".toList []
  have inner := relative_tells_containment .windows "C:\\a".toList "c:/A/d:x".toList []
  exact ⟨apart, outer.2.1 apart, roots, inside, (inner.2.2 roots).2.2 inside⟩

/-! ### How the source is spelled -/

/-- The text that leads to a target is the same from all paths that are anchored to similar ones. -/
theorem value_relative_congr_of_similar {style : Style} {source other directory : Text}
    (similar : (anchor style [source] directory).value.toPath.Similar style
      (anchor style [other] directory).value.toPath) (target : Text) :
    (relative style source target directory).value
      = (relative style other target directory).value := by
  obtain ⟨roots, names⟩ := Location.similar_toPath_iff.mp similar
  by_cases route : comparable style (anchor style [source] directory).value.root
      = comparable style (anchor style [target] directory).value.root
  · rw [value_relative_of_comparable route, value_relative_of_comparable (roots.symm.trans route),
      routeBetween_congr names]
  · rw [value_relative_of_not_comparable route,
      value_relative_of_not_comparable fun same => route (roots.trans same)]

/-- Names are compared as wholes: a final sigma, and a letter that is lowercased to two characters,
are spelled in two ways each. -/
theorem value_relative_congr_sigma :
    (anchor .windows ["C:\\ΟΔΟΣ\\\u0130\\x".toList] []).value.toPath.Similar .windows
        (anchor .windows ["c:/οδος/i\u0307/X".toList] []).value.toPath ∧
      (relative .windows "C:\\ΟΔΟΣ\\\u0130\\x".toList "C:\\οδοσ\\d:y".toList []).value
        = (relative .windows "c:/οδος/i\u0307/X".toList "C:\\οδοσ\\d:y".toList []).value := by
  have similar : (anchor .windows ["C:\\ΟΔΟΣ\\\u0130\\x".toList] []).value.toPath.Similar .windows
      (anchor .windows ["c:/οδος/i\u0307/X".toList] []).value.toPath := by
    decide +kernel
  exact ⟨similar, value_relative_congr_of_similar similar "C:\\οδοσ\\d:y".toList⟩

end Pathwise
