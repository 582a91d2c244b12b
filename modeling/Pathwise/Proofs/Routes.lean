import Pathwise.Location
import Pathwise.Proofs.Continuations

/-!
# Following a route

A route climbs from its source to the names that both ends share and descends from there, so that
carrying it out at the source arrives at the target. What is arrived at keeps the spelling that the
source has for the shared names; it equals the target under the comparison of the style.

The text of a route is the normal form of its segments, written out. Neither the guard nor the `.`
that stands for an empty route matters to whoever carries it out.
-/

namespace Pathwise

/-- The names that lead to a location, as the style compares them. -/
def Location.names (style : Style) (location : Location) : List Text :=
  location.segments.map (comparable style)

/-! ### What a route consists of -/

@[simp] theorem routeBetween_nil_left (style : Style) (target : List Text) :
    routeBetween style [] target = target := by
  cases target <;> rfl

@[simp] theorem routeBetween_nil_right (style : Style) (source : List Text) :
    routeBetween style source [] = List.replicate source.length parentSegment := by
  cases source with
  | nil => rfl
  | cons left source => exact List.append_nil _

theorem routeBetween_cons_of_eq {style : Style} {left right : Text}
    (same : comparable style left = comparable style right) (source target : List Text) :
    routeBetween style (left :: source) (right :: target) = routeBetween style source target := by
  rw [routeBetween, if_pos same]

theorem routeBetween_cons_of_ne {style : Style} {left right : Text}
    (differ : comparable style left ≠ comparable style right) (source target : List Text) :
    routeBetween style (left :: source) (right :: target)
      = List.replicate (source.length + 1) parentSegment ++ right :: target := by
  rw [routeBetween, if_neg differ]

theorem length_routeBetween_cons_of_ne {style : Style} {left right : Text}
    (differ : comparable style left ≠ comparable style right) (source target : List Text) :
    (routeBetween style (left :: source) (right :: target)).length
      = source.length + 1 + (target.length + 1) := by
  rw [routeBetween_cons_of_ne differ, List.length_append, List.length_replicate, List.length_cons]

/-- The route is empty just between places that have the same names. -/
theorem routeBetween_eq_nil_iff {style : Style} {source target : List Text} :
    routeBetween style source target = [] ↔
      source.map (comparable style) = target.map (comparable style) := by
  induction source generalizing target with
  | nil => rw [routeBetween_nil_left, List.map_nil, List.nil_eq, List.map_eq_nil_iff]
  | cons left source ih =>
    cases target with
    | nil => simp
    | cons right target =>
      by_cases same : comparable style left = comparable style right
      · simp [routeBetween_cons_of_eq same, same, ih]
      · simp [routeBetween_cons_of_ne same, same]

/-- A route depends on its source by the names as they are compared. -/
theorem routeBetween_congr {style : Style} {source other : List Text}
    (same : source.map (comparable style) = other.map (comparable style)) (target : List Text) :
    routeBetween style source target = routeBetween style other target := by
  induction source generalizing other target with
  | nil => rw [List.map_eq_nil_iff.mp same.symm]
  | cons left source ih =>
    obtain ⟨left', other, rfl, first, others⟩ := List.map_eq_cons_iff.mp same.symm
    have lengths : source.length = other.length := by simpa using (congrArg List.length others).symm
    cases target with
    | nil => simp [lengths]
    | cons right target =>
      by_cases meet : comparable style left = comparable style right
      · rw [routeBetween_cons_of_eq meet, routeBetween_cons_of_eq (first.trans meet)]
        exact ih others.symm target
      · rw [routeBetween_cons_of_ne meet, lengths,
          routeBetween_cons_of_ne fun same => meet (first.symm.trans same)]

/-- The two ends share names, and the route goes back from the source to these and on to the
target. -/
theorem exists_routeBetween_eq (style : Style) (source target : List Text) :
    ∃ shared others back onward, source = shared ++ back ∧ target = others ++ onward ∧
      shared.map (comparable style) = others.map (comparable style) ∧
      routeBetween style source target
        = List.replicate back.length parentSegment ++ onward := by
  fun_induction routeBetween style source target with
  | case1 left source right target same ih =>
    obtain ⟨shared, others, back, onward, rfl, rfl, alike, route⟩ := ih
    exact ⟨left :: shared, right :: others, back, onward, rfl, rfl, by simp [same, alike], route⟩
  | case2 left source right target =>
    exact ⟨[], [], left :: source, right :: target, rfl, rfl, rfl, rfl⟩
  | case3 source target => exact ⟨[], [], source, target, rfl, rfl, rfl, rfl⟩

/-! ### Where a route leads -/

/-- Carrying out a route at its source arrives at its target, up to the comparison of the style. -/
theorem exists_foldl_step_routeBetween (style : Style) {source target : List Text}
    (fromNames : ∀ name ∈ source, IsOrdinary name) (toNames : ∀ name ∈ target, IsOrdinary name)
    (discarded : Nat) :
    ∃ arrived : List Text, (routeBetween style source target).foldl (Reduction.step true)
        ⟨source.reverse, discarded⟩ = ⟨arrived.reverse, discarded⟩ ∧
      arrived.map (comparable style) = target.map (comparable style) := by
  obtain ⟨shared, others, back, onward, rfl, rfl, alike, route⟩ :=
    exists_routeBetween_eq style source target
  refine ⟨shared ++ onward, ?_, by simp [alike]⟩
  have climbed : (List.replicate back.length parentSegment).foldl (Reduction.step true)
      ⟨back.reverse ++ shared.reverse, discarded⟩ = ⟨shared.reverse, discarded⟩ := by
    rw [← List.length_reverse]
    apply Reduction.foldl_step_replicate_parent
    intro name member
    exact fromNames name (List.mem_append_right shared (List.mem_reverse.mp member))
  have descended := Reduction.foldl_step_of_isOrdinary
    (fun name member => toNames name (List.mem_append_right others member)) true
    ⟨shared.reverse, discarded⟩
  rw [route, List.reverse_append, List.foldl_append, climbed, descended, List.reverse_append]

theorem settled_routeBetween (style : Style) {source target : List Text}
    (toNames : ∀ name ∈ target, IsOrdinary name) :
    Reduction.Settled false (routeBetween style source target).reverse := by
  obtain ⟨shared, others, back, onward, rfl, rfl, -, route⟩ :=
    exists_routeBetween_eq style source target
  refine ⟨onward.reverse, back.length, by simp [route], ?_, by simp⟩
  intro name member
  exact toNames name (List.mem_append_right others (List.mem_reverse.mp member))

theorem isName_routeBetween (style : Style) {source target : List Text}
    (isName : ∀ name ∈ target, IsName name) :
    ∀ name ∈ routeBetween style source target, IsName name := by
  obtain ⟨shared, others, back, onward, rfl, rfl, -, route⟩ :=
    exists_routeBetween_eq style source target
  rw [route]
  intro name member
  rcases List.mem_append.mp member with climb | new
  · exact List.eq_of_mem_replicate climb ▸ Path.isName_parentSegment
  · exact isName name (List.mem_append_right others new)

/-! ### The text of a route -/

/-- A route is in normal form, but for the empty one, whose normal form is `.`. -/
theorem normalize_ofSegments_of_settled {segments : List Text}
    (settled : Reduction.Settled false segments.reverse) :
    (Path.ofSegments segments).normalize
      = Path.ofSegments (if segments = [] then [currentSegment] else segments) := by
  have read := settled.ofSegments_reverse
  rw [List.reverse_reverse] at read
  by_cases empty : segments = []
  · rw [if_pos empty, empty]
    rfl
  · simp [Path.normalize, Path.withSegments, Path.ofSegments, Path.reduction, Path.isAbsolute,
      Reduction.segments, read, empty]

/-- The names in the text of a route, with the guard, are those of the route or a lone `.`. -/
theorem components_route {segments : List Text}
    (settled : Reduction.Settled false segments.reverse)
    (isName : ∀ name ∈ segments, IsName name) (style : Style) :
    components ((Path.ofSegments segments).normalize.render style)
      = (Path.ofSegments (if segments = [] then [currentSegment] else segments)).guarded style := by
  rw [normalize_ofSegments_of_settled settled]
  apply Path.components_render_ofSegments style
  split
  · exact List.forall_mem_singleton.mpr Path.isName_currentSegment
  · exact isName

/-- Neither the guard nor a lone `.` belongs to the route: without them its text holds just the
segments of the route. -/
theorem filter_components_route {segments : List Text}
    (settled : Reduction.Settled false segments.reverse)
    (isName : ∀ name ∈ segments, IsName name) (style : Style) :
    (components ((Path.ofSegments segments).normalize.render style)).filter (· ≠ currentSegment)
      = segments := by
  have own : segments.filter (· ≠ currentSegment) = segments := by
    rw [List.filter_eq_self]
    intro name member
    exact decide_eq_true (settled.ne_current name (List.mem_reverse.mpr member))
  rw [components_route settled isName]
  by_cases empty : segments = []
  · rw [if_pos empty, empty]
    cases style <;> rfl
  · rw [if_neg empty, Path.guarded]
    split
    · rw [List.filter_cons_of_neg (by simp)]
      exact own
    · exact own

/-- The text of a route is never empty. -/
theorem components_route_ne_nil {segments : List Text}
    (settled : Reduction.Settled false segments.reverse)
    (isName : ∀ name ∈ segments, IsName name) (style : Style) :
    components ((Path.ofSegments segments).normalize.render style) ≠ [] := by
  rw [components_route settled isName]
  apply Path.guarded_ne_nil style
  show (if segments = [] then [currentSegment] else segments) ≠ []
  split
  · exact List.cons_ne_nil _ _
  · assumption

/-- Without a route the answer is the target's location. -/
theorem value_relative_of_not_comparable {style : Style} {source target directory : Text}
    (roots : comparable style (anchor style [source] directory).value.root
      ≠ comparable style (anchor style [target] directory).value.root) :
    (relative style source target directory).value
      = (anchor style [target] directory).value.render style := by
  simp only [relative, Location.route?, if_neg roots]

section Comparable

variable {style : Style} {source target directory : Text}
  (roots : comparable style (anchor style [source] directory).value.root
    = comparable style (anchor style [target] directory).value.root)
include roots

/-- On comparable roots the answer is the normal form of the route. -/
theorem value_relative_of_comparable :
    (relative style source target directory).value
      = (Path.ofSegments (routeBetween style (anchor style [source] directory).value.segments
          (anchor style [target] directory).value.segments)).normalize.render style := by
  have toNames := (settled_anchor style [target] directory).isOrdinary
  rw [normalize_ofSegments_of_settled (settled_routeBetween style toNames)]
  simp only [relative, Location.route?, if_pos roots]
  generalize routeBetween style _ _ = route
  cases route with
  | nil => cases style <;> rfl
  | cons name route => rfl

/-- Whoever carries out the text of a route at the source arrives at the target, up to the
comparison of the style. -/
theorem exists_foldl_step_relative (discarded : Nat) :
    ∃ arrived : List Text,
      (components (relative style source target directory).value).foldl (Reduction.step true)
          ⟨(anchor style [source] directory).value.segments.reverse, discarded⟩
        = ⟨arrived.reverse, discarded⟩ ∧
      arrived.map (comparable style)
        = (anchor style [target] directory).value.segments.map (comparable style) := by
  have start := settled_anchor style [source] directory
  have goal := settled_anchor style [target] directory
  obtain ⟨arrived, follows, alike⟩ :=
    exists_foldl_step_routeBetween style start.isOrdinary goal.isOrdinary discarded
  refine ⟨arrived, ?_, alike⟩
  rw [value_relative_of_comparable roots,
    Path.foldl_step_components_render_normalize (isName_routeBetween style goal.isName), follows]

theorem components_relative_ne_nil :
    components (relative style source target directory).value ≠ [] := by
  have goal := settled_anchor style [target] directory
  rw [value_relative_of_comparable roots]
  exact components_route_ne_nil (settled_routeBetween style goal.isOrdinary)
    (isName_routeBetween style goal.isName) style

/-- The route is found again in the answer. -/
theorem filter_components_relative :
    (components (relative style source target directory).value).filter (· ≠ currentSegment)
      = routeBetween style (anchor style [source] directory).value.segments
          (anchor style [target] directory).value.segments := by
  have goal := settled_anchor style [target] directory
  rw [value_relative_of_comparable roots]
  exact filter_components_route (settled_routeBetween style goal.isOrdinary)
    (isName_routeBetween style goal.isName) style

/-- A route is a relative path under either style: it has no root of its own. -/
theorem isAbsolute_relative :
    isAbsolute style (relative style source target directory).value = false := by
  have goal := settled_anchor style [target] directory
  rw [value_relative_of_comparable roots]
  apply Path.isAbsolute_render_ofSegments style
  exact (Path.legible_ofSegments style (isName_routeBetween style goal.isName)).normalize.isName

theorem segments_parse_relative :
    (Path.parse style (relative style source target directory).value).segments
      = components (relative style source target directory).value := by
  rw [parse_of_not_isAbsolute (isAbsolute_relative roots)]

end Comparable

end Pathwise
