import Pathwise.Proofs.Meaning
import Pathwise.Proofs.Routes

/-!
# Shortest routes

The route between two locations leads from one to the other, and no list of segments that does so is
shorter: neither one with detours nor one that climbs above the root. The length of the route is a
distance. From a directory and from one just beneath it, the routes to one goal differ in length by
one at most, and a segment goes one level up or down at most; so every segment brings one nearer by
one at most.
-/

namespace Pathwise

/-- Under a root a segment goes up or down by one level at most. -/
theorem Reduction.segments_step_cases (reduction : Reduction) (segment : Text) :
    (reduction.step true segment).segments = reduction.segments ∨
      (∃ name, (reduction.step true segment).segments = reduction.segments ++ [name]) ∨
      ∃ name, reduction.segments = (reduction.step true segment).segments ++ [name] := by
  obtain ⟨stack, discarded⟩ := reduction
  by_cases current : segment = currentSegment
  · rw [current, step_current]
    exact .inl rfl
  by_cases parent : segment = parentSegment
  · rw [parent, step_parent]
    cases stack with
    | nil => exact .inl rfl
    | cons top rest =>
      by_cases blocked : top = parentSegment
      · left
        simp [climb, climbBlocked, blocked, segments]
      · refine .inr (.inr ⟨top, ?_⟩)
        simp [climb, blocked, segments]
  · rw [step_of_isOrdinary ⟨current, parent⟩]
    exact .inr (.inl ⟨segment, segments_cons segment stack discarded⟩)

/-! ### The length of a route -/

/-- From a directory and from one just beneath it, the routes to one goal are about equally long. -/
theorem length_routeBetween_concat (style : Style) (source target : List Text) (name : Text) :
    (routeBetween style (source ++ [name]) target).length
        ≤ (routeBetween style source target).length + 1 ∧
      (routeBetween style source target).length
        ≤ (routeBetween style (source ++ [name]) target).length + 1 := by
  induction source generalizing target with
  | nil =>
    cases target with
    | nil => simp
    | cons right target =>
      rw [List.nil_append, routeBetween_nil_left]
      by_cases same : comparable style name = comparable style right
      · rw [routeBetween_cons_of_eq same, routeBetween_nil_left, List.length_cons]
        omega
      · rw [length_routeBetween_cons_of_ne same, List.length_nil, List.length_cons]
        omega
  | cons left source ih =>
    cases target with
    | nil => simp
    | cons right target =>
      rw [List.cons_append]
      by_cases same : comparable style left = comparable style right
      · rw [routeBetween_cons_of_eq same, routeBetween_cons_of_eq same]
        exact ih target
      · rw [length_routeBetween_cons_of_ne same, length_routeBetween_cons_of_ne same,
          List.length_append, List.length_singleton]
        omega

/-- A segment brings one nearer to the goal by one level at most. -/
theorem length_routeBetween_step (style : Style) (target : List Text) (reduction : Reduction)
    (segment : Text) :
    (routeBetween style reduction.segments target).length
      ≤ (routeBetween style (reduction.step true segment).segments target).length + 1 := by
  rcases reduction.segments_step_cases segment with same | ⟨name, deeper⟩ | ⟨name, higher⟩
  · rw [same]
    exact Nat.le_succ _
  · rw [deeper]
    exact (length_routeBetween_concat style _ target name).2
  · rw [higher]
    exact (length_routeBetween_concat style _ target name).1

/-- So segments bring one nearer by their number at most. -/
theorem length_routeBetween_foldl_step (style : Style) (target segments : List Text)
    (reduction : Reduction) :
    (routeBetween style reduction.segments target).length
      ≤ (routeBetween style (segments.foldl (Reduction.step true) reduction).segments target).length
        + segments.length := by
  induction segments generalizing reduction with
  | nil => exact Nat.le_refl _
  | cons segment rest ih =>
    have first := length_routeBetween_step style target reduction segment
    have others := ih (reduction.step true segment)
    rw [List.foldl_cons, List.length_cons]
    omega

/-! ### The route as the shortest way -/

/-- Whether segments that are carried out at a location lead to the names of another one, as the
style compares them. -/
def Location.LeadsTo (style : Style) (start : Location) (segments : List Text)
    (goal : Location) : Prop :=
  ((Path.ofSegments segments).beneath start.root start.segments).normalize.segments.map
      (comparable style) = goal.names style

namespace Location

variable {style : Style} {start goal : Location}

theorem segments_normalize_beneath (fromNames : ∀ name ∈ start.segments, IsOrdinary name)
    (segments : List Text) :
    ((Path.ofSegments segments).beneath start.root start.segments).normalize.segments
      = (segments.foldl (Reduction.step true) ⟨start.segments.reverse, 0⟩).segments := by
  rw [Path.beneath, Path.normalize_of_root]
  show (Reduction.ofSegments true (start.segments ++ segments)).segments = _
  rw [Reduction.ofSegments_append, Reduction.ofSegments,
    Reduction.foldl_step_of_isOrdinary fromNames, Reduction.start, List.append_nil]

/-- The route leads from its source to its target. -/
theorem leadsTo_routeBetween (fromNames : ∀ name ∈ start.segments, IsOrdinary name)
    (toNames : ∀ name ∈ goal.segments, IsOrdinary name) :
    start.LeadsTo style (routeBetween style start.segments goal.segments) goal := by
  obtain ⟨arrived, follows, alike⟩ :=
    exists_foldl_step_routeBetween style fromNames toNames 0
  rw [LeadsTo, segments_normalize_beneath fromNames, follows, Reduction.segments,
    List.reverse_reverse, alike, names]

/-- Whatever leads from the source to the target is at least as long as the route. -/
theorem LeadsTo.length_routeBetween_le {segments : List Text}
    (leads : start.LeadsTo style segments goal)
    (fromNames : ∀ name ∈ start.segments, IsOrdinary name) :
    (routeBetween style start.segments goal.segments).length ≤ segments.length := by
  rw [LeadsTo, segments_normalize_beneath fromNames, names, ← routeBetween_eq_nil_iff] at leads
  have nearer := length_routeBetween_foldl_step style goal.segments segments
    ⟨start.segments.reverse, 0⟩
  rw [leads, List.length_nil, Nat.zero_add] at nearer
  simpa [Reduction.segments] using nearer

end Location

/-- The text of `relative`, without any `.` in it, is the shortest way from the source to the
target: it leads there, and so does no list with fewer segments. -/
theorem leadsTo_relative_and_length_le {style : Style} {source target directory : Text}
    (roots : comparable style (anchor style [source] directory).value.root
      = comparable style (anchor style [target] directory).value.root) :
    let start := (anchor style [source] directory).value
    let goal := (anchor style [target] directory).value
    let route := (Path.parse style (relative style source target directory).value).segments.filter
      (· ≠ currentSegment)
    start.LeadsTo style route goal ∧
      ∀ segments, start.LeadsTo style segments goal → route.length ≤ segments.length := by
  intro start goal route
  have fromNames := (settled_anchor style [source] directory).isOrdinary
  have toNames := (settled_anchor style [target] directory).isOrdinary
  have same : route = routeBetween style start.segments goal.segments := by
    rw [← filter_components_relative roots, ← segments_parse_relative roots]
  rw [same]
  constructor
  · exact Location.leadsTo_routeBetween fromNames toNames
  · intro segments leads
    exact leads.length_routeBetween_le fromNames

/-- The guard in front of a name that looks like a drive does not make the way longer. -/
theorem leadsTo_relative_guarded :
    comparable .windows (anchor .windows ["C:\\A\\b".toList] []).value.root
        = comparable .windows (anchor .windows ["c:/a/B/d:y".toList] []).value.root ∧
      (relative .windows "C:\\A\\b".toList "c:/a/B/d:y".toList []).value = ".\\d:y".toList ∧
      (anchor .windows ["C:\\A\\b".toList] []).value.LeadsTo .windows ["d:y".toList]
        (anchor .windows ["c:/a/B/d:y".toList] []).value ∧
      ∀ segments, (anchor .windows ["C:\\A\\b".toList] []).value.LeadsTo .windows segments
        (anchor .windows ["c:/a/B/d:y".toList] []).value → 1 ≤ segments.length := by
  have roots : comparable .windows (anchor .windows ["C:\\A\\b".toList] []).value.root
      = comparable .windows (anchor .windows ["c:/a/B/d:y".toList] []).value.root := by
    decide +kernel
  have text : (relative .windows "C:\\A\\b".toList "c:/a/B/d:y".toList []).value
      = ".\\d:y".toList := by
    decide +kernel
  have route : (Path.parse .windows ".\\d:y".toList).segments.filter (· ≠ currentSegment)
      = ["d:y".toList] := by
    decide
  have shortest := leadsTo_relative_and_length_le roots
  rw [text, route] at shortest
  exact ⟨roots, text, shortest⟩

end Pathwise
