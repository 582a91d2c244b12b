import Mathlib.Data.List.Induction
import Pathwise.Path.Normal

/-!
# Settled segments

Carrying out a list of segments leaves ordinary names. Only a relative path keeps `..`, and then in
front of all names. Such a list is settled: carrying it out once more changes nothing.

The invariant is stated on the stack, where the innermost name is on top, because one segment acts
on the top of the stack only.
-/

namespace Pathwise

/-- A segment that is neither `.` nor `..`, so that reading it goes one level down. -/
structure IsOrdinary (segment : Text) : Prop where
  ne_current : segment ≠ currentSegment
  ne_parent : segment ≠ parentSegment

instance : DecidablePred IsOrdinary := fun segment =>
  decidable_of_iff (segment ≠ currentSegment ∧ segment ≠ parentSegment)
    ⟨fun h => ⟨h.1, h.2⟩, fun h => ⟨h.ne_current, h.ne_parent⟩⟩

theorem not_isOrdinary_currentSegment : ¬ IsOrdinary currentSegment :=
  fun ordinary => ordinary.ne_current rfl

theorem not_isOrdinary_parentSegment : ¬ IsOrdinary parentSegment :=
  fun ordinary => ordinary.ne_parent rfl

namespace Reduction

@[simp] theorem step_current (absolute : Bool) (reduction : Reduction) :
    step absolute reduction currentSegment = reduction := by
  simp [step]

@[simp] theorem step_parent (absolute : Bool) (reduction : Reduction) :
    step absolute reduction parentSegment = reduction.climb absolute := by
  simp [step, parentSegment, currentSegment]

theorem step_of_isOrdinary {segment : Text} (ordinary : IsOrdinary segment) (absolute : Bool)
    (reduction : Reduction) :
    step absolute reduction segment = { reduction with stack := segment :: reduction.stack } := by
  simp [step, ordinary.ne_current, ordinary.ne_parent]

@[simp] theorem climb_replicate_relative (climbs discarded : Nat) :
    climb false ⟨List.replicate climbs parentSegment, discarded⟩
      = ⟨List.replicate (climbs + 1) parentSegment, discarded⟩ := by
  cases climbs with
  | zero => rfl
  | succ climbs => simp [climb, climbBlocked, List.replicate_succ]

theorem climb_cons_of_isOrdinary {top : Text} (ordinary : IsOrdinary top) (absolute : Bool)
    (rest : List Text) (discarded : Nat) :
    climb absolute ⟨top :: rest, discarded⟩ = ⟨rest, discarded⟩ := by
  simp [climb, ordinary.ne_parent]

/-- One segment more, at the end of the list. -/
theorem ofSegments_concat (absolute : Bool) (segments : List Text) (last : Text) :
    ofSegments absolute (segments ++ [last])
      = step absolute (ofSegments absolute segments) last := by
  rw [ofSegments_append, List.foldl_cons, List.foldl_nil]

/-! ### What is left -/

/-- A stack that holds ordinary names above the `..` that a relative path has kept. -/
def Settled (absolute : Bool) (stack : List Text) : Prop :=
  ∃ names climbs, stack = names ++ List.replicate climbs parentSegment ∧
    (∀ name ∈ names, IsOrdinary name) ∧ (absolute = true → climbs = 0)

/-- Under a root nothing but ordinary names is left. -/
theorem Settled.isOrdinary {stack : List Text} (settled : Settled true stack) :
    ∀ name ∈ stack, IsOrdinary name := by
  obtain ⟨names, climbs, rfl, ordinary, none⟩ := settled
  simpa [none rfl] using ordinary

theorem Settled.ne_current {absolute : Bool} {stack : List Text}
    (settled : Settled absolute stack) : ∀ name ∈ stack, name ≠ currentSegment := by
  obtain ⟨names, climbs, rfl, ordinary, -⟩ := settled
  intro name member
  rcases List.mem_append.mp member with own | climb
  · exact (ordinary name own).ne_current
  · rw [List.eq_of_mem_replicate climb]
    decide

theorem Settled.climb {absolute : Bool} {reduction : Reduction}
    (settled : Settled absolute reduction.stack) :
    Settled absolute (reduction.climb absolute).stack := by
  obtain ⟨stack, discarded⟩ := reduction
  obtain ⟨names, climbs, rfl, ordinary, none⟩ := settled
  cases names with
  | nil =>
    -- No name is left to remove: a root discards the `..`, a relative path keeps it.
    cases absolute with
    | true =>
      obtain rfl := none rfl
      exact ⟨[], 0, rfl, by simp, fun _ => rfl⟩
    | false =>
      refine ⟨[], climbs + 1, ?_, by simp, by simp⟩
      rw [List.nil_append, climb_replicate_relative, List.nil_append]
  | cons top rest =>
    obtain ⟨first, others⟩ := List.forall_mem_cons.mp ordinary
    refine ⟨rest, climbs, ?_, others, none⟩
    rw [List.cons_append, climb_cons_of_isOrdinary first]

/-- One segment keeps a stack settled. -/
theorem Settled.step {absolute : Bool} {reduction : Reduction}
    (settled : Settled absolute reduction.stack) (segment : Text) :
    Settled absolute (reduction.step absolute segment).stack := by
  by_cases current : segment = currentSegment
  · rwa [current, step_current]
  by_cases parent : segment = parentSegment
  · rw [parent, step_parent]
    exact settled.climb
  have new : IsOrdinary segment := ⟨current, parent⟩
  obtain ⟨names, climbs, same, ordinary, none⟩ := settled
  refine ⟨segment :: names, climbs, ?_, List.forall_mem_cons.mpr ⟨new, ordinary⟩, none⟩
  rw [step_of_isOrdinary new, same, List.cons_append]

theorem settled_ofSegments (absolute : Bool) (segments : List Text) :
    Settled absolute (ofSegments absolute segments).stack := by
  induction segments using List.reverseRecOn with
  | nil => exact ⟨[], 0, rfl, by simp, fun _ => rfl⟩
  | append_singleton segments last ih =>
    rw [ofSegments_concat]
    exact ih.step last

/-- What is left was there before: no segment is made up. -/
theorem mem_of_mem_ofSegments {absolute : Bool} {segments : List Text} {name : Text}
    (left : name ∈ (ofSegments absolute segments).stack) : name ∈ segments := by
  induction segments using List.reverseRecOn with
  | nil => simp [start] at left
  | append_singleton segments last ih =>
    rw [ofSegments_concat] at left
    have cases_left : name ∈ (ofSegments absolute segments).stack ∨ name = last := by
      grind [step, climb, climbBlocked]
    rcases cases_left with before | rfl
    · exact List.mem_append_left _ (ih before)
    · simp

/-! ### Carrying out segments on a given stack -/

/-- Ordinary names are stacked one upon the other. -/
theorem foldl_step_of_isOrdinary {names : List Text} (ordinary : ∀ name ∈ names, IsOrdinary name)
    (absolute : Bool) (reduction : Reduction) :
    names.foldl (step absolute) reduction
      = { reduction with stack := names.reverse ++ reduction.stack } := by
  induction names generalizing reduction with
  | nil => rfl
  | cons name rest ih =>
    obtain ⟨first, others⟩ := List.forall_mem_cons.mp ordinary
    rw [List.foldl_cons, step_of_isOrdinary first, ih others]
    simp

/-- As many `..` as there are names on top of the stack remove just these names. -/
theorem foldl_step_replicate_parent {names : List Text}
    (ordinary : ∀ name ∈ names, IsOrdinary name) (absolute : Bool) (below : List Text)
    (discarded : Nat) :
    (List.replicate names.length parentSegment).foldl (step absolute) ⟨names ++ below, discarded⟩
      = ⟨below, discarded⟩ := by
  induction names with
  | nil => rfl
  | cons top rest ih =>
    obtain ⟨first, others⟩ := List.forall_mem_cons.mp ordinary
    rw [List.length_cons, List.replicate_succ, List.foldl_cons, step_parent, List.cons_append,
      climb_cons_of_isOrdinary first, ih others]

/-- A relative path keeps every `..` that it starts with. -/
theorem ofSegments_replicate_parent (climbs : Nat) :
    ofSegments false (List.replicate climbs parentSegment)
      = ⟨List.replicate climbs parentSegment, 0⟩ := by
  induction climbs with
  | zero => rfl
  | succ climbs ih =>
    rw [List.replicate_succ', ofSegments_concat, ih, step_parent, climb_replicate_relative,
      List.replicate_succ']

/-- A settled stack is read back as it is. -/
theorem Settled.ofSegments_reverse {absolute : Bool} {stack : List Text}
    (settled : Settled absolute stack) : ofSegments absolute stack.reverse = ⟨stack, 0⟩ := by
  obtain ⟨names, climbs, rfl, ordinary, none⟩ := settled
  have front : ofSegments absolute (List.replicate climbs parentSegment)
      = ⟨List.replicate climbs parentSegment, 0⟩ := by
    cases absolute with
    | true =>
      rw [none rfl]
      rfl
    | false => exact ofSegments_replicate_parent climbs
  rw [List.reverse_append, List.reverse_replicate, ofSegments_append, front,
    foldl_step_of_isOrdinary (by simpa using ordinary), List.reverse_reverse]

/-! ### Carrying out what is left -/

/-- What a segment does to the stack depends on the stack only. -/
theorem stack_step_congr {reduction other : Reduction} (same : reduction.stack = other.stack)
    (absolute : Bool) (segment : Text) :
    (reduction.step absolute segment).stack = (other.step absolute segment).stack := by
  obtain ⟨stack, discarded⟩ := reduction
  obtain rfl : stack = other.stack := same
  simp only [step, climb, climbBlocked]
  grind

theorem stack_foldl_step_congr {reduction other : Reduction} (same : reduction.stack = other.stack)
    (absolute : Bool) (segments : List Text) :
    (segments.foldl (step absolute) reduction).stack
      = (segments.foldl (step absolute) other).stack := by
  induction segments generalizing reduction other with
  | nil => exact same
  | cons segment rest ih => exact ih (stack_step_congr same absolute segment)

/-- Segments may be replaced by what is left of them before more segments are carried out. -/
theorem stack_ofSegments_segments_append (absolute : Bool) (before after : List Text) :
    (ofSegments absolute ((ofSegments absolute before).segments ++ after)).stack
      = (ofSegments absolute (before ++ after)).stack := by
  have again := (settled_ofSegments absolute before).ofSegments_reverse
  rw [ofSegments_append, ofSegments_append]
  apply stack_foldl_step_congr
  rw [segments, again]

/-- The segment on top of the stack is the last one. -/
theorem segments_cons (top : Text) (rest : List Text) (discarded : Nat) :
    segments ⟨top :: rest, discarded⟩ = segments ⟨rest, discarded⟩ ++ [top] := by
  simp [segments]

/-- One more segment of a relative path may be carried out before or after what the path left so
far. -/
theorem foldl_step_segments_step {left : Reduction} (settled : Settled false left.stack)
    (last : Text) (absolute : Bool) (reduction : Reduction) :
    (left.step false last).segments.foldl (step absolute) reduction
      = step absolute (left.segments.foldl (step absolute) reduction) last := by
  obtain ⟨stack, discarded⟩ := left
  by_cases current : last = currentSegment
  · rw [current, step_current, step_current]
  by_cases parent : last = parentSegment
  · rw [parent, step_parent, step_parent]
    obtain ⟨names, climbs, rfl, ordinary, -⟩ := settled
    cases names with
    | nil =>
      -- A `..` that is kept is carried out where the path is carried out.
      rw [List.nil_append, climb_replicate_relative, List.replicate_succ, segments_cons,
        List.foldl_append, List.foldl_cons, List.foldl_nil, step_parent]
    | cons top rest =>
      -- The name that is removed is removed again wherever it was put.
      have first := ordinary top List.mem_cons_self
      rw [List.cons_append, climb_cons_of_isOrdinary first, segments_cons, List.foldl_append,
        List.foldl_cons, List.foldl_nil, step_of_isOrdinary first, climb_cons_of_isOrdinary first]
  · have new : IsOrdinary last := ⟨current, parent⟩
    rw [step_of_isOrdinary new, segments_cons, List.foldl_append, List.foldl_cons, List.foldl_nil]

/-- What is left of a relative path has the effect of the path itself, whatever it is carried out
on. -/
theorem foldl_step_segments_ofSegments (segments : List Text) (absolute : Bool)
    (reduction : Reduction) :
    (ofSegments false segments).segments.foldl (step absolute) reduction
      = segments.foldl (step absolute) reduction := by
  induction segments using List.reverseRecOn with
  | nil => rfl
  | append_singleton segments last ih =>
    have settled := settled_ofSegments false segments
    rw [ofSegments_concat, foldl_step_segments_step settled, ih, List.foldl_append, List.foldl_cons,
      List.foldl_nil]

end Reduction

namespace Path

/-- What is left of the segments is the normal form, unless nothing is left of a relative path. -/
theorem normalize_cases (path : Path) :
    path.normalize = ⟨path.root, path.reduction.stack.reverse, false⟩ ∨
      path.root = none ∧ path.reduction.stack = [] ∧
        path.normalize = ofSegments [currentSegment] := by
  by_cases nowhere : path.reduction.stack = [] ∧ path.root = none
  · right
    refine ⟨nowhere.2, nowhere.1, ?_⟩
    simp [normalize, withSegments, ofSegments, Reduction.segments, isAbsolute, nowhere]
  · left
    simp [normalize, withSegments, Reduction.segments, isAbsolute, nowhere]

/-- A path with a root never becomes `.`. -/
theorem normalize_of_root {root : Text} (segments : List Text) (trailing : Bool) :
    normalize ⟨some root, segments, trailing⟩
      = ⟨some root, (Reduction.ofSegments true segments).stack.reverse, false⟩ := by
  simp [normalize, withSegments, Reduction.segments, isAbsolute, reduction]

/-- An ordinary last segment is left as it is. -/
theorem normalize_concat {name : Text} (ordinary : IsOrdinary name) (root : Option Text)
    (segments : List Text) (trailing : Bool) :
    normalize ⟨root, segments ++ [name], trailing⟩
      = ⟨root, (reduction ⟨root, segments, trailing⟩).segments ++ [name], false⟩ := by
  have left : (reduction ⟨root, segments ++ [name], trailing⟩).segments
      = (reduction ⟨root, segments, trailing⟩).segments ++ [name] := by
    simp only [reduction, isAbsolute, Reduction.ofSegments_concat,
      Reduction.step_of_isOrdinary ordinary, Reduction.segments_cons]
  simp [normalize, left, withSegments]

/-- The root and what is left of the segments determine the normal form. -/
theorem normalize_congr {path other : Path} (roots : path.root = other.root)
    (left : path.reduction.stack = other.reduction.stack) :
    path.normalize = other.normalize := by
  simp [normalize, withSegments, Reduction.segments, isAbsolute, roots, left]

theorem stack_reduction_normalize (path : Path) :
    path.normalize.reduction.stack = path.reduction.stack := by
  have settled := Reduction.settled_ofSegments path.isAbsolute path.segments
  rcases path.normalize_cases with same | ⟨-, empty, same⟩
  · have again : path.normalize.reduction
        = Reduction.ofSegments path.isAbsolute path.reduction.stack.reverse := by
      rw [same]
      rfl
    rw [again, reduction, settled.ofSegments_reverse]
  · rw [same, empty]
    rfl

/-- A normal form is its own normal form. -/
@[simp] theorem normalize_normalize (path : Path) : path.normalize.normalize = path.normalize :=
  normalize_congr (root_normalize path) (stack_reduction_normalize path)

/-- The segments of a normal form are some of the path's own, or the one that stands for a relative
path that leads nowhere. -/
theorem mem_or_eq_of_mem_normalize {path : Path} {name : Text}
    (member : name ∈ path.normalize.segments) : name ∈ path.segments ∨ name = currentSegment := by
  rcases path.normalize_cases with same | ⟨-, -, same⟩
  · rw [same, List.mem_reverse] at member
    exact .inl (Reduction.mem_of_mem_ofSegments member)
  · rw [same] at member
    exact .inr (List.mem_singleton.mp member)

end Path

end Pathwise
