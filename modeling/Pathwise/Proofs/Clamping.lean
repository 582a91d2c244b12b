import Mathlib.Data.List.Infix
import Pathwise.Proofs.Reduction

/-!
# Climbing above the start

A root discards just what a relative path keeps. Carried out with a root and without one, a list of
segments leaves the same names, and the `..` that a relative path keeps in front of them are as many
as those that an absolute path discards. Their number can be read off the list: it is the largest
excess of `..` over ordinary segments in a beginning of the list, which is how far above its start
the list leads at some point. Every other `..` removes one name.

The same number is found by looking for the `..` at which an absolute path has nothing left.
-/

namespace Pathwise

namespace Reduction

/-- By how many the `..` of a list outnumber its ordinary segments; zero if they do not. -/
def excess (segments : List Text) : Nat :=
  segments.count parentSegment - segments.countP (IsOrdinary ·)

/-- The largest excess of a beginning of the list. -/
def peak (segments : List Text) : Nat :=
  (segments.inits.map excess).foldl max 0

theorem excess_concat_parent (segments : List Text) :
    excess (segments ++ [parentSegment])
      = segments.count parentSegment + 1 - segments.countP (IsOrdinary ·) := by
  simp [excess, not_isOrdinary_parentSegment]

/-- The longer list has one more beginning, which is the list itself. -/
theorem peak_concat (segments : List Text) (last : Text) :
    peak (segments ++ [last]) = max (peak segments) (excess (segments ++ [last])) := by
  simp [peak, List.inits_append]

theorem excess_le_peak (segments : List Text) : excess segments ≤ peak segments := by
  induction segments using List.reverseRecOn with
  | nil => exact Nat.zero_le _
  | append_singleton segments last =>
    rw [peak_concat]
    exact Nat.le_max_right _ _

theorem peak_concat_of_le {segments : List Text} {last : Text}
    (low : excess (segments ++ [last]) ≤ peak segments) :
    peak (segments ++ [last]) = peak segments := by
  rw [peak_concat, Nat.max_eq_left low]

/-- A segment that is no `..` does not lead higher. -/
theorem peak_concat_of_ne_parent {last : Text} (other : last ≠ parentSegment)
    (segments : List Text) : peak (segments ++ [last]) = peak segments := by
  apply peak_concat_of_le
  have before := excess_le_peak segments
  have same : (segments ++ [last]).count parentSegment = segments.count parentSegment := by
    simp [other]
  have more : segments.countP (IsOrdinary ·) ≤ (segments ++ [last]).countP (IsOrdinary ·) := by
    simp
  unfold excess at before ⊢
  omega

/-- What a list of segments comes to, with a root and without one. The names that are left are given
as on the stack, the last one first. -/
structure Leaves (segments names : List Text) : Prop where
  relative : ofSegments false segments
    = ⟨names ++ List.replicate (peak segments) parentSegment, 0⟩
  absolute : ofSegments true segments = ⟨names, peak segments⟩
  isOrdinary : ∀ name ∈ names, IsOrdinary name
  sublist : names.reverse.Sublist segments
  /-- A name is removed by a `..`, and a `..` that removes no name goes above the start. -/
  balanced : ∃ removed, segments.countP (IsOrdinary ·) = names.length + removed ∧
    segments.count parentSegment = peak segments + removed

namespace Leaves

variable {segments names : List Text}

theorem concat_current (leaves : Leaves segments names) :
    Leaves (segments ++ [currentSegment]) names := by
  have level := peak_concat_of_ne_parent (show currentSegment ≠ parentSegment by decide) segments
  obtain ⟨removed, ordinary, parents⟩ := leaves.balanced
  refine ⟨?_, ?_, leaves.isOrdinary, ?_, removed, ?_, ?_⟩
  · rw [ofSegments_concat, step_current, level, leaves.relative]
  · rw [ofSegments_concat, step_current, level, leaves.absolute]
  · exact leaves.sublist.trans (List.sublist_append_left segments _)
  · simpa [not_isOrdinary_currentSegment] using ordinary
  · rw [level, List.count_append, parents]
    rfl

theorem concat_ordinary {last : Text} (new : IsOrdinary last) (leaves : Leaves segments names) :
    Leaves (segments ++ [last]) (last :: names) := by
  have level := peak_concat_of_ne_parent new.ne_parent segments
  have one : [last].countP (IsOrdinary ·) = 1 := by simp [new]
  obtain ⟨removed, ordinary, parents⟩ := leaves.balanced
  refine ⟨?_, ?_, List.forall_mem_cons.mpr ⟨new, leaves.isOrdinary⟩, ?_, removed, ?_, ?_⟩
  · rw [ofSegments_concat, step_of_isOrdinary new, level, leaves.relative, List.cons_append]
  · rw [ofSegments_concat, step_of_isOrdinary new, level, leaves.absolute]
  · rw [List.reverse_cons]
    exact leaves.sublist.append_right [last]
  · rw [List.countP_append, ordinary, one, List.length_cons, Nat.add_right_comm]
  · rw [level, ← parents]
    simp [new.ne_parent]

/-- A `..` that finds no name leads higher than before, and is kept or discarded. -/
theorem concat_parent_nil (leaves : Leaves segments []) :
    Leaves (segments ++ [parentSegment]) [] := by
  obtain ⟨removed, ordinary, parents⟩ := leaves.balanced
  have higher : peak (segments ++ [parentSegment]) = peak segments + 1 := by
    rw [peak_concat, excess_concat_parent, ordinary, parents, List.length_nil]
    omega
  refine ⟨?_, ?_, leaves.isOrdinary, List.nil_sublist _, removed, ?_, ?_⟩
  · rw [ofSegments_concat, step_parent, higher, leaves.relative, List.nil_append,
      climb_replicate_relative, List.nil_append]
  · rw [ofSegments_concat, step_parent, higher, leaves.absolute]
    rfl
  · simpa [not_isOrdinary_parentSegment] using ordinary
  · rw [higher, List.count_append, parents, Nat.add_right_comm]
    rfl

/-- A `..` that finds a name removes it. -/
theorem concat_parent_cons {top : Text} (leaves : Leaves segments (top :: names)) :
    Leaves (segments ++ [parentSegment]) names := by
  obtain ⟨removed, ordinary, parents⟩ := leaves.balanced
  obtain ⟨first, others⟩ := List.forall_mem_cons.mp leaves.isOrdinary
  rw [List.length_cons] at ordinary
  have level : peak (segments ++ [parentSegment]) = peak segments := by
    apply peak_concat_of_le
    rw [excess_concat_parent, ordinary, parents]
    omega
  have none : [parentSegment].countP (IsOrdinary ·) = 0 := by
    simp [not_isOrdinary_parentSegment]
  have shorter : names.reverse.Sublist (top :: names).reverse := by
    rw [List.reverse_cons]
    exact List.sublist_append_left _ _
  refine ⟨?_, ?_, others, ?_, removed + 1, ?_, ?_⟩
  · rw [ofSegments_concat, step_parent, level, leaves.relative, List.cons_append,
      climb_cons_of_isOrdinary first]
  · rw [ofSegments_concat, step_parent, level, leaves.absolute, climb_cons_of_isOrdinary first]
  · exact (shorter.trans leaves.sublist).trans (List.sublist_append_left segments _)
  · rw [List.countP_append, ordinary, none]
    omega
  · rw [level, List.count_append, parents]
    rfl

theorem exists_concat (leaves : Leaves segments names) (last : Text) :
    ∃ left, Leaves (segments ++ [last]) left := by
  by_cases current : last = currentSegment
  · exact ⟨names, current ▸ leaves.concat_current⟩
  by_cases parent : last = parentSegment
  · subst parent
    cases names with
    | nil => exact ⟨[], leaves.concat_parent_nil⟩
    | cons top names => exact ⟨names, leaves.concat_parent_cons⟩
  · exact ⟨last :: names, leaves.concat_ordinary ⟨current, parent⟩⟩

end Leaves

theorem exists_leaves (segments : List Text) : ∃ names, Leaves segments names := by
  induction segments using List.reverseRecOn with
  | nil => exact ⟨[], rfl, rfl, by simp, .slnil, 0, rfl, rfl⟩
  | append_singleton segments last ih =>
    obtain ⟨names, leaves⟩ := ih
    exact leaves.exists_concat last

/-! ### Climbing where nothing is left -/

/-- How many `..` of an absolute path find nothing left to remove. Each of them ends a beginning of
the list, and nothing is left of the segments before it. -/
def blockedClimbs (segments : List Text) : Nat :=
  segments.inits.countP fun beginning =>
    beginning.getLast? = some parentSegment ∧ (ofSegments true beginning.dropLast).segments = []

theorem blockedClimbs_concat (segments : List Text) (last : Text) :
    blockedClimbs (segments ++ [last])
      = blockedClimbs segments
        + if last = parentSegment ∧ (ofSegments true segments).segments = [] then 1 else 0 := by
  simp [blockedClimbs, List.inits_append, List.countP_append, List.countP_cons]

/-- An absolute path discards a segment just if it is a `..` and nothing is left to remove. -/
theorem discarded_step {reduction : Reduction} (settled : Settled true reduction.stack)
    (segment : Text) :
    (reduction.step true segment).discarded
      = reduction.discarded + if segment = parentSegment ∧ reduction.segments = [] then 1 else 0 := by
  obtain ⟨stack, discarded⟩ := reduction
  by_cases parent : segment = parentSegment
  · subst parent
    rw [step_parent]
    cases stack with
    | nil => rfl
    | cons top rest =>
      have ordinary := settled.isOrdinary top List.mem_cons_self
      simp [climb_cons_of_isOrdinary ordinary, segments]
  · have kept : (step true ⟨stack, discarded⟩ segment).discarded = discarded := by
      simp only [step, parent, if_false]
      split <;> rfl
    simp [kept, parent]

theorem discarded_ofSegments (segments : List Text) :
    (ofSegments true segments).discarded = blockedClimbs segments := by
  induction segments using List.reverseRecOn with
  | nil => rfl
  | append_singleton segments last ih =>
    rw [ofSegments_concat, discarded_step (settled_ofSegments true segments), ih,
      blockedClimbs_concat]

/-- They are as many as the list leads above its start. -/
theorem blockedClimbs_eq_peak (segments : List Text) : blockedClimbs segments = peak segments := by
  obtain ⟨names, leaves⟩ := exists_leaves segments
  rw [← discarded_ofSegments, leaves.absolute]

end Reduction

namespace Path

open Reduction

/-- Whether a list of segments is carried out as a relative or as an absolute path, it leaves the
same ordinary names, in their order. A relative path keeps as many `..` in front of them as an
absolute one discards, and that is the largest excess of a beginning of the list. Every other `..`
has removed one ordinary segment. -/
theorem exists_names_normalize (segments : List Text) :
    ∃ names : List Text, (∀ name ∈ names, IsOrdinary name) ∧ names.Sublist segments ∧
      (∀ trailing,
        (Path.mk none segments trailing).normalize.segments
            = (if peak segments = 0 ∧ names = [] then [currentSegment]
              else List.replicate (peak segments) parentSegment ++ names) ∧
          (Path.mk none segments trailing).discards = []) ∧
      (∀ root trailing,
        (Path.mk (some root) segments trailing).normalize.segments = names ∧
          (Path.mk (some root) segments trailing).discards
            = List.replicate (peak segments) (.discardedAbove root)) ∧
      ∃ removed, segments.countP (IsOrdinary ·) = names.length + removed ∧
        segments.count parentSegment = peak segments + removed := by
  obtain ⟨stack, leaves⟩ := exists_leaves segments
  refine ⟨stack.reverse, ?_, leaves.sublist, ?_, ?_, ?_⟩
  · intro name member
    exact leaves.isOrdinary name (List.mem_reverse.mp member)
  · intro trailing
    refine ⟨?_, rfl⟩
    simp [normalize, withSegments, reduction, isAbsolute, leaves.relative, Reduction.segments]
  · intro root trailing
    rw [normalize_of_root, leaves.absolute]
    simp [discards, reduction, isAbsolute, leaves.absolute]
  · rw [List.length_reverse]
    exact leaves.balanced

/-- Down and up again, then twice above the start with a detour in between. -/
example : peak ["a".toList, parentSegment, parentSegment, "b".toList, parentSegment, parentSegment,
    "c".toList] = 2 := by
  decide

end Path

end Pathwise
