import Mathlib.Data.Finset.Dedup
import Mathlib.Data.Fintype.EquivFin
import Mathlib.Data.Fintype.List
import Pathwise.Proofs.Legibility

/-!
# What a relative path means

A relative path means a way from any directory to another one. Its normal form says just that: two
relative paths have the same normal form if and only if they lead to the same place from every
directory.

A normal form climbs first and descends then. A directory that is deep enough shows how far it
climbs, and if the names of the directory do not occur in the path, it also shows the names by which
the path descends. So two normal forms are told apart from such a directory.
-/

namespace Pathwise

/-- There is always one more name that is ordinary. -/
theorem exists_isOrdinary_notMem (names : List Text) :
    ∃ fresh, IsOrdinary fresh ∧ fresh ∉ names := by
  obtain ⟨fresh, new⟩ :=
    Infinite.exists_notMem_finset (currentSegment :: parentSegment :: names).toFinset
  simp only [List.mem_toFinset, List.mem_cons, not_or] at new
  exact ⟨fresh, ⟨new.1, new.2.1⟩, new.2.2⟩

/-- A copied element divides a list in one way only where it does not occur in front. -/
theorem append_replicate_inj {α : Type} [DecidableEq α] {front other : List α} {mark : α}
    {count count' : Nat} (unmarked : mark ∉ front) (unmarked' : mark ∉ other)
    (same : front ++ List.replicate count mark = other ++ List.replicate count' mark) :
    front = other ∧ count = count' := by
  have counts := congrArg (List.count mark) same
  simp only [List.count_append, List.count_replicate_self, List.count_eq_zero.mpr unmarked,
    List.count_eq_zero.mpr unmarked', Nat.zero_add] at counts
  subst counts
  exact ⟨List.append_cancel_right same, rfl⟩

theorem IsOrdinary.replicate {fresh : Text} (ordinary : IsOrdinary fresh) (count : Nat) :
    ∀ name ∈ List.replicate count fresh, IsOrdinary name :=
  fun _ member => List.eq_of_mem_replicate member ▸ ordinary

namespace Reduction

theorem ofSegments_replicate {fresh : Text} (ordinary : IsOrdinary fresh) (absolute : Bool)
    (depth : Nat) :
    ofSegments absolute (List.replicate depth fresh) = ⟨List.replicate depth fresh, 0⟩ := by
  simp [ofSegments, foldl_step_of_isOrdinary (ordinary.replicate depth), start]

/-- From a directory that is deep enough, segments climb as far as what is left of them says, and
descend by the names that are left of them. -/
theorem exists_stack_ofSegments_replicate_append (segments : List Text) :
    ∃ names climbs,
      (ofSegments false segments).stack = names ++ List.replicate climbs parentSegment ∧
      ∀ fresh depth, IsOrdinary fresh → climbs ≤ depth →
        (ofSegments true (List.replicate depth fresh ++ segments)).stack
          = names ++ List.replicate (depth - climbs) fresh := by
  obtain ⟨names, climbs, left, ordinary, -⟩ := settled_ofSegments false segments
  refine ⟨names, climbs, left, ?_⟩
  intro fresh depth isOrdinary deep
  have split : List.replicate depth fresh
      = List.replicate climbs fresh ++ List.replicate (depth - climbs) fresh := by
    rw [← List.replicate_add, Nat.add_sub_cancel' deep]
  have climbed := foldl_step_replicate_parent (isOrdinary.replicate climbs) true
    (List.replicate (depth - climbs) fresh) 0
  rw [List.length_replicate, ← split] at climbed
  have descends : ∀ name ∈ names.reverse, IsOrdinary name :=
    fun name member => ordinary name (List.mem_reverse.mp member)
  rw [ofSegments_append, ofSegments_replicate isOrdinary, ← foldl_step_segments_ofSegments,
    Reduction.segments, left, List.reverse_append, List.reverse_replicate, List.foldl_append,
    climbed, foldl_step_of_isOrdinary descends, List.reverse_reverse]

end Reduction

namespace Path

/-- The absolute path that a path stands for if it is followed from the directory of the given
segments. -/
def beneath (path : Path) (root : Text) (base : List Text) : Path :=
  ⟨some root, base ++ path.segments, path.trailing⟩

/-- Paths that end at the same place. -/
theorem normalize_beneath_eq_iff {path other : Path} {root : Text} {base : List Text} :
    (path.beneath root base).normalize = (other.beneath root base).normalize ↔
      (Reduction.ofSegments true (base ++ path.segments)).stack
        = (Reduction.ofSegments true (base ++ other.segments)).stack := by
  simp [beneath, normalize_of_root]

variable {path other : Path}

/-- A relative path has the effect of its normal form. -/
theorem foldl_step_segments_normalize_of_relative (relative : path.root = none) (absolute : Bool)
    (reduction : Reduction) :
    path.normalize.segments.foldl (Reduction.step absolute) reduction
      = path.segments.foldl (Reduction.step absolute) reduction := by
  obtain ⟨root, segments, trailing⟩ := path
  obtain rfl : root = none := relative
  exact foldl_step_segments_normalize segments absolute reduction

/-- Two relative paths have the same normal form if and only if, whatever the root, they lead to the
same place from every directory. -/
theorem normalize_eq_iff_forall_beneath (relative : path.root = none)
    (relative' : other.root = none) (root : Text) :
    path.normalize = other.normalize ↔
      ∀ base, (path.beneath root base).normalize = (other.beneath root base).normalize := by
  simp only [normalize_beneath_eq_iff]
  constructor
  · intro same base
    rw [Reduction.ofSegments_append, Reduction.ofSegments_append,
      ← foldl_step_segments_normalize_of_relative relative, same,
      foldl_step_segments_normalize_of_relative relative']
  · intro arrives
    obtain ⟨names, climbs, left, deep⟩ :=
      Reduction.exists_stack_ofSegments_replicate_append path.segments
    obtain ⟨names', climbs', left', deep'⟩ :=
      Reduction.exists_stack_ofSegments_replicate_append other.segments
    obtain ⟨fresh, ordinary, new⟩ := exists_isOrdinary_notMem (names ++ names')
    rw [List.mem_append, not_or] at new
    -- What is left of the base shows how far each path climbs, what is put on it where it descends.
    have same := arrives (List.replicate (climbs + climbs') fresh)
    rw [deep fresh _ ordinary (by omega), deep' fresh _ ordinary (by omega)] at same
    obtain ⟨rfl, depths⟩ := append_replicate_inj new.1 new.2 same
    obtain rfl : climbs = climbs' := by omega
    apply normalize_congr (relative.trans relative'.symm)
    simp only [reduction, isAbsolute, relative, relative', Option.isSome_none, left, left']

/-- A detour is no part of the meaning, and segments that cannot be read are names like others. -/
theorem normalize_beneath_detour :
    (ofSegments ["a/b".toList, parentSegment, [], parentSegment, parentSegment]).root = none ∧
      (ofSegments [currentSegment, parentSegment]).root = none ∧
      ∀ base,
        ((ofSegments ["a/b".toList, parentSegment, [], parentSegment, parentSegment]).beneath
            "C:\\".toList base).normalize
          = ((ofSegments [currentSegment, parentSegment]).beneath "C:\\".toList base).normalize :=
  ⟨rfl, rfl, (normalize_eq_iff_forall_beneath rfl rfl "C:\\".toList).mp (by decide)⟩

end Path

end Pathwise
