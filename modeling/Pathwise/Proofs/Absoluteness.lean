import Pathwise.Proofs.Splitting
import Pathwise.Proofs.Stages

/-!
# Absolute answers

Whether a path is absolute is never changed by writing it differently: neither its normal form nor
its parent gains or loses a root. A joined path is absolute just if the part that it starts with is,
and a resolved one always is.

Under the Windows style a relative path could turn into one that looks like a drive, because a name
such as `c:x` comes first once the names before it have been climbed out of, or because a letter and
a colon come together. The first is prevented by the guard, the second by the separator between
parts.
-/

namespace Pathwise

theorem isAbsolute_dirname (style : Style) (raw : Text) :
    isAbsolute style (dirname style raw) = isAbsolute style raw := by
  by_cases absolute : isAbsolute style raw = true
  · obtain ⟨root, segments, reads⟩ := exists_reads_of_isAbsolute absolute
    rw [absolute, isAbsolute_of_reads (reads_dirname reads).1]
  · have relative := Bool.eq_false_iff.mpr absolute
    rw [relative, (dirname_of_relative relative).2.1]

theorem isAbsolute_join (style : Style) (parts : List Text) :
    isAbsolute style (join style parts).value = (firstFilled? parts).any (isAbsolute style) :=
  (isAbsolute_normalize style _).trans (isAbsolute_concatenate style parts)

/-- The root of an answer is never an accident. Normalizing a path and taking its parent keep it
absolute or relative, a joined path is absolute if and only if its first part that is not empty is,
and a resolved path is absolute whatever the parts and the current directory are. -/
theorem isAbsolute_answers (style : Style) (directory : Text) :
    (∀ raw, isAbsolute style (normalize style raw).value = isAbsolute style raw ∧
        isAbsolute style raw = isAbsolute style (dirname style raw)) ∧
      (∀ parts, isAbsolute style (join style parts).value = true ↔
        ∃ first, firstFilled? parts = some first ∧ isAbsolute style first = true) ∧
      ∀ parts, isAbsolute style (resolve style parts directory).value = true := by
  refine ⟨?_, ?_, ?_⟩
  · intro raw
    exact ⟨isAbsolute_normalize style raw, (isAbsolute_dirname style raw).symm⟩
  · intro parts
    rw [isAbsolute_join, Option.any_eq_true]
  · intro parts
    exact isAbsolute_resolve style parts directory

/-- A name that looks like a drive comes first, by climbing and by gluing. -/
example :
    (normalize .windows "a\\..\\c:x".toList).value = ".\\c:x".toList ∧
      (join .windows ["c".toList, ":x".toList]).value = "c\\:x".toList := by
  decide

end Pathwise
