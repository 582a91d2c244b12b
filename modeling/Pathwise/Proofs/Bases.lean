import Pathwise.Proofs.Continuations

/-!
# Resolving as joining

Resolving looks for the base of a path: the last absolute part, else the current directory, else
the bare root with the current directory after it. From the base on it is joining, so that no part
before an absolute one can change the answer, and nor can the current directory then.
-/

namespace Pathwise

/-! ### The base -/

/-- An absolute part with relative ones after it is the last absolute part, whatever is before. -/
theorem lastAbsolute?_append_cons {style : Style} {part : Text} {later : List Text}
    (absolute : isAbsolute style part = true)
    (relative : ∀ other ∈ later, isAbsolute style other = false) (before : List Text) :
    lastAbsolute? style (before ++ part :: later) = some (part, later) := by
  simp [lastAbsolute?_append, lastAbsolute?_cons, lastAbsolute?_eq_none_iff.mpr relative, absolute]

/-- The part that is found is absolute, and the parts after it are relative. -/
theorem lastAbsolute?_eq_some_iff {style : Style} {parts later : List Text} {part : Text} :
    lastAbsolute? style parts = some (part, later) ↔
      ∃ before, parts = before ++ part :: later ∧ isAbsolute style part = true ∧
        ∀ other ∈ later, isAbsolute style other = false := by
  constructor
  · intro found
    induction parts with
    | nil => cases found
    | cons first parts ih =>
      rw [lastAbsolute?_cons, Option.or_eq_some_iff] at found
      rcases found with among | ⟨none, own⟩
      · obtain ⟨before, rfl, absolute, relative⟩ := ih among
        exact ⟨first :: before, rfl, absolute, relative⟩
      · obtain ⟨absolute, same⟩ := Option.ite_none_right_eq_some.mp own
        obtain ⟨rfl, rfl⟩ : first = part ∧ parts = later := by simpa using same
        exact ⟨[], rfl, absolute, lastAbsolute?_eq_none_iff.mp none⟩
  · rintro ⟨before, rfl, absolute, relative⟩
    exact lastAbsolute?_append_cons absolute relative before

/-! ### From the base on -/

/-- Parts that start with an absolute one lead to where they are joined to. -/
theorem value_resolve_of_isAbsolute {style : Style} {parts starting : List Text}
    {directory : Text} (starts : (startingParts style parts directory).value = starting)
    (absolute : isAbsolute style (concatenate [style.separator] starting) = true) :
    (resolve style parts directory).value = (join style starting).value := by
  obtain ⟨root, segments, reads⟩ := exists_reads_of_isAbsolute absolute
  rw [value_join_of_reads reads]
  show (anchor style parts directory).value.render style = _
  rw [value_anchor, starts, Path.parse_of_reads reads]
  rfl

/-- Behind the bare root all names of the parts are segments. -/
theorem reads_concatenate_bare (style : Style) (parts : List Text) :
    Root.Reads style (concatenate [style.separator] ([style.separator] :: parts)) .bare
      (parts.flatMap components) := by
  have lone : Root.Reads style [style.separator] .bare (components []) :=
    .bare (Root.isSeparator_separator style) fun _ => by simp [Root.OpensNetwork]
  exact lone.concatenate_cons (fun _ => rfl) parts

/-- Parts that are still relative behind the current directory lead to where they are joined to
from the bare root. -/
theorem value_resolve_of_relative {style : Style} {parts starting : List Text}
    {directory : Text} (starts : (startingParts style parts directory).value = starting)
    (relative : isAbsolute style (concatenate [style.separator] starting) = false) :
    (resolve style parts directory).value
      = (join style ([style.separator] :: starting)).value := by
  rw [value_join_of_reads (reads_concatenate_bare style starting)]
  show (anchor style parts directory).value.render style = _
  rw [value_anchor, starts, parse_of_not_isAbsolute relative,
    components_concatenate (Root.isSeparator_separator style)]
  rfl

/-- Resolving is joining from the base: from the last absolute part if there is one; else from the
current directory if that is absolute; else from the bare root, the current directory being the
first part. -/
theorem value_resolve_eq_join (style : Style) (parts : List Text) (directory : Text) :
    (∀ before part later, parts = before ++ part :: later → isAbsolute style part = true →
        (∀ other ∈ later, isAbsolute style other = false) →
        (resolve style parts directory).value = (join style (part :: later)).value) ∧
      ((∀ part ∈ parts, isAbsolute style part = false) →
        (resolve style parts directory).value =
          if isAbsolute style directory then (join style (directory :: parts)).value
          else (join style ([style.separator] :: directory :: parts)).value) := by
  constructor
  · rintro before part later rfl absolute relative
    apply value_resolve_of_isAbsolute
    · simp [startingParts, lastAbsolute?_append_cons absolute relative]
    · rwa [isAbsolute_concatenate_cons (ne_nil_of_isAbsolute absolute)]
  · intro relative
    have starts : (startingParts style parts directory).value = directory :: parts := by
      simp [startingParts, lastAbsolute?_eq_none_iff.mpr relative]
    by_cases absolute : isAbsolute style directory = true
    · rw [if_pos absolute]
      apply value_resolve_of_isAbsolute starts
      rwa [isAbsolute_concatenate_cons (ne_nil_of_isAbsolute absolute)]
    · rw [if_neg absolute]
      apply value_resolve_of_relative starts
      apply isAbsolute_concatenate_of_relative
      exact List.forall_mem_cons.mpr ⟨Bool.eq_false_iff.mpr absolute, relative⟩

/-- A host in the middle is the base, and the part after it is its share; without an absolute part
the path starts at the root, because the current directory is relative. -/
theorem value_resolve_host_and_relative :
    (isAbsolute .windows "//host".toList = true ∧
      (∀ other ∈ ["share".toList, "..\\a".toList], isAbsolute .windows other = false) ∧
      (resolve .windows ["c:x".toList, "//host".toList, "share".toList, "..\\a".toList]
        "work".toList).value = "\\\\host\\share\\a".toList) ∧
    (∀ part ∈ ["".toList, "..\\..\\b".toList], isAbsolute .windows part = false) ∧
      (resolve .windows ["".toList, "..\\..\\b".toList] "work".toList).value = "\\b".toList := by
  have host : isAbsolute .windows "//host".toList = true := by decide
  have after : ∀ other ∈ ["share".toList, "..\\a".toList], isAbsolute .windows other = false := by
    decide
  have relative : ∀ part ∈ ["".toList, "..\\..\\b".toList], isAbsolute .windows part = false := by
    decide
  have first := (value_resolve_eq_join .windows
    ["c:x".toList, "//host".toList, "share".toList, "..\\a".toList] "work".toList).1
    ["c:x".toList] _ _ rfl host after
  have second := (value_resolve_eq_join .windows ["".toList, "..\\..\\b".toList]
    "work".toList).2 relative
  exact ⟨⟨host, after, first.trans (by decide)⟩, relative, second.trans (by decide)⟩

end Pathwise
