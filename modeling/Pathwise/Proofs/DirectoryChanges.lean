import Pathwise.Proofs.Bases
import Pathwise.Proofs.Stages

/-!
# Resolving as changing directories

Resolving a list of parts is going from the current directory to the first part, from there to the
second one and so on. So it may be interrupted: where the first parts lead to is where the later
ones start from.

If one of the later parts is absolute, all that comes before it is forgotten. Otherwise the later
parts are joined to what the first ones are joined to, and joining may be done in stages.
-/

namespace Pathwise

/-! ### The parts that are joined -/

/-- Parts with the bare root in front, unless they are absolute without it. -/
def rooted (style : Style) (parts : List Text) : List Text :=
  if isAbsolute style (concatenate [style.separator] parts) then parts
  else [style.separator] :: parts

/-- Resolving parts is joining the ones that decide the location, from the root on. -/
theorem value_resolve_eq_join_rooted (style : Style) (parts : List Text) (directory : Text) :
    (resolve style parts directory).value
      = (join style (rooted style (startingParts style parts directory).value)).value := by
  unfold rooted
  split
  · next absolute => exact value_resolve_of_isAbsolute rfl absolute
  · next relative => exact value_resolve_of_relative rfl (Bool.eq_false_iff.mpr relative)

theorem exists_firstFilled?_rooted (style : Style) (parts : List Text) :
    ∃ first, firstFilled? (rooted style parts) = some first ∧
      (first = [style.separator] ∨ first ∈ parts) := by
  unfold rooted
  split
  · next absolute =>
    rw [isAbsolute_concatenate] at absolute
    obtain ⟨first, found, -⟩ := (Option.any_eq_true _ _).mp absolute
    exact ⟨first, found, .inr (List.mem_of_find?_eq_some found)⟩
  · exact ⟨[style.separator], rfl, .inl rfl⟩

/-- Relative parts at the end do not change whether a root is needed in front. -/
theorem rooted_append {style : Style} {later : List Text}
    (relative : ∀ part ∈ later, isAbsolute style part = false) (parts : List Text) :
    rooted style (parts ++ later) = rooted style parts ++ later := by
  have kept : isAbsolute style (concatenate [style.separator] (parts ++ later))
      = isAbsolute style (concatenate [style.separator] parts) := by
    have rootless : isAbsolute style (concatenate [style.separator] later)
        = isAbsolute style (concatenate [style.separator] []) := by
      rw [isAbsolute_concatenate_of_relative relative, concatenate_nil, isAbsolute_nil]
    have same := isAbsolute_concatenate_append_congr rootless parts
    rwa [List.append_nil] at same
  unfold rooted
  rw [kept]
  split <;> rfl

theorem mem_of_mem_startingParts {style : Style} {parts : List Text} {directory part : Text}
    (member : part ∈ (startingParts style parts directory).value) : part ∈ directory :: parts := by
  unfold startingParts at member
  split at member
  · next last =>
    -- The last absolute part and the parts after it are the end of the list.
    obtain ⟨before, rfl, -, -⟩ := lastAbsolute?_eq_some_iff.mp last
    exact List.mem_cons_of_mem directory (List.mem_append_right before member)
  · exact member

/-! ### Forgetting what comes before an absolute part -/

/-- What comes before an absolute part has no say in where parts lead to. -/
theorem value_resolve_append_of_isAbsolute {style : Style} {later : List Text} {part : Text}
    (member : part ∈ later) (absolute : isAbsolute style part = true) (parts : List Text)
    (directory : Text) :
    (resolve style (parts ++ later) directory).value = (resolve style later directory).value := by
  have among : lastAbsolute? style later ≠ none := by
    intro none
    simp [lastAbsolute?_eq_none_iff.mp none part member] at absolute
  obtain ⟨found, last⟩ := Option.ne_none_iff_exists'.mp among
  have last' : lastAbsolute? style (parts ++ later) = some found := by
    rw [lastAbsolute?_append, last, Option.some_or]
  have starting : (startingParts style (parts ++ later) directory).value
      = (startingParts style later directory).value := by
    simp only [startingParts, last, last']
  show (anchor style (parts ++ later) directory).value.render style
    = (anchor style later directory).value.render style
  rw [value_anchor, value_anchor, starting]

/-! ### Stopping on the way -/

/-- Relative parts lead from where the parts before them lead to. -/
theorem value_resolve_resolve_cons_of_relative {style : Style} {parts later : List Text}
    {directory : Text}
    (complete : style = .windows → ∀ part ∈ directory :: parts, Root.isSeparatorPair part = false)
    (relative : ∀ part ∈ later, isAbsolute style part = false) :
    (resolve style ((resolve style parts directory).value :: later) directory).value
      = (resolve style (parts ++ later) directory).value := by
  obtain ⟨first, found, origin⟩ :=
    exists_firstFilled?_rooted style (startingParts style parts directory).value
  have unpaired : style = .windows → Root.isSeparatorPair first = false := by
    intro windows
    rcases origin with rfl | member
    · rfl
    · exact complete windows first (mem_of_mem_startingParts member)
  have absolute := isAbsolute_resolve style parts directory
  generalize stop : (resolve style parts directory).value = middle at absolute
  have starts : (startingParts style (middle :: later) directory).value = middle :: later := by
    simp [startingParts, lastAbsolute?, lastAbsolute?_eq_none_iff.mpr relative, absolute]
  have based : isAbsolute style (concatenate [style.separator] (middle :: later)) = true := by
    rwa [isAbsolute_concatenate_cons (ne_nil_of_isAbsolute absolute)]
  rw [value_resolve_of_isAbsolute starts based, value_resolve_eq_join_rooted,
    value_startingParts_append relative, rooted_append relative,
    ← value_join_join_cons found unpaired, ← value_resolve_eq_join_rooted, stop]

/-- From where the first parts lead to, the later ones lead to where all of them lead to. Under the
Windows style neither the current directory nor one of the first parts may be two separators alone,
which wait for a host. -/
theorem value_resolve_resolve_cons {style : Style} {parts : List Text} {directory : Text}
    (complete : style = .windows → ∀ part ∈ directory :: parts, Root.isSeparatorPair part = false)
    (later : List Text) :
    (resolve style ((resolve style parts directory).value :: later) directory).value
      = (resolve style (parts ++ later) directory).value := by
  by_cases relative : ∀ part ∈ later, isAbsolute style part = false
  · exact value_resolve_resolve_cons_of_relative complete relative
  · simp only [not_forall, Bool.not_eq_false] at relative
    obtain ⟨part, member, absolute⟩ := relative
    rw [← List.singleton_append, value_resolve_append_of_isAbsolute member absolute,
      value_resolve_append_of_isAbsolute member absolute]

/-- A host that is reached from a relative directory still waits for its share. -/
theorem value_resolve_resolve_host :
    (∀ part ∈ ["work".toList, "c:x".toList, "//host".toList, "".toList],
        Root.isSeparatorPair part = false) ∧
      (resolve .windows ["c:x".toList, "//host".toList, "".toList] "work".toList).value
        = "\\\\host\\".toList ∧
      (resolve .windows [(resolve .windows ["c:x".toList, "//host".toList, "".toList]
          "work".toList).value, "share/a".toList, "..\\..\\d:b".toList] "work".toList).value
        = "\\\\host\\share\\d:b".toList := by
  have unpaired : ∀ part ∈ ["work".toList, "c:x".toList, "//host".toList, "".toList],
      Root.isSeparatorPair part = false := by
    decide
  have stopped := value_resolve_resolve_cons (fun _ : Style.windows = .windows => unpaired)
    ["share/a".toList, "..\\..\\d:b".toList]
  exact ⟨unpaired, by decide, stopped.trans (by decide)⟩

end Pathwise
