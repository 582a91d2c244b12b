import Pathwise.Proofs.Canonical
import Pathwise.Proofs.Continuations

/-!
# Joining in stages

The parts may be joined one group after the other. What a group is joined to has the effect of its
parts on whatever comes before or after, since carrying out segments and carrying out what is left
of them is the same. The text that is written in between is read again: its root is found as it was,
a host still waits for its share, and the guard and the `.` of an empty path mean nothing.
-/

namespace Pathwise

/-! ### Normal texts that are continued -/

theorem isAbsolute_normalize (style : Style) (raw : Text) :
    isAbsolute style (normalize style raw).value = isAbsolute style raw := by
  have legible := (Path.legible_parse style raw).normalize
  show (Path.parse style ((Path.parse style raw).normalize.render style)).isAbsolute = _
  rw [Path.parse_render legible]
  rfl

/-- The normal form of an absolute text is read with the same root. -/
theorem Root.Reads.normalize {style : Style} {raw : Text} {root : Root} {segments : List Text}
    (reads : Root.Reads style raw root segments) :
    Root.Reads style (Pathwise.normalize style raw).value root
        (Reduction.ofSegments true segments).segments ∧
      isSeparatorPair (Pathwise.normalize style raw).value = false := by
  have isName := reads.settled.isName
  have admits : root.Admits style (Reduction.ofSegments true segments).segments := by
    apply reads.admits.1.replace
    rintro rfl
    rfl
  rw [value_normalize_of_reads reads]
  exact ⟨admits.reads isName, isSeparatorPair_text_append style root isName⟩

/-- The normal form of a relative text has the effect of the text. -/
theorem foldl_step_components_normalize {style : Style} {raw : Text}
    (relative : isAbsolute style raw = false) (absolute : Bool) (reduction : Reduction) :
    (components (normalize style raw).value).foldl (Reduction.step absolute) reduction
      = (components raw).foldl (Reduction.step absolute) reduction := by
  rw [value_normalize_of_relative relative]
  exact Path.foldl_step_components_render_normalize (fun _ => isName_of_mem_components) style
    absolute reduction

/-- A text and its normal form lead to the same path when they are continued with the same names. -/
theorem value_normalize_normalize_append {style : Style} {raw tail other : Text}
    {names : List Text} (started : raw ≠ [])
    (complete : style = .windows → Root.isSeparatorPair raw = false)
    (continues : Continues raw names tail)
    (again : Continues (normalize style raw).value names other) :
    (normalize style ((normalize style raw).value ++ other)).value
      = (normalize style (raw ++ tail)).value := by
  by_cases absolute : isAbsolute style raw = true
  · obtain ⟨root, segments, reads⟩ := exists_reads_of_isAbsolute absolute
    obtain ⟨normal, unpaired⟩ := reads.normalize
    rw [value_normalize_of_reads (reads.extend continues complete),
      value_normalize_of_reads (normal.extend again fun _ => unpaired),
      Location.value_ofSegments_segments_append]
  · have relative := Bool.eq_false_iff.mpr absolute
    have written := (isCanonical_normalize style raw).ne_nil
    have relative' := (isAbsolute_normalize style raw).trans relative
    have first := (isAbsolute_append started continues.separated).trans relative
    have second := (isAbsolute_append written again.separated).trans relative'
    apply value_normalize_congr_of_relative second first
    rw [continues.components_append, again.components_append, Reduction.ofSegments_append,
      Reduction.ofSegments_append, Reduction.ofSegments, foldl_step_components_normalize relative]
    rfl

/-! ### Joining the first parts first -/

/-- Parts that are not all empty may be joined before the later ones, unless the first of them is
two separators. -/
theorem value_join_join_cons {style : Style} {parts : List Text} {first : Text}
    (found : firstFilled? parts = some first)
    (complete : style = .windows → Root.isSeparatorPair first = false) (later : List Text) :
    (join style ((join style parts).value :: later)).value
      = (join style (parts ++ later)).value := by
  have sound := Root.isSeparator_separator style
  rcases concatenate_cases_firstFilled? sound parts with
    ⟨none, -⟩ | ⟨_, names, tail, found', started, same, continues⟩
  · simp [none] at found
  obtain rfl : first = _ := Option.some.inj (found.symm.trans found')
  have filled : concatenate [style.separator] parts ≠ [] := by simp [same, started]
  have complete' : style = .windows →
      Root.isSeparatorPair (concatenate [style.separator] parts) = false := by
    intro windows
    rw [same]
    exact Root.isSeparatorPair_append started continues (complete windows)
  obtain ⟨onward, glued, further⟩ := exists_foldl_appendPart_eq sound later filled
  obtain ⟨other, glued', again⟩ := exists_concatenate_cons_eq sound
    (isCanonical_normalize style (concatenate [style.separator] parts)).ne_nil later
  have staged := value_normalize_normalize_append filled complete' further again
  rwa [← glued, ← glued', ← concatenate_append] at staged

/-! ### Joining the later parts first -/

/-- Under the POSIX style a normal form is determined by whether the text is absolute and by the
effect of its components. -/
theorem value_normalize_posix_congr {raw other : Text}
    (absolute : isAbsolute .posix raw = isAbsolute .posix other)
    (effect : ∀ rooted, Reduction.ofSegments rooted (components raw)
      = Reduction.ofSegments rooted (components other)) :
    (normalize .posix raw).value = (normalize .posix other).value := by
  apply congrArg (Path.render .posix)
  apply Path.normalize_congr
  · rw [root_parse_posix, root_parse_posix, absolute]
  · show (Reduction.ofSegments (isAbsolute .posix raw) _).stack
      = (Reduction.ofSegments (isAbsolute .posix other) _).stack
    rw [(parse_posix raw).2, (parse_posix other).2, absolute, effect]

theorem isAbsolute_concatenate_append_join (style : Style) (parts later : List Text) :
    isAbsolute style (concatenate [style.separator] (parts ++ [(join style later).value]))
      = isAbsolute style (concatenate [style.separator] (parts ++ later)) := by
  apply isAbsolute_concatenate_append_congr
  exact isAbsolute_normalize style (concatenate [style.separator] later)

/-- Under the POSIX style later parts that are relative may be joined on their own. -/
theorem value_join_append_join_posix {later : List Text}
    (relative : ∀ first, firstFilled? later = some first → first.head?.any isSeparator = false)
    (parts : List Text) :
    (join .posix (parts ++ [(join .posix later).value])).value
      = (join .posix (parts ++ later)).value := by
  have sound : isSeparator Style.posix.separator = true := rfl
  have rootless : isAbsolute .posix (concatenate ['/'] later) = false := by
    rw [show ['/'] = [Style.posix.separator] from rfl, isAbsolute_concatenate]
    cases found : firstFilled? later with
    | none => rfl
    | some first =>
      rw [Option.any_some, Bool.eq_false_iff, Ne, isAbsolute_iff, relative first found]
      simp
  apply value_normalize_posix_congr
  · exact isAbsolute_concatenate_append_join .posix parts later
  · intro rooted
    rw [components_concatenate sound, components_concatenate sound, List.flatMap_append,
      List.flatMap_append, List.flatMap_singleton, Reduction.ofSegments_append,
      Reduction.ofSegments_append, ← components_concatenate sound later]
    exact foldl_step_components_normalize rootless rooted _

/-- Joining may be done in stages. Under either style the first parts may be joined first, if they
are not all empty and, under the Windows style, do not start with two separators alone, which wait
for a host. Under the POSIX style the later parts may be joined first, if they do not start with a
separator, which would stop their `..` too early. -/
theorem value_join_in_stages :
    (∀ (style : Style) (parts later : List Text) (first : Text),
      firstFilled? parts = some first →
      (style = .windows → Root.isSeparatorPair first = false) →
      (join style ((join style parts).value :: later)).value
        = (join style (parts ++ later)).value) ∧
    (∀ parts later : List Text,
      (∀ first, firstFilled? later = some first → first.head?.any isSeparator = false) →
      (join .posix (parts ++ [(join .posix later).value])).value
        = (join .posix (parts ++ later)).value) := by
  constructor
  · intro style parts later first found complete
    exact value_join_join_cons found complete later
  · intro parts later relative
    exact value_join_append_join_posix relative parts

/-- A first stage that ends in a guarded name is climbed out of, and a second stage that climbs
takes the first one's name with it. -/
theorem value_join_guarded_and_climbing :
    (firstFilled? ["".toList, "a/..".toList, "c:x".toList] = some "a/..".toList ∧
      Root.isSeparatorPair "a/..".toList = false ∧
      (join .windows ["".toList, "a/..".toList, "c:x".toList]).value = ".\\c:x".toList ∧
      (join .windows [(join .windows ["".toList, "a/..".toList, "c:x".toList]).value,
        "\\..".toList, "d:y".toList]).value = ".\\d:y".toList) ∧
    (∀ first, firstFilled? ["b".toList, "../../c".toList] = some first →
        first.head?.any isSeparator = false) ∧
      (join .posix ["/a".toList, (join .posix ["b".toList, "../../c".toList]).value]).value
        = "/c".toList := by
  have found : firstFilled? ["".toList, "a/..".toList, "c:x".toList] = some "a/..".toList := rfl
  have unpaired : Root.isSeparatorPair "a/..".toList = false := rfl
  have relative : ∀ first, firstFilled? ["b".toList, "../../c".toList] = some first →
      first.head?.any isSeparator = false := by
    rintro _ ⟨⟩
    rfl
  have guarded := value_join_in_stages.1 .windows _ ["\\..".toList, "d:y".toList] _ found
    fun _ => unpaired
  have climbing := value_join_in_stages.2 ["/a".toList] _ relative
  exact ⟨⟨found, unpaired, by decide, guarded.trans (by decide)⟩, relative,
    climbing.trans (by decide)⟩

end Pathwise
