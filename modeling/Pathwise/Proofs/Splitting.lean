import Pathwise.Lexical
import Pathwise.Proofs.Canonical
import Pathwise.Proofs.Continuations

/-!
# Splitting off the last name

The parent of a path and its last name make up the path again. The parent is the root with all
segments but the last one, written out, so that it is read with the same root, and the last name is
glued to it as the segment that it was. Where nothing is left of a relative path its parent is `.`,
which has no effect.

Under the POSIX style it also works the other way round: an ordinary name that is joined to a path
comes after all that is left of the path, so splitting it off leaves the path in normal form. Under
the Windows style the name could be taken for a drive, or for the share of a host.
-/

namespace Pathwise

/-- The last name is the last segment, or no segment at all. -/
theorem dropLast_append_components_basename (style : Style) (raw : Text) :
    (Path.parse style raw).segments.dropLast ++ components (basename style raw [])
      = (Path.parse style raw).segments := by
  have isName := (Path.legible_parse style raw).isName
  rw [basename, Text.withoutEnding_nil, Path.lastSegment]
  generalize (Path.parse style raw).segments = segments at isName ⊢
  cases segments using List.reverseRecOn with
  | nil => simp
  | append_singleton front last =>
    have name := isName last (by simp)
    simp [components_of_noSeparator name.noSeparator name.ne_nil]

theorem dropLast_of_length_le_one {segments : List Text} (short : segments.length ≤ 1) :
    segments.dropLast = [] := by
  apply List.eq_nil_of_length_eq_zero
  rw [List.length_dropLast]
  omega

/-- The parent of an absolute text is its root with the segments but the last one. -/
theorem reads_dirname {style : Style} {raw : Text} {root : Root} {segments : List Text}
    (reads : Root.Reads style raw root segments) :
    Root.Reads style (dirname style raw) root segments.dropLast ∧
      Root.isSeparatorPair (dirname style raw) = false := by
  obtain ⟨admits, isName⟩ := reads.admits
  have front : ∀ name ∈ segments.dropLast, IsName name :=
    fun name member => isName name (List.dropLast_subset segments member)
  have written : dirname style raw
      = root.text style ++ joinNames [style.separator] segments.dropLast := by
    rw [dirname, Path.parse_of_reads reads]
    by_cases short : segments.length ≤ 1
    · simp [short, dropLast_of_length_le_one short, joinNames]
    · simp only [short, if_false]
      rfl
  have parent : root.Admits style segments.dropLast := by
    apply admits.replace
    rintro rfl
    rfl
  rw [written]
  exact ⟨parent.reads front, Root.isSeparatorPair_text_append style root front⟩

theorem exists_dirname_eq_of_relative {style : Style} {raw : Text}
    (relative : isAbsolute style raw = false) :
    ∃ front, dirname style raw = (Path.ofSegments front).render style ∧ front ≠ [] ∧
      (∀ name ∈ front, IsName name) ∧
      ∀ absolute reduction, front.foldl (Reduction.step absolute) reduction
        = (components raw).dropLast.foldl (Reduction.step absolute) reduction := by
  rw [dirname, parse_of_not_isAbsolute relative]
  by_cases short : (components raw).length ≤ 1
  · refine ⟨[currentSegment], ?_, List.cons_ne_nil _ _, ?_, ?_⟩
    · simp only [short, if_true]
      cases style <;> rfl
    · exact List.forall_mem_singleton.mpr Path.isName_currentSegment
    · intro absolute reduction
      rw [dropLast_of_length_le_one short]
      exact Reduction.step_current absolute reduction
  · refine ⟨(components raw).dropLast, ?_, ?_, ?_, fun _ _ => rfl⟩
    · simp only [short, if_false]
      rfl
    · intro none
      have length := congrArg List.length none
      rw [List.length_dropLast, List.length_nil] at length
      omega
    · exact fun name member => isName_of_mem_components (List.dropLast_subset _ member)

/-- The parent of a relative text is relative and has the effect of the segments but the last
one. -/
theorem dirname_of_relative {style : Style} {raw : Text}
    (relative : isAbsolute style raw = false) :
    dirname style raw ≠ [] ∧ isAbsolute style (dirname style raw) = false ∧
      ∀ absolute reduction,
        (components (dirname style raw)).foldl (Reduction.step absolute) reduction
          = (components raw).dropLast.foldl (Reduction.step absolute) reduction := by
  obtain ⟨front, written, named, isName, effect⟩ := exists_dirname_eq_of_relative relative
  rw [written]
  refine ⟨Path.render_ofSegments_ne_nil style isName named,
    Path.isAbsolute_render_ofSegments style isName, ?_⟩
  intro absolute reduction
  rw [Path.components_render_ofSegments style isName, Path.foldl_step_guarded]
  exact effect absolute reduction

/-- The parent of an absolute text with the last name glued to it is read like the text. -/
theorem reads_concatenate_dirname_basename {style : Style} {raw : Text} {root : Root}
    {segments : List Text} (reads : Root.Reads style raw root segments) :
    Root.Reads style
      (concatenate [style.separator] [dirname style raw, basename style raw []]) root segments := by
  obtain ⟨parent, unpaired⟩ := reads_dirname reads
  have whole := dropLast_append_components_basename style raw
  rw [Path.parse_of_reads reads] at whole
  -- A host has no segments, so its parent is not given a share.
  have kept : root.extend (components (basename style raw [])) = (root, _) :=
    Root.Admits.extend_eq (by rw [whole]; exact reads.admits.1)
  have glued := parent.concatenate_cons (fun _ => unpaired) [basename style raw []]
  rwa [List.flatMap_singleton, kept, whole] at glued

/-- The parent of a relative text with the last name glued to it has the effect of the text. -/
theorem ofSegments_components_dirname_basename {style : Style} {raw : Text}
    (relative : isAbsolute style raw = false) :
    Reduction.ofSegments false
        (components (concatenate [style.separator] [dirname style raw, basename style raw []]))
      = Reduction.ofSegments false (components raw) := by
  obtain ⟨-, -, effect⟩ := dirname_of_relative relative
  have whole := dropLast_append_components_basename style raw
  rw [parse_of_not_isAbsolute relative] at whole
  rw [components_concatenate (Root.isSeparator_separator style), List.flatMap_cons,
    List.flatMap_singleton, Reduction.ofSegments_append, Reduction.ofSegments, effect,
    ← List.foldl_append, whole]
  rfl

/-- Joining the parent of a path and its last name normalizes the path. -/
theorem value_join_dirname_basename (style : Style) (raw : Text) :
    (join style [dirname style raw, basename style raw []]).value
      = (normalize style raw).value := by
  by_cases absolute : isAbsolute style raw = true
  · obtain ⟨root, segments, reads⟩ := exists_reads_of_isAbsolute absolute
    rw [value_join_of_reads (reads_concatenate_dirname_basename reads),
      value_normalize_of_reads reads]
  · have relative := Bool.eq_false_iff.mpr absolute
    obtain ⟨started, parent, -⟩ := dirname_of_relative relative
    refine value_normalize_congr_of_relative ?_ relative
      (ofSegments_components_dirname_basename relative)
    rwa [isAbsolute_concatenate_cons started]

/-! ### A name that was added -/

/-- Under the POSIX style a name that is glued to a text is one segment more. -/
theorem parse_concatenate_name {name : Text} (isName : IsName name) (raw : Text) :
    ∃ trailing, Path.parse .posix (concatenate [Style.posix.separator] [raw, name])
      = ⟨(Path.parse .posix raw).root, (Path.parse .posix raw).segments ++ [name], trailing⟩ := by
  have root : (Path.parse .posix (concatenate [Style.posix.separator] [raw, name])).root
      = (Path.parse .posix raw).root := by
    rw [root_parse_posix, root_parse_posix]
    by_cases started : raw = []
    · have rootless : isAbsolute .posix name = false := by
        rw [Bool.eq_false_iff, Ne, isAbsolute_iff]
        simpa using isName.head?_append []
      rw [started, concatenate_cons_nil, concatenate_singleton, rootless, isAbsolute_nil]
    · rw [isAbsolute_concatenate_cons started]
  have segments : (Path.parse .posix (concatenate [Style.posix.separator] [raw, name])).segments
      = (Path.parse .posix raw).segments ++ [name] := by
    rw [(parse_posix _).2, (parse_posix raw).2, components_concatenate rfl, List.flatMap_cons,
      List.flatMap_singleton, components_of_noSeparator isName.noSeparator isName.ne_nil]
  exact ⟨_, by rw [← root, ← segments]⟩

/-- An ordinary name that is joined to a path is the last segment of what is read back. -/
theorem parse_join_name {name : Text} (isName : IsName name) (ordinary : IsOrdinary name)
    (raw : Text) :
    Path.parse .posix (join .posix [raw, name]).value
      = (Path.parse .posix raw).withSegments
          ((Path.parse .posix raw).reduction.segments ++ [name]) := by
  obtain ⟨trailing, glued⟩ := parse_concatenate_name isName raw
  have legible := (Path.legible_parse .posix
    (concatenate [Style.posix.separator] [raw, name])).normalize
  have read := Path.parse_render legible
  rw [glued, Path.normalize_concat ordinary] at read
  show Path.parse .posix
    ((Path.parse .posix (concatenate [Style.posix.separator] [raw, name])).normalize.render .posix)
      = _
  rw [glued, Path.normalize_concat ordinary, read]
  rfl

/-- The parent of a path with one more name is the normal form of the path, when what is left of the
path comes before the name. -/
theorem dirname_of_parse_eq {raw name : Text} {path : Path}
    (read : Path.parse .posix raw = path.withSegments (path.reduction.segments ++ [name])) :
    dirname .posix raw = path.normalize.render .posix := by
  rw [dirname, read]
  obtain ⟨root, segments, trailing⟩ := path
  by_cases nothing : (Path.reduction ⟨root, segments, trailing⟩).segments = []
  · -- The name is alone, and what is before it is written as the root or as `.`.
    cases root with
    | none =>
      have normal : Path.normalize ⟨none, segments, trailing⟩ = Path.ofSegments [currentSegment] := by
        simp [Path.normalize, nothing, Path.isAbsolute, Path.withSegments, Path.ofSegments]
      simp only [normal, nothing]
      rfl
    | some root =>
      have normal : Path.normalize ⟨some root, segments, trailing⟩ = ⟨some root, [], false⟩ := by
        simp [Path.normalize, nothing, Path.isAbsolute, Path.withSegments]
      simp [normal, nothing, Path.render, joinNames]
  · have normal : Path.normalize ⟨root, segments, trailing⟩
        = ⟨root, (Path.reduction ⟨root, segments, trailing⟩).segments, false⟩ := by
      simp [Path.normalize, nothing, Path.withSegments]
    simp [normal, nothing, Path.withSegments]

/-- Under the POSIX style, adding an ordinary name to a path and splitting it off again gives the
normal form of the path and the name. -/
theorem dirname_and_basename_join {name : Text} (isName : IsName name)
    (ordinary : IsOrdinary name) (raw : Text) :
    dirname .posix (join .posix [raw, name]).value = (normalize .posix raw).value ∧
      basename .posix (join .posix [raw, name]).value [] = name := by
  have read := parse_join_name isName ordinary raw
  constructor
  · exact dirname_of_parse_eq read
  · rw [basename, Text.withoutEnding_nil, read]
    simp [Path.lastSegment]

/-- Nothing is left of the first path, and the second one is the root. -/
theorem dirname_and_basename_join_archive :
    let name := "c:.tar.gz".toList
    (IsName name ∧ IsOrdinary name) ∧
      (dirname .posix (join .posix ["a//./..\\".toList, name]).value = ".".toList ∧
        basename .posix (join .posix ["a//./..\\".toList, name]).value [] = name) ∧
      dirname .posix (join .posix ["\\..".toList, name]).value = "/".toList ∧
        basename .posix (join .posix ["\\..".toList, name]).value [] = name := by
  intro name
  have isName : IsName name := ⟨by decide, by simp [name, isSeparator]⟩
  have ordinary : IsOrdinary name := by decide
  have relative := dirname_and_basename_join isName ordinary "a//./..\\".toList
  have rooted := dirname_and_basename_join isName ordinary "\\..".toList
  exact ⟨⟨isName, ordinary⟩, ⟨relative.1.trans (by decide), relative.2⟩,
    rooted.1.trans (by decide), rooted.2⟩

end Pathwise
