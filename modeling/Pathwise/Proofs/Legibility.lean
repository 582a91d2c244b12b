import Pathwise.Lexical
import Pathwise.Proofs.Reduction
import Pathwise.Proofs.Roots

/-!
# Reading back what was written

A path is legible if its segments are names and its root is one of the style. Whatever is parsed is
legible and stays so in normal form, and a legible path that is written is read back, apart from
the guard in front of a segment that looks like a drive. The guard means nothing, so normalizing
what was read gives the normal form of what was written.
-/

namespace Pathwise

namespace Path

/-- A path that can be written so that its parts are found again. -/
structure Legible (style : Style) (path : Path) : Prop where
  isName : ∀ name ∈ path.segments, IsName name
  admitted : ∀ written, path.root = some written →
    ∃ root : Root, written = root.text style ∧ root.Admits style path.segments

/-! ### Parsed paths -/

theorem parse_of_reads {style : Style} {raw : Text} {root : Root} {segments : List Text}
    (reads : Root.Reads style raw root segments) :
    parse style raw = ⟨some (root.text style), segments, endsInSeparator segments raw⟩ := by
  simp [parse, reads.ofText?_eq_some]

theorem parse_of_rootless {style : Style} {raw : Text}
    (rootless : Root.ofText? style raw = none) :
    parse style raw = ⟨none, components raw, endsInSeparator (components raw) raw⟩ := by
  simp [parse, rootless]

theorem legible_parse (style : Style) (raw : Text) : (parse style raw).Legible style := by
  rcases Root.exists_reads_or_eq_none style raw with ⟨root, segments, reads⟩ | rootless
  · rw [parse_of_reads reads]
    refine ⟨reads.admits.2, ?_⟩
    rintro _ ⟨⟩
    exact ⟨root, rfl, reads.admits.1⟩
  · rw [parse_of_rootless rootless]
    exact ⟨fun _ => isName_of_mem_components, by simp⟩

/-- A relative path that is made of names. -/
theorem legible_ofSegments (style : Style) {names : List Text}
    (isName : ∀ name ∈ names, IsName name) : (ofSegments names).Legible style :=
  ⟨isName, by simp [ofSegments]⟩

theorem isName_currentSegment : IsName currentSegment :=
  ⟨by simp [currentSegment], by simp [currentSegment, isSeparator]⟩

theorem isName_parentSegment : IsName parentSegment :=
  ⟨by simp [parentSegment], by simp [parentSegment, isSeparator]⟩

/-- Carrying out the segments of a legible path leaves it legible. After a host there are no
segments to carry out. -/
theorem Legible.normalize {style : Style} {path : Path} (legible : path.Legible style) :
    path.normalize.Legible style := by
  constructor
  · intro name member
    rcases mem_or_eq_of_mem_normalize member with own | rfl
    · exact legible.isName name own
    · exact isName_currentSegment
  · intro written same
    rw [root_normalize] at same
    obtain ⟨root, text, admits⟩ := legible.admitted written same
    obtain ⟨_, segments, trailing⟩ := path
    obtain rfl := same
    refine ⟨root, text, admits.replace ?_⟩
    rintro rfl
    rfl

/-! ### Written paths -/

/-- The segments that are written, the guard included. -/
def guarded (style : Style) (path : Path) : List Text :=
  if path.needsGuard style then currentSegment :: path.segments else path.segments

theorem guarded_ne_nil (style : Style) {path : Path} (named : path.segments ≠ []) :
    path.guarded style ≠ [] := by
  unfold guarded
  split
  · exact List.cons_ne_nil _ _
  · exact named

theorem endsInSeparator_append_joinNames (before separator : Text) {names : List Text}
    (isName : ∀ name ∈ names, IsName name) :
    endsInSeparator names (before ++ joinNames separator names) = false := by
  cases names with
  | nil => rfl
  | cons name names =>
    have filled : joinNames separator (name :: names) ≠ [] := by
      obtain ⟨rest, same⟩ := exists_joinNames_cons_eq separator name names
      simp [same, (isName name List.mem_cons_self).ne_nil]
    rw [endsInSeparator, endsWithSeparator_append filled, endsWithSeparator_joinNames _ isName,
      Bool.and_false]

/-- Names that are written without a root are read without one, unless they look like a drive. -/
theorem parse_joinNames {style : Style} {names : List Text} (isName : ∀ name ∈ names, IsName name)
    (plain : style = .windows → names.head?.any startsWithDrive = false) :
    parse style (joinNames [style.separator] names) = ofSegments names := by
  have sound := Root.isSeparator_separator style
  have rootless := Root.ofText?_eq_none (head?_joinNames [style.separator] isName)
    fun windows => (startsWithDrive_joinNames sound isName).trans (plain windows)
  have ends := endsInSeparator_append_joinNames [] [style.separator] isName
  rw [List.nil_append] at ends
  rw [parse_of_rootless rootless, components_joinNames_of_isName sound isName, ends, ofSegments]

/-- The guard is a segment like any other. -/
theorem render_ofSegments (style : Style) (names : List Text) :
    (ofSegments names).render style
      = joinNames [style.separator] ((ofSegments names).guarded style) := by
  have written : (ofSegments names).render style
      = if (ofSegments names).needsGuard style then
          currentSegment ++ style.separator :: joinNames [style.separator] names
        else joinNames [style.separator] names := rfl
  rw [written, guarded]
  by_cases guard : (ofSegments names).needsGuard style = true
  · rw [if_pos guard, if_pos guard]
    cases names with
    | nil => simp [needsGuard, ofSegments] at guard
    | cons name names =>
      show _ = joinNames [style.separator] (currentSegment :: name :: names)
      rw [joinNames_cons_cons, List.append_assoc, List.singleton_append]
  · rw [if_neg guard, if_neg guard]
    rfl

theorem isName_guarded {style : Style} {path : Path}
    (isName : ∀ name ∈ path.segments, IsName name) :
    ∀ name ∈ path.guarded style, IsName name := by
  unfold guarded
  split
  · exact List.forall_mem_cons.mpr ⟨isName_currentSegment, isName⟩
  · exact isName

/-- With its guard no relative path looks like a drive. -/
theorem head?_guarded_ofSegments (names : List Text) :
    ((ofSegments names).guarded .windows).head?.any startsWithDrive = false := by
  by_cases guard : (ofSegments names).needsGuard .windows = true
  · rw [guarded, if_pos guard]
    rfl
  · rw [guarded, if_neg guard]
    simpa [needsGuard, ofSegments, isAbsolute] using guard

/-- A legible path is read back with its guard. -/
theorem parse_render {style : Style} {path : Path} (legible : path.Legible style) :
    parse style (path.render style) = ⟨path.root, path.guarded style, false⟩ := by
  obtain ⟨root, segments, trailing⟩ := path
  cases root with
  | some written =>
    obtain ⟨root, rfl, admits⟩ := legible.admitted written rfl
    rw [render, parse_of_reads (admits.reads legible.isName),
      endsInSeparator_append_joinNames _ _ legible.isName]
    simp [guarded, needsGuard, isAbsolute]
  | none =>
    have same : render style ⟨none, segments, trailing⟩ = (ofSegments segments).render style := rfl
    have isName : ∀ name ∈ (ofSegments segments).guarded style, IsName name :=
      isName_guarded legible.isName
    rw [same, render_ofSegments]
    apply parse_joinNames isName
    rintro rfl
    exact head?_guarded_ofSegments segments

theorem components_render_ofSegments (style : Style) {names : List Text}
    (isName : ∀ name ∈ names, IsName name) :
    components ((ofSegments names).render style) = (ofSegments names).guarded style := by
  rw [render_ofSegments]
  exact components_joinNames_of_isName (Root.isSeparator_separator style) (isName_guarded isName)

theorem render_ofSegments_ne_nil (style : Style) {names : List Text}
    (isName : ∀ name ∈ names, IsName name) (named : names ≠ []) :
    (ofSegments names).render style ≠ [] := by
  intro empty
  have read := components_render_ofSegments style isName
  rw [empty, components_nil] at read
  exact guarded_ne_nil style named read.symm

theorem isAbsolute_render_ofSegments (style : Style) {names : List Text}
    (isName : ∀ name ∈ names, IsName name) :
    Pathwise.isAbsolute style ((ofSegments names).render style) = false := by
  rw [Pathwise.isAbsolute, parse_render (legible_ofSegments style isName)]
  rfl

/-- A guard is carried out without effect. -/
theorem foldl_step_guarded (style : Style) (path : Path) (absolute : Bool)
    (reduction : Reduction) :
    (path.guarded style).foldl (Reduction.step absolute) reduction
      = path.segments.foldl (Reduction.step absolute) reduction := by
  unfold guarded
  split
  · rw [List.foldl_cons, Reduction.step_current]
  · rfl

/-- The normal form of a relative path has the effect of the path, whatever it is carried out on:
the `.` that stands for a path that leads nowhere has none. -/
theorem foldl_step_segments_normalize (names : List Text) (absolute : Bool)
    (reduction : Reduction) :
    (ofSegments names).normalize.segments.foldl (Reduction.step absolute) reduction
      = names.foldl (Reduction.step absolute) reduction := by
  rw [← Reduction.foldl_step_segments_ofSegments names]
  rcases normalize_cases (ofSegments names) with same | ⟨-, empty, same⟩
  · rw [same]
    rfl
  · have left : (Reduction.ofSegments false names).segments = [] := congrArg List.reverse empty
    rw [same, left]
    exact Reduction.step_current absolute reduction

/-- So has the text that the normal form is written as. -/
theorem foldl_step_components_render_normalize {names : List Text}
    (isName : ∀ name ∈ names, IsName name) (style : Style) (absolute : Bool)
    (reduction : Reduction) :
    (components ((ofSegments names).normalize.render style)).foldl
        (Reduction.step absolute) reduction
      = names.foldl (Reduction.step absolute) reduction := by
  have normal := (legible_ofSegments style isName).normalize
  have rootless : (ofSegments names).normalize = ofSegments (ofSegments names).normalize.segments :=
    rfl
  rw [rootless, components_render_ofSegments style normal.isName, foldl_step_guarded]
  exact foldl_step_segments_normalize names absolute reduction

/-- Normalizing what was read gives the normal form of what was written. -/
theorem normalize_parse_render {style : Style} {path : Path} (legible : path.Legible style) :
    (parse style (path.render style)).normalize = path.normalize := by
  rw [parse_render legible]
  refine normalize_congr rfl ?_
  exact congrArg Reduction.stack (foldl_step_guarded style path path.isAbsolute .start)

end Path

end Pathwise
