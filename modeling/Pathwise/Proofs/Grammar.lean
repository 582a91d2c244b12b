import Pathwise.Proofs.Continuations

/-!
# The grammar of paths

A path is well-formed for a style if its segments are names, its root has one of the forms that the
style knows, and it has a separator after its last segment only where there is one. Reading gives
just the well-formed paths, and writing a well-formed path with the separator that ends it inverts
reading.
-/

namespace Pathwise

/-- A relative text starts with a drive just if its first component does. -/
theorem head?_components_any_startsWithDrive {raw : Text}
    (plain : raw.head?.any isSeparator = false) :
    (components raw).head?.any startsWithDrive = startsWithDrive raw := by
  cases raw with
  | nil => rfl
  | cons c rest =>
    obtain ⟨name, after, same, isName, joint⟩ := exists_eq_name_append plain rest
    rw [same, components_append joint, startsWithDrive_append isName.ne_nil joint,
      components_of_noSeparator isName.noSeparator isName.ne_nil]
    rfl

namespace Path

/-- The forms in which a style writes the root of a path, with the segments that may follow. -/
inductive RootForm : Style → Option Text → List Text → Prop
  | relative {style : Style} {segments : List Text}
      (plain : style = .windows → segments.head?.any startsWithDrive = false) :
      RootForm style none segments
  | bare {style : Style} {segments : List Text} :
      RootForm style (some [style.separator]) segments
  | drive {letter : Char} {segments : List Text} (alpha : letter.isAlpha = true) :
      RootForm .windows (some [letter, ':', '\\']) segments
  | host {machine : Text} (isMachine : IsName machine) :
      RootForm .windows (some ('\\' :: '\\' :: machine ++ ['\\'])) []
  | share {machine folder : Text} {segments : List Text} (isMachine : IsName machine)
      (isFolder : IsName folder) :
      RootForm .windows (some ('\\' :: '\\' :: machine ++ '\\' :: folder ++ ['\\'])) segments

structure WellFormed (style : Style) (path : Path) : Prop where
  isName : ∀ name ∈ path.segments, IsName name
  rootForm : RootForm style path.root path.segments
  named : path.trailing = true → path.segments ≠ []

/-- The path as a text, with the separator after its last segment that it was written with. -/
def written (style : Style) (path : Path) : Text :=
  path.render style ++ if path.trailing then [style.separator] else []

/-! ### What is read -/

theorem trailing_parse (style : Style) (raw : Text) :
    (parse style raw).trailing = endsInSeparator (parse style raw).segments raw := by
  unfold parse
  split <;> rfl

theorem rootForm_of_admits {style : Style} {root : Root} {segments : List Text}
    (admits : root.Admits style segments) : RootForm style (some (root.text style)) segments := by
  cases root with
  | bare => exact .bare
  | drive letter =>
    obtain ⟨rfl, alpha⟩ := admits
    exact .drive alpha
  | host machine =>
    obtain ⟨rfl, isMachine, rfl⟩ := admits
    exact .host isMachine
  | share machine folder =>
    obtain ⟨rfl, isMachine, isFolder⟩ := admits
    exact .share isMachine isFolder

theorem rootForm_parse (style : Style) (raw : Text) :
    RootForm style (parse style raw).root (parse style raw).segments := by
  rcases Root.exists_reads_or_eq_none style raw with ⟨root, segments, reads⟩ | rootless
  · rw [parse_of_reads reads]
    exact rootForm_of_admits reads.admits.1
  · rw [parse_of_rootless rootless]
    have plain := Root.head?_of_ofText?_eq_none rootless
    refine .relative ?_
    rintro rfl
    rw [head?_components_any_startsWithDrive plain,
      Root.startsWithDrive_of_ofText?_eq_none rootless]

theorem wellFormed_parse (style : Style) (raw : Text) : (parse style raw).WellFormed style := by
  refine ⟨(legible_parse style raw).isName, rootForm_parse style raw, ?_⟩
  intro trailing none
  rw [trailing_parse, none] at trailing
  simp [endsInSeparator] at trailing

/-! ### What is written -/

theorem RootForm.exists_admits {style : Style} {text : Text} {segments : List Text}
    (rootForm : RootForm style (some text) segments) :
    ∃ root : Root, text = root.text style ∧ root.Admits style segments := by
  cases rootForm with
  | bare => exact ⟨.bare, rfl, trivial⟩
  | drive alpha => exact ⟨.drive _, rfl, rfl, alpha⟩
  | host isMachine => exact ⟨.host _, rfl, rfl, isMachine, rfl⟩
  | share isMachine isFolder => exact ⟨.share _ _, rfl, rfl, isMachine, isFolder⟩

theorem WellFormed.legible {style : Style} {path : Path} (wellFormed : path.WellFormed style) :
    path.Legible style := by
  refine ⟨wellFormed.isName, ?_⟩
  intro text root
  have rootForm := wellFormed.rootForm
  rw [root] at rootForm
  exact rootForm.exists_admits

/-- No guard is written where nothing looks like a drive. -/
theorem WellFormed.guarded_eq {style : Style} {path : Path} (wellFormed : path.WellFormed style) :
    path.guarded style = path.segments := by
  obtain ⟨root, segments, trailing⟩ := path
  have unguarded : needsGuard style ⟨root, segments, trailing⟩ = false := by
    cases wellFormed.rootForm with
    | relative plain =>
      cases style with
      | posix => rfl
      | windows => simpa [needsGuard, isAbsolute] using plain rfl
    | bare | drive | host | share => simp [needsGuard, isAbsolute]
  simp [guarded, unguarded]

/-- A well-formed path is read back, apart from the flag, which is not written. -/
theorem WellFormed.parse_render {style : Style} {path : Path} (wellFormed : path.WellFormed style) :
    parse style (path.render style) = path.withSegments path.segments := by
  rw [Path.parse_render wellFormed.legible, wellFormed.guarded_eq]
  rfl

/-- A separator that is written after the last segment is only seen in the flag. -/
theorem parse_append_separator {style : Style} {raw : Text}
    (named : (parse style raw).segments ≠ []) (plain : endsWithSeparator raw = false) :
    parse style (raw ++ [style.separator])
      = ⟨(parse style raw).root, (parse style raw).segments, true⟩ := by
  have sound := Root.isSeparator_separator style
  have started : raw ≠ [] := by
    rintro rfl
    simp at named
  have ends : endsWithSeparator (raw ++ [style.separator]) = true :=
    endsWithSeparator_iff.mpr ⟨raw, style.separator, sound, rfl⟩
  have continues : Continues raw [] [style.separator] :=
    ⟨components_cons_separator sound [], .inr (.inr (.inr sound)), by simp [plain]⟩
  by_cases absolute : Pathwise.isAbsolute style raw = true
  · obtain ⟨root, segments, reads⟩ := exists_reads_of_isAbsolute absolute
    have unpaired : Root.isSeparatorPair raw = false := by
      by_contra pair
      simp [Root.endsWithSeparator_of_isSeparatorPair (Bool.of_not_eq_false pair)] at plain
    have longer := reads.extend continues fun _ => unpaired
    rw [root.extend_nil, List.append_nil] at longer
    rw [parse_of_reads reads] at named ⊢
    rw [parse_of_reads longer]
    simpa [endsInSeparator, ends] using named
  · have relative := Bool.eq_false_iff.mpr absolute
    have longer := (isAbsolute_append started continues.separated).trans relative
    rw [parse_of_not_isAbsolute relative] at named ⊢
    rw [parse_of_not_isAbsolute longer, continues.components_append, List.append_nil]
    simpa [endsInSeparator, ends] using named

/-- A well-formed path is read back from the text that it is written as. -/
theorem parse_written {style : Style} {path : Path} (wellFormed : path.WellFormed style) :
    parse style (path.written style) = path := by
  have read : parse style (path.render style) = ⟨path.root, path.segments, false⟩ :=
    wellFormed.parse_render
  have named := wellFormed.named
  obtain ⟨root, segments, trailing⟩ := path
  cases trailing with
  | false => simpa [written] using read
  | true =>
    have plain := trailing_parse style (render style ⟨root, segments, true⟩)
    rw [read] at plain
    have ends : endsWithSeparator (render style ⟨root, segments, true⟩) = false := by
      simpa [endsInSeparator, named rfl] using plain.symm
    have closed := parse_append_separator (by rw [read]; exact named rfl) ends
    rw [read] at closed
    exact closed

/-- Reading gives well-formed paths only, and the well-formed paths are just those that are read
back from the text that they are written as. -/
theorem wellFormed_parse_and_parse_written_iff (style : Style) :
    (∀ raw, (parse style raw).WellFormed style) ∧
      ∀ path : Path, path.WellFormed style ↔ parse style (path.written style) = path := by
  refine ⟨wellFormed_parse style, ?_⟩
  intro path
  constructor
  · exact parse_written
  · intro read
    rw [← read]
    exact wellFormed_parse style (path.written style)

/-- A segment after the share may look like a drive. -/
example :
    parse .windows (written .windows ⟨some "\\\\srv\\x\\".toList, ["c:y".toList], true⟩)
      = ⟨some "\\\\srv\\x\\".toList, ["c:y".toList], true⟩ := by
  decide

end Path

end Pathwise
