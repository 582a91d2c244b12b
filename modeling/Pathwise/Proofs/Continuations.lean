import Pathwise.Proofs.Locations

/-!
# Reading continued texts

Gluing parts to a text adds names at its end. Whether the text is absolute is seen from its first
two characters, so it stays absolute or relative. A relative text only gets more segments, and so
does an absolute one, except that the first name after a host is its share. Two separators alone
are no finished root and are left out.
-/

namespace Pathwise

/-! ### Whether a continued text is absolute -/

theorem isAbsolute_iff {style : Style} {raw : Text} :
    isAbsolute style raw = true ↔
      raw.head?.any isSeparator = true ∨ style = .windows ∧ startsWithDrive raw = true := by
  constructor
  · intro absolute
    obtain ⟨root, segments, reads⟩ := exists_reads_of_isAbsolute absolute
    cases reads with
    | bare rooted => exact .inl rooted
    | drive alpha => exact .inr ⟨rfl, alpha⟩
    | host one => exact .inl one
    | share one => exact .inl one
  · rintro (rooted | ⟨rfl, drive⟩)
    · cases raw with
      | nil => simp at rooted
      | cons first rest =>
        obtain ⟨root, segments, reads⟩ := Root.exists_reads_of_isSeparator style rooted rest
        exact isAbsolute_of_reads reads
    · obtain ⟨root, segments, reads⟩ := Root.exists_reads_of_startsWithDrive drive
      exact isAbsolute_of_reads reads

/-- A separator is no colon, so a letter at the joint does not become a drive. -/
theorem startsWithDrive_append {before after : Text} (started : before ≠ [])
    (separated : Separated before after) :
    startsWithDrive (before ++ after) = startsWithDrive before := by
  obtain ⟨letter, rest, rfl⟩ := List.exists_cons_of_ne_nil started
  rw [List.cons_append, startsWithDrive_cons, startsWithDrive_cons]
  cases rest with
  | cons c rest => rfl
  | nil =>
    rw [List.nil_append]
    rcases separated with empty | rfl | ends | starts
    · simp at empty
    · rfl
    · have noLetter : letter.isAlpha = false := Root.isAlpha_of_isSeparator ends
      rw [noLetter, Bool.false_and, Bool.false_and]
    · rw [head?_any_colon starts]
      rfl

theorem isAbsolute_append {style : Style} {before after : Text} (started : before ≠ [])
    (separated : Separated before after) :
    isAbsolute style (before ++ after) = isAbsolute style before := by
  obtain ⟨c, rest, rfl⟩ := List.exists_cons_of_ne_nil started
  rw [Bool.eq_iff_iff, isAbsolute_iff, isAbsolute_iff, startsWithDrive_append started separated]
  rfl

/-- A concatenation is absolute just if the part that it starts with is. -/
theorem isAbsolute_concatenate (style : Style) (parts : List Text) :
    isAbsolute style (concatenate [style.separator] parts)
      = (firstFilled? parts).any (isAbsolute style) := by
  rcases concatenate_cases_firstFilled? (Root.isSeparator_separator style) parts with
    ⟨none, empty⟩ | ⟨first, names, tail, found, started, same, continues⟩
  · rw [none, empty, isAbsolute_nil, Option.any_none]
  · rw [found, same, isAbsolute_append started continues.separated, Option.any_some]

theorem ne_nil_of_isAbsolute {style : Style} {raw : Text}
    (absolute : isAbsolute style raw = true) : raw ≠ [] := by
  rintro rfl
  simp at absolute

theorem isAbsolute_concatenate_cons {part : Text} (started : part ≠ []) (style : Style)
    (later : List Text) :
    isAbsolute style (concatenate [style.separator] (part :: later)) = isAbsolute style part := by
  simp [isAbsolute_concatenate, firstFilled?, started]

/-- Relative parts never make up an absolute text. -/
theorem isAbsolute_concatenate_of_relative {style : Style} {parts : List Text}
    (relative : ∀ part ∈ parts, isAbsolute style part = false) :
    isAbsolute style (concatenate [style.separator] parts) = false := by
  rw [isAbsolute_concatenate]
  cases found : firstFilled? parts with
  | none => rfl
  | some first => exact relative first (List.mem_of_find?_eq_some found)

/-- All that the later parts have to do with it is whether they make up an absolute text on their
own. -/
theorem isAbsolute_concatenate_append_congr {style : Style} {later other : List Text}
    (alike : isAbsolute style (concatenate [style.separator] later)
      = isAbsolute style (concatenate [style.separator] other)) (parts : List Text) :
    isAbsolute style (concatenate [style.separator] (parts ++ later))
      = isAbsolute style (concatenate [style.separator] (parts ++ other)) := by
  simp only [isAbsolute_concatenate, firstFilled?_append] at alike ⊢
  cases firstFilled? parts with
  | none => exact alike
  | some first => rfl

/-! ### Relative texts -/

theorem parse_of_not_isAbsolute {style : Style} {raw : Text}
    (relative : isAbsolute style raw = false) :
    Path.parse style raw = ⟨none, components raw, Path.endsInSeparator (components raw) raw⟩ := by
  apply Path.parse_of_rootless
  simpa [isAbsolute, Path.isAbsolute_parse] using relative

theorem value_normalize_of_relative {style : Style} {raw : Text}
    (relative : isAbsolute style raw = false) :
    (normalize style raw).value = (Path.ofSegments (components raw)).normalize.render style := by
  show (Path.parse style raw).normalize.render style = _
  rw [parse_of_not_isAbsolute relative]
  rfl

/-- The normal form of a relative text is determined by the effect of its components. -/
theorem value_normalize_congr_of_relative {style : Style} {raw other : Text}
    (relative : isAbsolute style raw = false) (relative' : isAbsolute style other = false)
    (same : Reduction.ofSegments false (components raw)
      = Reduction.ofSegments false (components other)) :
    (normalize style raw).value = (normalize style other).value := by
  rw [value_normalize_of_relative relative, value_normalize_of_relative relative']
  exact congrArg (Path.render style) (Path.normalize_congr rfl (congrArg Reduction.stack same))

/-! ### Absolute texts -/

namespace Root

/-- The root of a text that is continued with more names, and those of them that do not belong to
the root. -/
def extend : Root → List Text → Root × List Text
  | host machine, folder :: names => (share machine folder, names)
  | root, names => (root, names)

@[simp] theorem extend_nil (root : Root) : root.extend [] = (root, []) := by
  cases root <;> rfl

/-- Segments that may follow a root do not change it. -/
theorem Admits.extend_eq {style : Style} {root : Root} {segments names : List Text}
    (admits : root.Admits style (segments ++ names)) : root.extend names = (root, names) := by
  cases root with
  | host machine =>
    obtain ⟨-, -, alone⟩ := admits
    obtain ⟨-, rfl⟩ := List.append_eq_nil_iff.mp alone
    rfl
  | bare | drive | share => rfl

/-- Where a text is neither two separators nor a host alone, it does not stop inside its root. -/
theorem Reads.stopsInside_eq_false {style : Style} {raw : Text} {root : Root}
    {segments : List Text} (reads : Reads style raw root segments)
    (complete : style = .windows → isSeparatorPair raw = false) (shared : root.isHost = false) :
    style = .windows → stopsInside raw = false := by
  rintro rfl
  rw [Bool.eq_false_iff, Ne, stopsInside_iff reads, complete rfl, shared]
  simp

/-- A continued text is read like the text itself, with the names that are added. -/
theorem Reads.extend {style : Style} {raw tail : Text} {root : Root} {segments names : List Text}
    (reads : Reads style raw root segments) (continues : Continues raw names tail)
    (complete : style = .windows → isSeparatorPair raw = false) :
    Reads style (raw ++ tail) (root.extend names).1 (segments ++ (root.extend names).2) := by
  cases root with
  | bare | drive | share =>
    exact reads.append continues (reads.stopsInside_eq_false complete rfl)
  | host machine =>
    cases reads with
    | @host first second third rest machine one two ordinary alone =>
      have read := Continues.components_append_of_append [first, second] continues
      rw [alone] at read
      cases names with
      | nil => exact .host one two ordinary read
      | cons folder names => exact .share one two ordinary read

/-- A part is read like the part itself, with the names of the parts that are glued to it. -/
theorem Reads.concatenate_cons {style : Style} {part : Text} {root : Root} {segments : List Text}
    (reads : Reads style part root segments)
    (complete : style = .windows → isSeparatorPair part = false) (later : List Text) :
    Reads style (concatenate [style.separator] (part :: later))
      (root.extend (later.flatMap components)).1
      (segments ++ (root.extend (later.flatMap components)).2) := by
  obtain ⟨tail, same, continues⟩ :=
    exists_concatenate_cons_eq (isSeparator_separator style) reads.ne_nil later
  rw [same]
  exact reads.extend continues complete

/-- Nothing that is glued to a part makes it two separators. -/
theorem isSeparatorPair_append {before after : Text} {names : List Text} (started : before ≠ [])
    (continues : Continues before names after)
    (unpaired : isSeparatorPair before = false) :
    isSeparatorPair (before ++ after) = false := by
  match before with
  | [c] =>
    match after with
    | [] => rfl
    | [second] =>
      by_cases separator : isSeparator c = true
      · have ordinary : isSeparator second = false := continues.single separator
        simp [isSeparatorPair, ordinary]
      · simp [isSeparatorPair, separator]
    | second :: third :: rest => rfl
  | [c, second] =>
    cases after with
    | nil => exact unpaired
    | cons third rest => rfl
  | c :: second :: third :: rest => rfl

/-- A written root is more than two separators, and so is a root with names after it. -/
theorem isSeparatorPair_text_append (style : Style) (root : Root) {names : List Text}
    (isName : ∀ name ∈ names, IsName name) :
    isSeparatorPair (root.text style ++ joinNames [style.separator] names) = false := by
  have start := head?_joinNames [style.separator] isName
  generalize joinNames [style.separator] names = body at start ⊢
  cases root with
  | bare =>
    match body with
    | [] => rfl
    | [c] =>
      have ordinary : isSeparator c = false := start
      simp [text, isSeparatorPair, ordinary]
    | c :: second :: rest => rfl
  | drive letter => rfl
  | host machine => cases machine <;> rfl
  | share machine folder => cases machine <;> cases folder <;> rfl

end Root

end Pathwise
