import Pathwise.Proofs.Legibility

/-!
# Spellings of a text

A text can be spelled with either slash, and with a run of separators wherever there is one, except
at the start, where two separators are not the same as one or three. `spelling` picks one of these
texts: it has slashes only, and no run of them but the one at the start.

Reading does not see the difference, and concatenating respects it: the spelling of a concatenation
is the concatenation of the spellings.
-/

namespace Pathwise

/-- Either separator written as a slash. -/
def slashed (c : Char) : Char :=
  if c = '\\' then '/' else c

/-- The text with slashes only, where of a run of separators the last one is left. -/
def shrinkRuns : Text → Text
  | [] => []
  | c :: rest =>
    if isSeparator c && rest.head?.any isSeparator then shrinkRuns rest
    else slashed c :: shrinkRuns rest

/-- The text with slashes only and without runs of them, but for the run that it starts with, which
keeps its length. -/
def spelling : Text → Text
  | [] => []
  | c :: rest => if isSeparator c then '/' :: spelling rest else shrinkRuns (c :: rest)

theorem slashed_of_isSeparator {c : Char} (separator : isSeparator c = true) : slashed c = '/' := by
  rcases isSeparator_iff.mp separator with rfl | rfl <;> rfl

theorem slashed_of_ordinary {c : Char} (ordinary : isSeparator c = false) : slashed c = c := by
  apply if_neg
  rintro rfl
  exact absurd ordinary (by decide)

@[simp] theorem isSeparator_slashed (c : Char) : isSeparator (slashed c) = isSeparator c := by
  by_cases separator : isSeparator c = true
  · rw [slashed_of_isSeparator separator, separator]
    rfl
  · rw [slashed_of_ordinary (Bool.eq_false_iff.mpr separator)]

@[simp] theorem slashed_slashed (c : Char) : slashed (slashed c) = slashed c := by
  unfold slashed
  split <;> simp_all

/-! ### One separator for a run -/

theorem shrinkRuns_cons_of_run {c : Char} {rest : Text}
    (run : (isSeparator c && rest.head?.any isSeparator) = true) :
    shrinkRuns (c :: rest) = shrinkRuns rest := by
  rw [shrinkRuns, if_pos run]

/-- A character that begins no run is kept. -/
theorem shrinkRuns_cons_of_apart {c : Char} {rest : Text}
    (apart : (isSeparator c && rest.head?.any isSeparator) = false) :
    shrinkRuns (c :: rest) = slashed c :: shrinkRuns rest := by
  rw [shrinkRuns, apart]
  rfl

theorem shrinkRuns_cons_of_ordinary {c : Char} (ordinary : isSeparator c = false) (rest : Text) :
    shrinkRuns (c :: rest) = c :: shrinkRuns rest := by
  rw [shrinkRuns_cons_of_apart (by rw [ordinary, Bool.false_and]), slashed_of_ordinary ordinary]

@[simp] theorem head?_shrinkRuns (raw : Text) : (shrinkRuns raw).head? = raw.head?.map slashed := by
  induction raw with
  | nil => rfl
  | cons c rest ih =>
    by_cases run : (isSeparator c && rest.head?.any isSeparator) = true
    · obtain ⟨one, more⟩ := Bool.and_eq_true_iff.mp run
      obtain ⟨next, found, two⟩ := (Option.any_eq_true _ _).mp more
      rw [shrinkRuns_cons_of_run run, ih, found]
      simp [slashed_of_isSeparator one, slashed_of_isSeparator two]
    · rw [shrinkRuns_cons_of_apart (Bool.eq_false_iff.mpr run)]
      rfl

theorem head?_any_shrinkRuns (raw : Text) :
    (shrinkRuns raw).head?.any isSeparator = raw.head?.any isSeparator := by
  simp [Option.any_map]

@[simp] theorem shrinkRuns_shrinkRuns (raw : Text) :
    shrinkRuns (shrinkRuns raw) = shrinkRuns raw := by
  induction raw with
  | nil => rfl
  | cons c rest ih =>
    by_cases run : (isSeparator c && rest.head?.any isSeparator) = true
    · rw [shrinkRuns_cons_of_run run, ih]
    · have apart := Bool.eq_false_iff.mpr run
      rw [shrinkRuns_cons_of_apart apart, shrinkRuns_cons_of_apart, ih, slashed_slashed]
      rw [isSeparator_slashed, head?_any_shrinkRuns, apart]

/-- Runs are shrunk before and after a joint on their own, if no run goes across it. -/
theorem shrinkRuns_append {before after : Text}
    (apart : endsWithSeparator before = false ∨ after.head?.any isSeparator = false) :
    shrinkRuns (before ++ after) = shrinkRuns before ++ shrinkRuns after := by
  induction before with
  | nil => rfl
  | cons c rest ih =>
    cases rest with
    | nil =>
      have single : (isSeparator c && after.head?.any isSeparator) = false := by
        rcases apart with ends | starts
        · rw [show isSeparator c = false from ends, Bool.false_and]
        · rw [starts, Bool.and_false]
      rw [List.singleton_append, shrinkRuns_cons_of_apart single]
      simp [shrinkRuns]
    | cons next rest =>
      have kept := ih (apart.imp_left endsWithSeparator_of_cons)
      -- The joint is further on, so the same character follows `c` on both sides.
      by_cases run : (isSeparator c && (next :: rest).head?.any isSeparator) = true
      · have run' : (isSeparator c && (next :: rest ++ after).head?.any isSeparator) = true := run
        rw [List.cons_append, shrinkRuns_cons_of_run run', kept, shrinkRuns_cons_of_run run]
      · have single := Bool.eq_false_iff.mpr run
        have single' : (isSeparator c && (next :: rest ++ after).head?.any isSeparator) = false :=
          single
        rw [List.cons_append, shrinkRuns_cons_of_apart single', kept,
          shrinkRuns_cons_of_apart single, List.cons_append]

/-- Whatever stands in front, shrinking runs leaves the components as they are. -/
theorem components_append_shrinkRuns (front raw : Text) :
    components (front ++ shrinkRuns raw) = components (front ++ raw) := by
  induction raw generalizing front with
  | nil => rfl
  | cons c rest ih =>
    by_cases separator : isSeparator c = true
    · have starts : (shrinkRuns (c :: rest)).head?.any isSeparator = true := by
        rwa [head?_any_shrinkRuns]
      have kept := ih []
      rw [List.nil_append, List.nil_append] at kept
      rw [components_append_cons front rest separator, ← kept,
        components_append (.inr (.inr (.inr starts))), shrinkRuns]
      split
      · rfl
      · rw [components_cons_separator]
        rwa [isSeparator_slashed]
    · have ordinary := Bool.eq_false_iff.mpr separator
      have kept := ih (front ++ [c])
      rw [shrinkRuns_cons_of_ordinary ordinary]
      simpa using kept

theorem shrinkRuns_eq_nil_iff {raw : Text} : shrinkRuns raw = [] ↔ raw = [] := by
  rw [← List.head?_eq_none_iff, head?_shrinkRuns, Option.map_eq_none_iff, List.head?_eq_none_iff]

theorem endsWithSeparator_shrinkRuns (raw : Text) :
    endsWithSeparator (shrinkRuns raw) = endsWithSeparator raw := by
  induction raw with
  | nil => rfl
  | cons c rest ih =>
    cases rest with
    | nil => simp [shrinkRuns, endsWithSeparator]
    | cons next rest =>
      rw [endsWithSeparator_cons (List.cons_ne_nil _ _), ← ih, shrinkRuns]
      split
      · rfl
      · apply endsWithSeparator_cons
        rw [Ne, shrinkRuns_eq_nil_iff]
        exact List.cons_ne_nil _ _

/-! ### The spelling of a text -/

theorem spelling_cons_of_isSeparator {c : Char} (separator : isSeparator c = true) (rest : Text) :
    spelling (c :: rest) = '/' :: spelling rest := by
  rw [spelling, if_pos separator]

/-- A text that starts with an ordinary character has no run that is kept. -/
theorem spelling_of_ordinary {raw : Text} (ordinary : raw.head?.any isSeparator = false) :
    spelling raw = shrinkRuns raw := by
  cases raw with
  | nil => rfl
  | cons c rest => exact if_neg (Bool.eq_false_iff.mp ordinary)

theorem spelling_cons_of_ordinary {c : Char} (ordinary : isSeparator c = false) (rest : Text) :
    spelling (c :: rest) = c :: shrinkRuns rest := by
  rw [spelling, ordinary]
  exact shrinkRuns_cons_of_ordinary ordinary rest

@[simp] theorem head?_spelling (raw : Text) : (spelling raw).head? = raw.head?.map slashed := by
  cases raw with
  | nil => rfl
  | cons c rest =>
    by_cases separator : isSeparator c = true
    · rw [spelling_cons_of_isSeparator separator]
      simp [slashed_of_isSeparator separator]
    · rw [spelling, if_neg separator, head?_shrinkRuns]

theorem spelling_eq_nil_iff {raw : Text} : spelling raw = [] ↔ raw = [] := by
  rw [← List.head?_eq_none_iff, head?_spelling, Option.map_eq_none_iff, List.head?_eq_none_iff]

theorem head?_any_spelling (raw : Text) :
    (spelling raw).head?.any isSeparator = raw.head?.any isSeparator := by
  simp [Option.any_map]

@[simp] theorem spelling_spelling (raw : Text) : spelling (spelling raw) = spelling raw := by
  induction raw with
  | nil => rfl
  | cons c rest ih =>
    by_cases separator : isSeparator c = true
    · rw [spelling_cons_of_isSeparator separator, spelling_cons_of_isSeparator rfl, ih]
    · have ordinary : (c :: rest).head?.any isSeparator = false := Bool.eq_false_iff.mpr separator
      have again := head?_any_spelling (c :: rest)
      rw [spelling_of_ordinary (again.trans ordinary), spelling_of_ordinary ordinary,
        shrinkRuns_shrinkRuns]

/-- The run in front keeps its length, and the others do not. -/
example : spelling "\\/a\\//b\\".toList = "//a/b/".toList := by
  decide

@[simp] theorem components_spelling (raw : Text) : components (spelling raw) = components raw := by
  induction raw with
  | nil => rfl
  | cons c rest ih =>
    by_cases separator : isSeparator c = true
    · rw [spelling_cons_of_isSeparator separator, components_cons_separator rfl, ih,
        components_cons_separator separator]
    · rw [spelling, if_neg separator]
      exact components_append_shrinkRuns [] (c :: rest)

@[simp] theorem endsWithSeparator_spelling (raw : Text) :
    endsWithSeparator (spelling raw) = endsWithSeparator raw := by
  induction raw with
  | nil => rfl
  | cons c rest ih =>
    by_cases separator : isSeparator c = true
    · rw [spelling_cons_of_isSeparator separator]
      by_cases alone : rest = []
      · subst alone
        exact separator.symm
      · rw [endsWithSeparator_cons alone, ← ih]
        exact endsWithSeparator_cons (mt spelling_eq_nil_iff.mp alone)
    · rw [spelling, if_neg separator, endsWithSeparator_shrinkRuns]

/-! ### Spellings put together -/

/-- Where an ordinary character starts the second text, the texts are spelled on their own. -/
theorem spelling_append {after : Text} (ordinary : after.head?.any isSeparator = false)
    (before : Text) : spelling (before ++ after) = spelling before ++ spelling after := by
  induction before with
  | nil => rfl
  | cons c rest ih =>
    rw [List.cons_append]
    by_cases separator : isSeparator c = true
    · rw [spelling_cons_of_isSeparator separator, ih, spelling_cons_of_isSeparator separator,
        List.cons_append]
    · have first := Bool.eq_false_iff.mpr separator
      rw [spelling_cons_of_ordinary first, spelling_cons_of_ordinary first,
        shrinkRuns_append (.inr ordinary), spelling_of_ordinary ordinary, List.cons_append]

/-- One separator after an ordinary character is spelled as one slash. -/
theorem spelling_concat {separator : Char} (sound : isSeparator separator = true) {before : Text}
    (started : before ≠ []) (plain : endsWithSeparator before = false) :
    spelling (before ++ [separator]) = spelling before ++ ['/'] := by
  induction before with
  | nil => exact absurd rfl started
  | cons c rest ih =>
    have plain' := endsWithSeparator_of_cons plain
    rw [List.cons_append]
    by_cases first : isSeparator c = true
    · have more : rest ≠ [] := by
        rintro rfl
        exact absurd first (Bool.eq_false_iff.mp plain)
      rw [spelling_cons_of_isSeparator first, ih more plain', spelling_cons_of_isSeparator first,
        List.cons_append]
    · have ordinary := Bool.eq_false_iff.mpr first
      have single : shrinkRuns [separator] = ['/'] := by
        rw [← slashed_of_isSeparator sound]
        exact shrinkRuns_cons_of_apart (Bool.and_false _)
      rw [spelling_cons_of_ordinary ordinary, spelling_cons_of_ordinary ordinary,
        shrinkRuns_append (.inl plain'), single, List.cons_append]

theorem dropLeadingSeparators_spelling (raw : Text) :
    dropLeadingSeparators (spelling raw) = spelling (dropLeadingSeparators raw) := by
  induction raw with
  | nil => rfl
  | cons c rest ih =>
    by_cases separator : isSeparator c = true
    · rw [spelling_cons_of_isSeparator separator]
      simpa [dropLeadingSeparators, separator] using ih
    · have ordinary := Bool.eq_false_iff.mpr separator
      simp [spelling_cons_of_ordinary ordinary, dropLeadingSeparators, ordinary]

/-- A part is appended to a spelling as its spelling. -/
theorem spelling_appendPart {separator : Char} (sound : isSeparator separator = true)
    (raw part : Text) :
    spelling (appendPart [separator] raw part)
      = appendPart ['/'] (spelling raw) (spelling part) := by
  have ordinary := head?_dropLeadingSeparators part
  simp only [appendPart, List.isEmpty_iff, spelling_eq_nil_iff, dropLeadingSeparators_spelling,
    endsWithSeparator_spelling]
  by_cases empty : raw = []
  · rw [if_pos empty, if_pos empty]
  rw [if_neg empty, if_neg empty]
  by_cases nothing : dropLeadingSeparators part = []
  · rw [if_pos nothing, if_pos nothing]
  rw [if_neg nothing, if_neg nothing]
  by_cases ends : endsWithSeparator raw = true
  · rw [if_pos ends, if_pos ends, spelling_append ordinary]
  · rw [if_neg ends, if_neg ends, spelling_append ordinary,
      spelling_concat sound empty (Bool.eq_false_iff.mpr ends)]

/-- Parts are concatenated to a text that is spelled as the concatenation of their spellings. -/
theorem spelling_concatenate {separator : Char} (sound : isSeparator separator = true)
    (parts : List Text) :
    spelling (concatenate [separator] parts) = concatenate ['/'] (parts.map spelling) := by
  rw [concatenate, concatenate, List.foldl_map]
  exact (List.foldl_hom spelling fun raw part => (spelling_appendPart sound raw part).symm).symm

/-! ### What is read -/

namespace Root

theorem opensNetwork_iff_head? {raw : Text} :
    OpensNetwork raw ↔ raw.head?.any isSeparator = true ∧ raw.tail.head?.any isSeparator = true ∧
      raw.tail.tail.head?.any (!isSeparator ·) = true := by
  match raw with
  | [] | [_] | [_, _] => simp [OpensNetwork]
  | first :: second :: third :: rest => simp [opensNetwork_cons]

theorem tail_spelling {raw : Text} (rooted : raw.head?.any isSeparator = true) :
    (spelling raw).tail = spelling raw.tail := by
  cases raw with
  | nil => rfl
  | cons c rest => rw [spelling_cons_of_isSeparator rooted, List.tail_cons, List.tail_cons]

/-- The separators that a text starts with are counted in its spelling, too. -/
theorem opensNetwork_spelling_iff {raw : Text} :
    OpensNetwork (spelling raw) ↔ OpensNetwork raw := by
  rw [opensNetwork_iff_head?, opensNetwork_iff_head?, head?_any_spelling]
  apply and_congr_right
  intro one
  rw [tail_spelling one, head?_any_spelling]
  apply and_congr_right
  intro two
  rw [tail_spelling two]
  simp [Option.any_map]

theorem slashed_beq_colon (c : Char) : (slashed c == ':') = (c == ':') := by
  by_cases separator : isSeparator c = true
  · rcases isSeparator_iff.mp separator with rfl | rfl <;> rfl
  · rw [slashed_of_ordinary (Bool.eq_false_iff.mpr separator)]

/-- A slash is no colon, so that respelling makes up no drive. -/
theorem startsWithDrive_spelling {raw : Text} (rootless : raw.head?.any isSeparator = false) :
    startsWithDrive (spelling raw) = startsWithDrive raw := by
  cases raw with
  | nil => rfl
  | cons letter rest =>
    rw [spelling_cons_of_ordinary rootless, startsWithDrive_cons, startsWithDrive_cons,
      head?_shrinkRuns]
    simp only [Option.any_map, slashed_beq_colon]

/-- A text is read with the same root however it is spelled. -/
theorem Reads.spelling {style : Style} {raw : Text} {root : Root} {segments : List Text}
    (reads : Reads style raw root segments) :
    Reads style (Pathwise.spelling raw) root segments := by
  cases reads with
  | @bare _ first rest rooted single =>
    rw [← opensNetwork_spelling_iff, spelling_cons_of_isSeparator rooted] at single
    rw [← components_spelling rest, spelling_cons_of_isSeparator rooted]
    exact .bare rfl single
  | @drive letter rest alpha =>
    have colon : isSeparator ':' = false := rfl
    rw [spelling_cons_of_ordinary (isSeparator_of_isAlpha alpha), shrinkRuns_cons_of_ordinary colon]
    have same := components_append_shrinkRuns [] rest
    rw [List.nil_append, List.nil_append] at same
    exact same ▸ .drive alpha
  | @host first second third rest machine one two ordinary names =>
    rw [spelling_cons_of_isSeparator one, spelling_cons_of_isSeparator two,
      spelling_cons_of_ordinary ordinary]
    rw [← components_spelling, spelling_cons_of_ordinary ordinary] at names
    exact .host rfl rfl ordinary names
  | @share first second third rest machine folder segments one two ordinary names =>
    rw [spelling_cons_of_isSeparator one, spelling_cons_of_isSeparator two,
      spelling_cons_of_ordinary ordinary]
    rw [← components_spelling, spelling_cons_of_ordinary ordinary] at names
    exact .share rfl rfl ordinary names

theorem ofText?_spelling (style : Style) (raw : Text) :
    ofText? style (spelling raw) = ofText? style raw := by
  rcases exists_reads_or_eq_none style raw with ⟨root, segments, reads⟩ | rootless
  · rw [reads.ofText?_eq_some, reads.spelling.ofText?_eq_some]
  · have plain := head?_of_ofText?_eq_none rootless
    rw [rootless]
    apply ofText?_eq_none ((head?_any_spelling raw).trans plain)
    rintro rfl
    rw [startsWithDrive_spelling plain, startsWithDrive_of_ofText?_eq_none rootless]

end Root

/-- A text is read as the same path however it is spelled. -/
@[simp] theorem Path.parse_spelling (style : Style) (raw : Text) :
    parse style (spelling raw) = parse style raw := by
  simp only [parse, endsInSeparator, Root.ofText?_spelling, components_spelling,
    endsWithSeparator_spelling]

end Pathwise
