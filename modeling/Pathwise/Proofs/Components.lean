import Mathlib.Data.List.Induction
import Mathlib.Data.List.TakeWhile
import Pathwise.Separator

/-!
# Components of texts put together

Two texts have the components of both when they are put together at a separator. Everything that is
said about the components of a concatenation comes down to this, so the joint itself is described
first: `Separated` says that no name runs across it.
-/

namespace Pathwise

/-- A text that can stand between two separators as one component. -/
structure IsName (name : Text) : Prop where
  ne_nil : name ≠ []
  noSeparator : ∀ c ∈ name, isSeparator c = false

theorem isName_of_mem_components {raw name : Text} (member : name ∈ components raw) :
    IsName name :=
  have ⟨filled, plain⟩ := ne_nil_and_noSeparator_of_mem_components member
  ⟨filled, plain⟩

/-- Names written with a separator between neighbours are read back. -/
theorem components_joinNames_of_isName {separator : Char} (sound : isSeparator separator = true)
    {names : List Text} (isName : ∀ name ∈ names, IsName name) :
    components (joinNames [separator] names) = names :=
  components_joinNames sound fun name member =>
    ⟨(isName name member).ne_nil, (isName name member).noSeparator⟩

theorem endsWithSeparator_iff {raw : Text} :
    endsWithSeparator raw = true ↔ ∃ front c, isSeparator c = true ∧ raw = front ++ [c] := by
  constructor
  · intro ends
    obtain ⟨c, last, separator⟩ := (Option.any_eq_true _ _).mp ends
    obtain ⟨front, rfl⟩ := List.getLast?_eq_some_iff.mp last
    exact ⟨front, c, separator, rfl⟩
  · rintro ⟨front, c, separator, rfl⟩
    simpa [endsWithSeparator] using separator

/-- A name is no continuation of anything: it starts with an ordinary character. -/
theorem IsName.head?_append {name : Text} (isName : IsName name) (rest : Text) :
    (name ++ rest).head?.any isSeparator = false := by
  obtain ⟨c, name, rfl⟩ := List.exists_cons_of_ne_nil isName.ne_nil
  exact isName.noSeparator c List.mem_cons_self

theorem joinNames_cons_cons (separator name other : Text) (names : List Text) :
    joinNames separator (name :: other :: names)
      = name ++ separator ++ joinNames separator (other :: names) :=
  List.intercalate_cons_cons

/-- The first name is written first. -/
theorem exists_joinNames_cons_eq (separator name : Text) (names : List Text) :
    ∃ rest, joinNames separator (name :: names) = name ++ rest := by
  cases names with
  | nil => exact ⟨[], by simp [joinNames]⟩
  | cons other names => exact ⟨_, by rw [joinNames_cons_cons, List.append_assoc]⟩

/-- Written names start with an ordinary character, if with any. -/
theorem head?_joinNames (separator : Text) {names : List Text}
    (isName : ∀ name ∈ names, IsName name) :
    (joinNames separator names).head?.any isSeparator = false := by
  cases names with
  | nil => rfl
  | cons name names =>
    obtain ⟨rest, same⟩ := exists_joinNames_cons_eq separator name names
    rw [same]
    exact (isName name List.mem_cons_self).head?_append rest

theorem endsWithSeparator_append {after : Text} (filled : after ≠ []) (before : Text) :
    endsWithSeparator (before ++ after) = endsWithSeparator after := by
  simp [endsWithSeparator, List.getLast?_append, List.getLast?_eq_some_getLast filled]

theorem endsWithSeparator_cons {c : Char} {rest : Text} (filled : rest ≠ []) :
    endsWithSeparator (c :: rest) = endsWithSeparator rest :=
  endsWithSeparator_append filled [c]

theorem endsWithSeparator_of_cons {c : Char} {rest : Text}
    (plain : endsWithSeparator (c :: rest) = false) : endsWithSeparator rest = false := by
  by_cases empty : rest = []
  · rw [empty]
    rfl
  · rwa [endsWithSeparator_cons empty] at plain

theorem IsName.endsWithSeparator {name : Text} (isName : IsName name) :
    endsWithSeparator name = false := by
  by_contra ends
  obtain ⟨front, c, separator, rfl⟩ := endsWithSeparator_iff.mp (Bool.of_not_eq_false ends)
  simp [isName.noSeparator c (by simp)] at separator

/-- Written names end with the last one, and so with no separator. -/
theorem endsWithSeparator_joinNames (separator : Text) {names : List Text}
    (isName : ∀ name ∈ names, IsName name) :
    endsWithSeparator (joinNames separator names) = false := by
  induction names with
  | nil => rfl
  | cons name rest ih =>
    obtain ⟨first, others⟩ := List.forall_mem_cons.mp isName
    cases rest with
    | nil => simpa [joinNames] using first.endsWithSeparator
    | cons other rest =>
      have filled : joinNames separator (other :: rest) ≠ [] := by
        obtain ⟨tail, same⟩ := exists_joinNames_cons_eq separator other rest
        simp [same, (others other List.mem_cons_self).ne_nil]
      rw [joinNames_cons_cons, endsWithSeparator_append filled]
      exact ih others

/-- The first two characters decide whether a text starts with a drive. -/
theorem startsWithDrive_cons (letter : Char) (rest : Text) :
    startsWithDrive (letter :: rest) = (letter.isAlpha && rest.head?.any (· == ':')) := by
  cases rest with
  | nil => simp [startsWithDrive]
  | cons c rest =>
    by_cases colon : c = ':'
    · simp [startsWithDrive, colon]
    · simp [startsWithDrive, colon]

/-- Whatever begins with a separator does not begin with a colon. -/
theorem head?_any_colon {rest : Text} (starts : rest.head?.any isSeparator = true) :
    rest.head?.any (· == ':') = false := by
  cases rest with
  | nil => rfl
  | cons c rest =>
    rcases isSeparator_iff.mp starts with rfl | rfl <;> rfl

/-- Written names start with a drive just if the first one does: a separator is no colon. -/
theorem startsWithDrive_joinNames {separator : Char} (sound : isSeparator separator = true)
    {names : List Text} (isName : ∀ name ∈ names, IsName name) :
    startsWithDrive (joinNames [separator] names) = names.head?.any startsWithDrive := by
  cases names with
  | nil => rfl
  | cons name names =>
    cases names with
    | nil => simp [joinNames]
    | cons other names =>
      obtain ⟨c, rest, rfl⟩ := List.exists_cons_of_ne_nil (isName name List.mem_cons_self).ne_nil
      rw [joinNames_cons_cons, List.append_assoc, List.cons_append, startsWithDrive_cons]
      show _ = startsWithDrive (c :: rest)
      rw [startsWithDrive_cons]
      cases rest with
      | nil =>
        have joint : ([separator] ++ joinNames [separator] (other :: names)).head?.any isSeparator
            = true := sound
        rw [List.nil_append, head?_any_colon joint]
        rfl
      | cons second rest => rfl

/-- A text that starts with an ordinary character has a first component. -/
theorem components_cons_ne_nil {c : Char} (ordinary : isSeparator c = false) (rest : Text) :
    components (c :: rest) ≠ [] := by
  obtain ⟨head, tail, pieces⟩ := List.exists_cons_of_ne_nil (List.splitOnP_ne_nil isSeparator rest)
  simp [components, List.splitOnP_cons_eq_if_modifyHead, ordinary, pieces]

@[simp] theorem components_dropLeadingSeparators (raw : Text) :
    components (dropLeadingSeparators raw) = components raw := by
  induction raw with
  | nil => rfl
  | cons c rest ih =>
    by_cases separator : isSeparator c = true
    · rw [components_cons_separator separator, ← ih]
      simp [dropLeadingSeparators, separator]
    · simp [dropLeadingSeparators, separator]

/-- Without its leading separators a text starts with none. -/
theorem head?_dropLeadingSeparators (raw : Text) :
    (dropLeadingSeparators raw).head?.any isSeparator = false := by
  induction raw with
  | nil => rfl
  | cons c rest ih =>
    by_cases separator : isSeparator c = true
    · simpa [dropLeadingSeparators, separator] using ih
    · simp [dropLeadingSeparators, separator]

/-- No name runs across the joint of the two texts. -/
def Separated (before after : Text) : Prop :=
  before = [] ∨ after = [] ∨ endsWithSeparator before = true ∨ after.head?.any isSeparator = true

/-- Put together at a separator, two texts keep their components. -/
theorem components_append {before after : Text} (separated : Separated before after) :
    components (before ++ after) = components before ++ components after := by
  rcases separated with rfl | rfl | ends | starts
  · simp
  · simp
  · obtain ⟨front, c, separator, rfl⟩ := endsWithSeparator_iff.mp ends
    rw [List.append_assoc, List.singleton_append, components_append_cons front after separator,
      components_append_cons front [] separator, components_nil, List.append_nil]
  · cases after with
    | nil => simp
    | cons c rest =>
      have separator : isSeparator c = true := starts
      rw [components_append_cons before rest separator, components_cons_separator separator]

/-- The joint stays what it is when the text before it loses its beginning. -/
theorem Separated.of_append {front before after : Text}
    (separated : Separated (front ++ before) after) : Separated before after := by
  rcases separated with empty | empty | ends | starts
  · exact .inl (List.append_eq_nil_iff.mp empty).2
  · exact .inr (.inl empty)
  · cases before using List.reverseRecOn with
    | nil => exact .inl rfl
    | append_singleton before last =>
      refine .inr (.inr (.inl ?_))
      simpa [endsWithSeparator, ← List.append_assoc] using ends
  · exact .inr (.inr (.inr starts))

/-- A text that starts with an ordinary character starts with a name, at whose end it can be cut. -/
theorem exists_eq_name_append {c : Char} (ordinary : isSeparator c = false) (rest : Text) :
    ∃ name after, c :: rest = name ++ after ∧ IsName name ∧ Separated name after := by
  refine ⟨(c :: rest).takeWhile (!isSeparator ·), (c :: rest).dropWhile (!isSeparator ·),
    List.takeWhile_append_dropWhile.symm, ⟨?_, ?_⟩, ?_⟩
  · simp [ordinary]
  · intro other member
    simpa using List.mem_takeWhile_imp member
  · have stops := List.head?_dropWhile_not (!isSeparator ·) (c :: rest)
    cases cut : (c :: rest).dropWhile (!isSeparator ·) with
    | nil => exact .inr (.inl rfl)
    | cons other after =>
      rw [cut] at stops
      exact .inr (.inr (.inr (by simpa using stops)))

end Pathwise
