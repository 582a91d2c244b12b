import Pathwise.Lexical
import Pathwise.Proofs.Components

/-!
# Concatenated texts

A concatenation starts with its first part that is not empty, to the letter. What is glued to that
part is a continuation of it: it carries the names of the later parts, none of them runs into the
part, and where the part ends with a separator no second one follows.
-/

namespace Pathwise

/-- A text that may be written after another one to add names to it. -/
structure Continues (before : Text) (names : List Text) (after : Text) : Prop where
  components_eq : components after = names
  separated : Separated before after
  /-- A separator at the joint is not doubled. -/
  single : endsWithSeparator before = true → after.head?.any isSeparator = false

namespace Continues

variable {before middle after : Text} {names others : List Text}

theorem nil (before : Text) : Continues before [] [] :=
  ⟨components_nil, .inr (.inl rfl), fun _ => rfl⟩

theorem components_append (continues : Continues before names after) :
    components (before ++ after) = components before ++ names := by
  rw [Pathwise.components_append continues.separated, continues.components_eq]

/-- What continues a text also continues what is left when its beginning is taken away. -/
theorem components_append_of_append (front : Text)
    (continues : Continues (front ++ before) names after) :
    components (before ++ after) = components before ++ names := by
  rw [Pathwise.components_append continues.separated.of_append, continues.components_eq]

theorem trans (started : before ≠ []) (first : Continues before names middle)
    (second : Continues (before ++ middle) others after) :
    Continues before (names ++ others) (middle ++ after) := by
  cases middle with
  | nil =>
    obtain rfl : [] = names := first.components_eq
    simpa using second
  | cons c rest =>
    refine ⟨?_, ?_, first.single⟩
    · rw [Pathwise.components_append second.separated.of_append, first.components_eq,
        second.components_eq]
    · rcases first.separated with empty | empty | ends | starts
      · exact absurd empty started
      · simp at empty
      · exact .inr (.inr (.inl ends))
      · exact .inr (.inr (.inr starts))

/-- A continuation that names something is not empty, and after a separator the converse holds. -/
theorem eq_nil_iff (continues : Continues before names after)
    (ends : endsWithSeparator before = true) : after = [] ↔ names = [] := by
  rw [← continues.components_eq]
  constructor
  · rintro rfl
    exact components_nil
  · intro unnamed
    cases after with
    | nil => rfl
    | cons c rest =>
      have ordinary : isSeparator c = false := continues.single ends
      exact absurd unnamed (components_cons_ne_nil ordinary rest)

end Continues

variable {separator : Char}

theorem exists_appendPart_eq (sound : isSeparator separator = true) {raw : Text}
    (started : raw ≠ []) (part : Text) :
    ∃ piece, appendPart [separator] raw part = raw ++ piece ∧
      Continues raw (components part) piece := by
  have plain := head?_dropLeadingSeparators part
  rw [← components_dropLeadingSeparators part]
  simp only [appendPart, List.isEmpty_iff, started, if_false]
  generalize dropLeadingSeparators part = rest at plain ⊢
  by_cases empty : rest = []
  · subst empty
    exact ⟨[], by simp, .nil raw⟩
  rw [if_neg empty]
  by_cases ends : endsWithSeparator raw = true
  · rw [if_pos ends]
    exact ⟨rest, rfl, rfl, .inr (.inr (.inl ends)), fun _ => plain⟩
  · rw [if_neg ends]
    refine ⟨separator :: rest, by simp, components_cons_separator sound rest, ?_, ?_⟩
    · exact .inr (.inr (.inr sound))
    · exact fun doubled => absurd doubled ends

theorem exists_foldl_appendPart_eq (sound : isSeparator separator = true) (parts : List Text)
    {raw : Text} (started : raw ≠ []) :
    ∃ tail, parts.foldl (appendPart [separator]) raw = raw ++ tail ∧
      Continues raw (parts.flatMap components) tail := by
  induction parts generalizing raw with
  | nil => exact ⟨[], by simp, .nil raw⟩
  | cons part later ih =>
    obtain ⟨piece, appended, first⟩ := exists_appendPart_eq sound started part
    obtain ⟨tail, rest, second⟩ := ih (show raw ++ piece ≠ [] by simp [started])
    refine ⟨piece ++ tail, ?_, first.trans started second⟩
    rw [List.foldl_cons, appended, rest, List.append_assoc]

theorem concatenate_append (separator : Text) (parts later : List Text) :
    concatenate separator (parts ++ later)
      = later.foldl (appendPart separator) (concatenate separator parts) :=
  List.foldl_append

@[simp] theorem concatenate_cons_nil (separator : Text) (parts : List Text) :
    concatenate separator ([] :: parts) = concatenate separator parts := by
  simp [concatenate]

/-- The first part is kept as it is, and the later ones continue it. -/
theorem exists_concatenate_cons_eq (sound : isSeparator separator = true) {part : Text}
    (started : part ≠ []) (later : List Text) :
    ∃ tail, concatenate [separator] (part :: later) = part ++ tail ∧
      Continues part (later.flatMap components) tail := by
  have first : concatenate [separator] (part :: later)
      = later.foldl (appendPart [separator]) part := by
    simp [concatenate, appendPart]
  rw [first]
  exact exists_foldl_appendPart_eq sound later started

/-- A concatenation is empty, or it continues its first part that is not. -/
theorem concatenate_cases (sound : isSeparator separator = true) (parts : List Text) :
    parts.dropWhile List.isEmpty = [] ∧ concatenate [separator] parts = [] ∨
      ∃ first later tail, parts.dropWhile List.isEmpty = first :: later ∧ first ≠ [] ∧
        concatenate [separator] parts = first ++ tail ∧
        Continues first (later.flatMap components) tail := by
  induction parts with
  | nil => exact .inl ⟨rfl, rfl⟩
  | cons part later ih =>
    cases part with
    | nil =>
      rw [concatenate_cons_nil]
      exact ih
    | cons c rest =>
      have started : c :: rest ≠ [] := List.cons_ne_nil c rest
      obtain ⟨tail, same, continues⟩ := exists_concatenate_cons_eq sound started later
      exact .inr ⟨c :: rest, later, tail, rfl, started, same, continues⟩

/-- The first part that is not empty, with which a concatenation starts. -/
def firstFilled? (parts : List Text) : Option Text :=
  parts.find? (!·.isEmpty)

theorem firstFilled?_eq_head? (parts : List Text) :
    firstFilled? parts = (parts.dropWhile List.isEmpty).head? :=
  parts.find?_not_eq_head?_dropWhile List.isEmpty

theorem firstFilled?_eq_none_iff {parts : List Text} :
    firstFilled? parts = none ↔ ∀ part ∈ parts, part = [] := by
  simp [firstFilled?]

theorem firstFilled?_append (parts later : List Text) :
    firstFilled? (parts ++ later) = (firstFilled? parts).or (firstFilled? later) :=
  List.find?_append

/-- The same cases, for uses to which the later parts do not matter. -/
theorem concatenate_cases_firstFilled? (sound : isSeparator separator = true)
    (parts : List Text) :
    firstFilled? parts = none ∧ concatenate [separator] parts = [] ∨
      ∃ first names tail, firstFilled? parts = some first ∧ first ≠ [] ∧
        concatenate [separator] parts = first ++ tail ∧ Continues first names tail := by
  rcases concatenate_cases sound parts with
    ⟨none, empty⟩ | ⟨first, later, tail, found, started, same, continues⟩
  · exact .inl ⟨by rw [firstFilled?_eq_head?, none, List.head?_nil], empty⟩
  · exact .inr ⟨first, _, tail, by rw [firstFilled?_eq_head?, found, List.head?_cons], started,
      same, continues⟩

/-- Concatenation neither loses a component nor makes one up. -/
theorem components_concatenate (sound : isSeparator separator = true) (parts : List Text) :
    components (concatenate [separator] parts) = parts.flatMap components := by
  induction parts with
  | nil => simp
  | cons part later ih =>
    by_cases started : part = []
    · rw [started, concatenate_cons_nil, ih, List.flatMap_cons, components_nil, List.nil_append]
    · obtain ⟨tail, same, continues⟩ := exists_concatenate_cons_eq sound started later
      rw [same, continues.components_append, List.flatMap_cons]

/-- Every component comes from a part of its own: gluing the parts together loses none, runs no two
into one and makes none up. The text is empty just if all parts are, and otherwise the first part
that is not stands at its start as it was given. -/
theorem components_and_prefix_concatenate (sound : isSeparator separator = true)
    (parts : List Text) :
    components (concatenate [separator] parts) = parts.flatMap components ∧
      (concatenate [separator] parts = [] ↔ ∀ part ∈ parts, part = []) ∧
      ∀ first, firstFilled? parts = some first → first <+: concatenate [separator] parts := by
  refine ⟨components_concatenate sound parts, ?_⟩
  rw [← firstFilled?_eq_none_iff]
  rcases concatenate_cases_firstFilled? sound parts with
    ⟨none, empty⟩ | ⟨first, names, tail, found, started, same, -⟩
  · simp [none, empty]
  · simp [found, same, started]

/-- Separators at either end of a part, parts of separators alone and empty parts. -/
theorem components_and_prefix_concatenate_mixed :
    let parts := ["", "a/b/\\", "\\/", "", "/c:\\..", "d"].map String.toList
    isSeparator '\\' = true ∧
      concatenate ['\\'] parts = "a/b/\\c:\\..\\d".toList ∧
      components (concatenate ['\\'] parts) = ["a", "b", "c:", "..", "d"].map String.toList ∧
      concatenate ['\\'] parts ≠ [] ∧
      "a/b/\\".toList <+: concatenate ['\\'] parts := by
  intro parts
  have sound : isSeparator '\\' = true := rfl
  obtain ⟨names, empty, starts⟩ := components_and_prefix_concatenate sound parts
  refine ⟨sound, by decide, names.trans (by decide), ?_, starts _ (by decide)⟩
  rw [Ne, empty]
  exact fun blank => absurd (blank "d".toList (by decide)) (by decide)

end Pathwise
