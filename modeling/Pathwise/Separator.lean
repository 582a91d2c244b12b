import Pathwise.Text.Basic

/-!
# Separators

Rules on raw path texts that hold under both styles: either slash separates names, and a run of
separators separates no more than a single one.
-/

namespace Pathwise

/-- Either slash separates names, whatever the style. -/
def isSeparator (c : Char) : Bool :=
  c == '/' || c == '\\'

@[simp] theorem isSeparator_iff {c : Char} : isSeparator c = true ↔ c = '/' ∨ c = '\\' := by
  simp [isSeparator]

/-- Whether a text is one separator and nothing else. -/
def isSeparatorText : Text → Bool
  | [c] => isSeparator c
  | _ => false

/-- The names between separators, in order. -/
def components (raw : Text) : List Text :=
  (raw.splitOnP isSeparator).filter (!·.isEmpty)

@[simp] theorem components_nil : components [] = [] := by
  simp [components]

/-- A separator splits the components of what is before it from those of what is after it. -/
theorem components_append_cons (before after : Text) {c : Char} (h : isSeparator c = true) :
    components (before ++ c :: after) = components before ++ components after := by
  simp [components, List.splitOnP_append_cons _ _ h]

@[simp] theorem components_cons_separator {c : Char} (h : isSeparator c = true) (raw : Text) :
    components (c :: raw) = components raw := by
  simpa using components_append_cons [] raw h

theorem components_of_noSeparator {name : Text} (h : ∀ c ∈ name, isSeparator c = false)
    (hne : name ≠ []) : components name = [name] := by
  simp [components, List.splitOnP_eq_singleton h, hne]

private theorem noSeparator_of_mem_splitOnP {raw piece : Text}
    (h : piece ∈ raw.splitOnP isSeparator) : ∀ c ∈ piece, isSeparator c = false := by
  induction raw generalizing piece with
  | nil =>
    rw [List.splitOnP_nil, List.mem_singleton] at h
    simp [h]
  | cons first rest ih =>
    rw [List.splitOnP_cons_eq_if_modifyHead] at h
    obtain ⟨head, tail, hsplit⟩ :=
      List.exists_cons_of_ne_nil (List.splitOnP_ne_nil isSeparator rest)
    rw [hsplit] at ih h
    by_cases hfirst : isSeparator first = true
    · rw [if_pos hfirst, List.mem_cons] at h
      rcases h with rfl | h
      · simp
      · exact ih h
    · rw [if_neg hfirst, List.modifyHead_cons, List.mem_cons] at h
      rcases h with rfl | h
      · intro c hc
        rcases List.mem_cons.1 hc with rfl | hc
        · exact Bool.eq_false_iff.2 hfirst
        · exact ih List.mem_cons_self c hc
      · exact ih (List.mem_cons_of_mem head h)

/-- A component is not empty and holds no separator. -/
theorem ne_nil_and_noSeparator_of_mem_components {raw name : Text} (h : name ∈ components raw) :
    name ≠ [] ∧ ∀ c ∈ name, isSeparator c = false := by
  obtain ⟨hmem, hne⟩ := List.mem_filter.1 h
  exact ⟨by simpa using hne, noSeparator_of_mem_splitOnP hmem⟩

def dropLeadingSeparators (raw : Text) : Text :=
  raw.dropWhile isSeparator

def endsWithSeparator (raw : Text) : Bool :=
  raw.getLast?.any isSeparator

/-- Whether a text starts with an ASCII letter and a colon. -/
def startsWithDrive : Text → Bool
  | letter :: ':' :: _ => letter.isAlpha
  | _ => false

/-- The names in order, with the separator between neighbours. -/
def joinNames (separator : Text) (names : List Text) : Text :=
  List.intercalate separator names

/-- Names joined by a separator are read back as its components. -/
theorem components_joinNames {separator : Char} (hseparator : isSeparator separator = true)
    {names : List Text} (h : ∀ name ∈ names, name ≠ [] ∧ ∀ c ∈ name, isSeparator c = false) :
    components (joinNames [separator] names) = names := by
  induction names with
  | nil => simp [joinNames]
  | cons name rest ih =>
    have hname := h name List.mem_cons_self
    have hrest := ih fun other hother => h other (List.mem_cons_of_mem name hother)
    cases rest with
    | nil => simpa [joinNames] using components_of_noSeparator hname.2 hname.1
    | cons other rest =>
      rw [joinNames] at hrest
      rw [joinNames, List.intercalate_cons_cons, List.append_assoc, List.singleton_append,
        components_append_cons _ _ hseparator, hrest,
        components_of_noSeparator hname.2 hname.1, List.singleton_append]

end Pathwise
