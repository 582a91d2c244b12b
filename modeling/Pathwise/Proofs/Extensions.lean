import Pathwise.Lexical
import Pathwise.Proofs.Legibility

/-!
# Names and their extensions

The extension of a path is the end of its last name, from the last dot on. A name of dots alone has
none, and neither has a name whose only dot is its first character, so that taking the extension
away always leaves something. Any other ending is taken away just where it is found, and then it may
be the whole name.
-/

namespace Pathwise

/-! ### Taking an ending away -/

namespace Text

theorem withoutEnding_append_of_suffix {text ending : Text} (found : ending <:+ text) :
    text.withoutEnding ending ++ ending = text := by
  obtain ⟨front, rfl⟩ := found
  rw [withoutEnding_append]

theorem withoutEnding_prefix (text ending : Text) : text.withoutEnding ending <+: text := by
  by_cases found : ending <:+ text
  · exact ⟨ending, withoutEnding_append_of_suffix found⟩
  · exact (withoutEnding_of_not_suffix found).symm ▸ List.prefix_rfl

/-- Only an ending that is found and that is not empty makes a difference. -/
theorem ne_nil_and_suffix_of_withoutEnding_ne {text ending : Text}
    (differs : text.withoutEnding ending ≠ text) : ending ≠ [] ∧ ending <:+ text := by
  constructor
  · rintro rfl
    exact differs (withoutEnding_nil text)
  · by_contra absent
    exact differs (withoutEnding_of_not_suffix absent)

end Text

/-! ### The last dot of a name -/

theorem extension_of_notMem {name : Text} (dotless : '.' ∉ name) : extension name = [] := by
  have whole : name.reverse.takeWhile (· ≠ '.') = name.reverse := by
    rw [List.takeWhile_eq_self_iff]
    intro c member
    exact decide_eq_true fun same => dotless (same ▸ List.mem_reverse.mp member)
  simp only [extension, whole, List.reverse_reverse]
  rw [if_pos]
  simp

/-- The last dot parts a name. What is from there on is the extension, unless nothing stands before
the dot, or nothing but dots before and nothing after it. -/
theorem extension_append_cons (stem : Text) {after : Text} (last : '.' ∉ after) :
    extension (stem ++ '.' :: after)
      = if stem = [] ∨ (stem ++ after).all (· == '.') then [] else '.' :: after := by
  have plain : ∀ c ∈ after.reverse, decide (c ≠ '.') = true :=
    fun c member => decide_eq_true fun same => last (same ▸ List.mem_reverse.mp member)
  have tail : ((stem ++ '.' :: after).reverse.takeWhile (· ≠ '.')).reverse = after := by
    rw [List.reverse_append, List.reverse_cons, List.append_assoc,
      List.takeWhile_append_of_pos plain]
    simp
  have short : (stem ++ '.' :: after).length ≤ after.length + 1 ↔ stem = [] := by
    rw [List.length_append, List.length_cons, ← List.length_eq_zero_iff]
    omega
  simp only [extension, tail, Bool.or_eq_true, decide_eq_true_eq, short, List.all_append,
    List.all_cons, beq_self_eq_true, Bool.true_and]
  exact if_congr or_comm rfl rfl

theorem exists_append_cons_of_mem {name : Text} (dotted : '.' ∈ name) :
    ∃ stem after, name = stem ++ '.' :: after ∧ '.' ∉ after := by
  obtain ⟨back, front, reversed, first⟩ :=
    List.eq_append_cons_of_mem (List.mem_reverse.mpr dotted)
  refine ⟨front.reverse, back.reverse, ?_, by rwa [List.mem_reverse]⟩
  rw [← List.reverse_reverse name, reversed]
  simp

/-- A name that has an extension consists of a stem, the last dot, and what comes after it. -/
theorem exists_stem_of_extension_ne_nil {name : Text} (extended : extension name ≠ []) :
    ∃ stem after, stem ≠ [] ∧ '.' ∉ after ∧ extension name = '.' :: after ∧
      name = stem ++ extension name := by
  by_cases dotted : '.' ∈ name
  · obtain ⟨stem, after, rfl, last⟩ := exists_append_cons_of_mem dotted
    rw [extension_append_cons stem last] at extended ⊢
    split at extended
    · exact absurd rfl extended
    · next holds =>
      rw [if_neg holds]
      exact ⟨stem, after, fun none => holds (.inl none), last, rfl, rfl⟩
  · exact absurd (extension_of_notMem dotted) extended

theorem extension_suffix (name : Text) : extension name <:+ name := by
  by_cases none : extension name = []
  · rw [none]
    exact List.nil_suffix
  · obtain ⟨stem, -, -, -, -, whole⟩ := exists_stem_of_extension_ne_nil none
    exact ⟨stem, whole.symm⟩

/-- A name has an extension if and only if it has a dot after its first character and does not
consist of dots. -/
theorem extension_ne_nil_iff {name : Text} :
    extension name ≠ [] ↔ (∃ c ∈ name, c ≠ '.') ∧ '.' ∈ name.tail := by
  by_cases dotted : '.' ∈ name
  · obtain ⟨stem, after, rfl, last⟩ := exists_append_cons_of_mem dotted
    have inner : '.' ∈ (stem ++ '.' :: after).tail ↔ stem ≠ [] := by
      cases stem with
      | nil => simp [last]
      | cons c stem => simp
    have other : (∃ c ∈ stem ++ '.' :: after, c ≠ '.') ↔ ¬ (stem ++ after).all (· == '.') := by
      simp only [List.all_eq_true, beq_iff_eq, not_forall, List.mem_append, List.mem_cons]
      grind
    rw [extension_append_cons stem last, inner, other, and_comm, ← not_or]
    split
    · next holds => exact iff_of_false (fun differs => differs rfl) (not_not_intro holds)
    · next fails => exact iff_of_true (List.cons_ne_nil '.' after) fails
  · have outside : '.' ∉ name.tail := fun member => dotted (List.mem_of_mem_tail member)
    simp [extension_of_notMem dotted, outside]

/-! ### The last name of a path -/

theorem basename_nil (style : Style) (raw : Text) :
    basename style raw [] = (Path.parse style raw).lastSegment :=
  Text.withoutEnding_nil _

/-- A basename is the last name without the ending. -/
theorem basename_eq (style : Style) (raw ending : Text) :
    basename style raw ending = (basename style raw []).withoutEnding ending := by
  rw [basename_nil, basename]

theorem extname_eq (style : Style) (raw : Text) :
    extname style raw = extension (basename style raw []) := by
  rw [basename_nil, extname]

theorem noSeparator_of_mem_basename {style : Style} {raw : Text} {c : Char}
    (member : c ∈ basename style raw []) : isSeparator c = false := by
  rw [basename_nil, Path.lastSegment] at member
  have isName := (Path.legible_parse style raw).isName
  cases found : (Path.parse style raw).segments.getLast? with
  | none => simp [found] at member
  | some name =>
    rw [found] at member
    exact (isName name (List.mem_of_getLast? found)).noSeparator c member

/-- The last name of a path is parted into a stem and the extension, which starts at the last dot.
There is an extension just if the name has a dot after its first character and another character
besides dots, and then there is a stem. An ending is taken away if the name ends in it, and that is
the only change. -/
theorem basename_append_extname (style : Style) (raw : Text) :
    let name := basename style raw []
    let ext := extname style raw
    basename style raw ext ++ ext = name ∧
      (ext = [] ∨ ∃ after, ext = '.' :: after ∧ ∀ c ∈ after, c ≠ '.' ∧ isSeparator c = false) ∧
      (ext ≠ [] ↔ (∃ c ∈ name, c ≠ '.') ∧ '.' ∈ name.tail) ∧
      (ext ≠ [] → basename style raw ext ≠ []) ∧
      ∀ ending, basename style raw ending <+: name ∧
        (ending <:+ name → basename style raw ending ++ ending = name) ∧
        (basename style raw ending ≠ name →
          ending ≠ [] ∧ basename style raw ending ++ ending = name) := by
  intro name ext
  have isExtension : ext = extension name := extname_eq style raw
  have split : basename style raw ext ++ ext = name := by
    rw [basename_eq]
    exact Text.withoutEnding_append_of_suffix (isExtension ▸ extension_suffix name)
  refine ⟨split, ?_, isExtension ▸ extension_ne_nil_iff, ?_, ?_⟩
  · by_cases none : ext = []
    · exact .inl none
    · obtain ⟨stem, after, -, last, starts, whole⟩ :=
        exists_stem_of_extension_ne_nil (isExtension ▸ none)
      refine .inr ⟨after, isExtension.trans starts, ?_⟩
      intro c member
      refine ⟨fun dot => last (dot ▸ member), @noSeparator_of_mem_basename style raw c ?_⟩
      show c ∈ name
      rw [whole, starts]
      exact List.mem_append_right stem (List.mem_cons_of_mem '.' member)
  · intro extended empty
    obtain ⟨stem, -, filled, -, -, whole⟩ :=
      exists_stem_of_extension_ne_nil (isExtension ▸ extended)
    rw [empty, isExtension, List.nil_append] at split
    exact filled (List.append_left_eq_self.mp (whole.symm.trans split.symm))
  · intro ending
    rw [basename_eq style raw ending]
    refine ⟨Text.withoutEnding_prefix name ending, Text.withoutEnding_append_of_suffix, ?_⟩
    intro differs
    obtain ⟨filled, found⟩ := Text.ne_nil_and_suffix_of_withoutEnding_ne differs
    exact ⟨filled, Text.withoutEnding_append_of_suffix found⟩

/-- A hidden archive in a directory with two separators behind it. The longer ending is no
extension, but it is taken away all the same. -/
theorem basename_append_extname_archive :
    let raw := "/srv/.data.tar.gz//".toList
    let name := ".data.tar.gz".toList
    extname .posix raw = ".gz".toList ∧ extname .posix raw ≠ [] ∧
      basename .posix raw (extname .posix raw) ≠ [] ∧
      ".tar.gz".toList <:+ name ∧ basename .posix raw ".tar.gz".toList ++ ".tar.gz".toList = name ∧
      basename .posix raw ".data.tar.gz".toList ≠ name ∧
      ".data.tar.gz".toList ≠ [] ∧
      basename .posix raw ".data.tar.gz".toList ++ ".data.tar.gz".toList = name := by
  intro raw name
  have isName : basename .posix raw [] = name := by decide
  have extended : extname .posix raw ≠ [] := by decide
  have ends : ".tar.gz".toList <:+ name := by decide
  have differs : basename .posix raw ".data.tar.gz".toList ≠ name := by decide
  obtain ⟨-, -, -, left, endings⟩ := basename_append_extname .posix raw
  rw [isName] at endings
  exact ⟨by decide, extended, left extended, ends, (endings _).2.1 ends, differs,
    (endings _).2.2 differs⟩

end Pathwise
