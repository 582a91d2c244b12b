import Pathwise.Proofs.Routes

/-!
# Canonical texts

A text is canonical if normalizing leaves it as it is. Every path text that an operation writes is
canonical, because it is a legible path in normal form, written out: reading it again gives that
path, up to a guard, and a normal form is its own normal form.
-/

namespace Pathwise

/-- A text that normalizing leaves as it is. -/
def IsCanonical (style : Style) (text : Text) : Prop :=
  (normalize style text).value = text

instance (style : Style) (text : Text) : Decidable (IsCanonical style text) :=
  inferInstanceAs (Decidable ((normalize style text).value = text))

/-- The empty text is not canonical: it is normalized to `.`. -/
theorem IsCanonical.ne_nil {style : Style} {text : Text} (canonical : IsCanonical style text) :
    text ≠ [] := by
  rintro rfl
  cases style with
  | posix => exact absurd canonical (by decide)
  | windows => exact absurd canonical (by decide)

theorem isCanonical_render_normalize {style : Style} {path : Path}
    (legible : path.Legible style) : IsCanonical style (path.normalize.render style) := by
  have again : (Path.parse style (path.normalize.render style)).normalize = path.normalize := by
    rw [Path.normalize_parse_render legible.normalize, Path.normalize_normalize]
  exact congrArg (Path.render style) again

/-- A location is written canonically. -/
theorem Location.Settled.isCanonical {style : Style} {location : Location}
    (settled : location.Settled style) : IsCanonical style (location.render style) := by
  have written := isCanonical_render_normalize settled.legible
  rwa [settled.normalize_toPath] at written

theorem isCanonical_normalize (style : Style) (raw : Text) :
    IsCanonical style (normalize style raw).value :=
  isCanonical_render_normalize (Path.legible_parse style raw)

theorem isCanonical_relative (style : Style) (source target directory : Text) :
    IsCanonical style (relative style source target directory).value := by
  have goal := settled_anchor style [target] directory
  by_cases roots : comparable style (anchor style [source] directory).value.root
      = comparable style (anchor style [target] directory).value.root
  · rw [value_relative_of_comparable roots]
    exact isCanonical_render_normalize
      (Path.legible_ofSegments style (isName_routeBetween style goal.isName))
  · rw [value_relative_of_not_comparable roots]
    exact goal.isCanonical

/-- Whatever the style, the arguments and the current directory, an operation that answers with a
path writes it canonically. -/
theorem isCanonical_answers (style : Style) (directory : Text) :
    (∀ raw, IsCanonical style (normalize style raw).value) ∧
      (∀ parts, IsCanonical style (join style parts).value) ∧
      (∀ parts, IsCanonical style (resolve style parts directory).value) ∧
      ∀ source target, IsCanonical style (relative style source target directory).value := by
  refine ⟨isCanonical_normalize style, ?_, ?_, ?_⟩
  · intro parts
    exact isCanonical_normalize style (concatenate [style.separator] parts)
  · intro parts
    exact (settled_anchor style parts directory).isCanonical
  · intro source target
    exact isCanonical_relative style source target directory

end Pathwise
