import Pathwise.Proofs.Legibility

/-!
# Network roots of joined paths

Leading separators of later parts are dropped so that no two separators come together at the start
of a joined path. Hence a joined path is on the network only if its first part is, with one
exception: a first part of exactly two separators is a bare root on its own, and the first name that
is glued to it becomes a host.
-/

namespace Pathwise

open Root

/-- Whether the root of a path is written with two separators in front, as network roots are. -/
def Path.hasNetworkRoot (path : Path) : Bool :=
  match path.root with
  | some (first :: second :: _) => isSeparator first && isSeparator second
  | _ => false

/-- The first part is two separators and a later part has a name, which completes them to the root
of a host. Empty parts in front do not count. -/
def CompletesPair (parts : List Text) : Prop :=
  ∃ first later, parts.dropWhile List.isEmpty = first :: later ∧ isSeparatorPair first = true ∧
    ∃ part ∈ later, components part ≠ []

namespace Path

theorem hasNetworkRoot_parse_iff {raw : Text} :
    (parse .windows raw).hasNetworkRoot = true ↔ OpensNetwork raw := by
  rcases exists_reads_or_eq_none .windows raw with ⟨root, segments, reads⟩ | rootless
  · rw [parse_of_reads reads]
    cases reads with
    | bare rooted single => simp [hasNetworkRoot, text, single rfl]
    | @drive letter rest alpha =>
      have single : ¬ OpensNetwork (letter :: ':' :: rest) := by
        intro opens
        simpa [isSeparator_of_isAlpha alpha] using opens.head?_isSeparator
      simp [hasNetworkRoot, text, single, isSeparator_of_isAlpha alpha]
    | host one two ordinary names =>
      exact iff_of_true rfl (opensNetwork_cons.mpr ⟨one, two, ordinary⟩)
    | share one two ordinary names =>
      exact iff_of_true rfl (opensNetwork_cons.mpr ⟨one, two, ordinary⟩)
  · rw [parse_of_rootless rootless]
    refine iff_of_false (by simp [hasNetworkRoot]) ?_
    intro opens
    simpa [head?_of_ofText?_eq_none rootless] using opens.head?_isSeparator

/-- A bare root is what is left for a text that starts with a separator and opens no network. -/
theorem root_parse_eq_bare_iff {raw : Text} :
    (parse .windows raw).root = some ['\\'] ↔
      raw.head?.any isSeparator = true ∧ ¬ OpensNetwork raw := by
  rcases exists_reads_or_eq_none .windows raw with ⟨root, segments, reads⟩ | rootless
  · rw [parse_of_reads reads]
    cases reads with
    | bare rooted single => exact iff_of_true rfl ⟨rooted, single rfl⟩
    | drive alpha => simp [text, isSeparator_of_isAlpha alpha]
    | host one two ordinary names =>
      simp [text, Style.separator, opensNetwork_cons.mpr ⟨one, two, ordinary⟩]
    | share one two ordinary names =>
      simp [text, Style.separator, opensNetwork_cons.mpr ⟨one, two, ordinary⟩]
  · rw [parse_of_rootless rootless]
    simp [head?_of_ofText?_eq_none rootless]

/-- Writing and reading a joined path keeps its root. -/
theorem root_parse_join (style : Style) (parts : List Text) :
    (parse style (join style parts).value).root
      = (parse style (concatenate [style.separator] parts)).root := by
  have legible := legible_parse style (concatenate [style.separator] parts)
  have read := congrArg Path.root (parse_render legible.normalize)
  exact read

end Path

theorem isSeparator_backslash : isSeparator '\\' = true := rfl

/-- What is glued to the first part makes a network root of two separators, and of nothing else. -/
theorem opensNetwork_concatenate_iff (parts : List Text) :
    OpensNetwork (concatenate ['\\'] parts) ↔
      (∃ first later, parts.dropWhile List.isEmpty = first :: later ∧ OpensNetwork first) ∨
        CompletesPair parts := by
  rcases concatenate_cases isSeparator_backslash parts with
    ⟨none, empty⟩ | ⟨first, later, tail, found, started, same, continues⟩
  · simp [none, empty, CompletesPair, OpensNetwork]
  have named : isSeparatorPair first = true →
      (tail ≠ [] ↔ ∃ part ∈ later, components part ≠ []) := by
    intro pair
    have unnamed := continues.eq_nil_iff (endsWithSeparator_of_isSeparatorPair pair)
    rw [Ne, unnamed, List.flatMap_eq_nil_iff]
    simp
  rw [same, opensNetwork_append_iff started continues.single, and_congr_right named]
  simp [found, CompletesPair]

/-- Joining makes up no network root but the one that two separators alone are waiting for: the
joined text has a network root just if the first part that is not empty has one or is two
separators followed by a name. Likewise a bare root is kept but for these separators. -/
theorem hasNetworkRoot_join_iff (parts : List Text) :
    ((Path.parse .windows (concatenate ['\\'] parts)).hasNetworkRoot = true ↔
      (∃ first later, parts.dropWhile List.isEmpty = first :: later ∧
        (Path.parse .windows first).hasNetworkRoot = true) ∨ CompletesPair parts) ∧
    ((Path.parse .windows (join .windows parts).value).root = some ['\\'] ↔
      (∃ first later, parts.dropWhile List.isEmpty = first :: later ∧
        (Path.parse .windows first).root = some ['\\']) ∧ ¬ CompletesPair parts) := by
  constructor
  · rw [Path.hasNetworkRoot_parse_iff, opensNetwork_concatenate_iff]
    simp only [Path.hasNetworkRoot_parse_iff]
  · rw [Path.root_parse_join]
    show (Path.parse .windows (concatenate ['\\'] parts)).root = some ['\\'] ↔ _
    rw [Path.root_parse_eq_bare_iff, opensNetwork_concatenate_iff, not_or, ← and_assoc]
    apply and_congr_left
    intro _
    simp only [Path.root_parse_eq_bare_iff]
    rcases concatenate_cases isSeparator_backslash parts with
      ⟨none, empty⟩ | ⟨first, later, tail, found, started, same, continues⟩
    · simp [none, empty]
    · obtain ⟨c, rest, rfl⟩ := List.exists_cons_of_ne_nil started
      simp [found, same]

/-- Two separators are a bare root, and with a name glued to them they are none. -/
theorem join_separatorPair_ne_bare :
    (Path.parse .windows ['\\', '\\']).root = some ['\\'] ∧
      (Path.parse .windows ['\\', '\\']).hasNetworkRoot = false ∧
      (Path.parse .windows (concatenate ['\\'] [['\\', '\\'], "foo".toList])).hasNetworkRoot
        = true ∧
      (join .windows [['\\', '\\'], "foo".toList]).value = "\\\\foo\\".toList := by
  decide

end Pathwise
