import Pathwise.Proofs.Routes

/-!
# Round trips along relative routes

Joining a path with the route to another one leads to that other one. Under the POSIX style this
holds for all texts. Under the Windows style the result may differ in case from the target, because
shared names keep the spelling of the starting path; and it holds just if the starting path does not
stop inside its root, because otherwise the first name of the route is taken for a host or a share.
-/

namespace Pathwise

/-- Paths whose roots and segments are equal one by one as the style compares them. -/
def Path.Similar (style : Style) (path other : Path) : Prop :=
  path.root.map (comparable style) = other.root.map (comparable style) ∧
    path.segments.map (comparable style) = other.segments.map (comparable style)

instance (style : Style) (path other : Path) : Decidable (path.Similar style other) :=
  inferInstanceAs (Decidable (_ ∧ _))

theorem Location.similar_toPath_iff {style : Style} {location other : Location} :
    location.toPath.Similar style other.toPath ↔
      comparable style location.root = comparable style other.root ∧
        location.names style = other.names style := by
  simp [Path.Similar, toPath, names]

/-- Gluing the route to a text that reads as an absolute path arrives at a location on the same root
whose segments are those of the target, up to the comparison of the style. -/
theorem exists_value_join_relative {style : Style} {source target directory : Text} {root : Root}
    {segments : List Text} (reads : Root.Reads style source root segments)
    (complete : style = .windows → Root.stopsInside source = false)
    (roots : comparable style (anchor style [source] directory).value.root
      = comparable style (anchor style [target] directory).value.root) :
    ∃ location : Location, location.Settled style ∧ location.root = root.text style ∧
      location.segments.map (comparable style)
        = (anchor style [target] directory).value.segments.map (comparable style) ∧
      (join style [source, (relative style source target directory).value]).value
        = location.render style := by
  obtain ⟨arrived, arrives, alike⟩ :=
    exists_foldl_step_relative roots (Reduction.ofSegments true segments).discarded
  rw [value_anchor_of_reads reads] at arrives
  have together := Location.value_ofSegments_append arrives
  have reads' :=
    reads_concatenate_pair reads complete (relative style source target directory).value
  refine ⟨⟨root.text style, arrived⟩, ?_, rfl, alike, ?_⟩
  · rw [← together]
    exact reads'.settled
  · rw [value_join_of_reads reads', together]

/-! ### The POSIX style -/

theorem root_anchor_posix (parts : List Text) (directory : Text) :
    (anchor .posix parts directory).value.root = ['/'] := by
  rw [value_anchor_posix]
  rfl

/-- Any two places have a route between them. -/
theorem comparable_root_anchor_posix (source target directory : Text) :
    comparable .posix (anchor .posix [source] directory).value.root
      = comparable .posix (anchor .posix [target] directory).value.root := by
  rw [root_anchor_posix, root_anchor_posix]

/-- Under the POSIX style what is similar is equal. -/
theorem map_comparable_posix (names : List Text) : names.map (comparable .posix) = names :=
  List.map_id names

theorem anchor_posix_of_segments_eq {parts names : List Text} {directory : Text}
    (same : names = (anchor .posix parts directory).value.segments) :
    ⟨['/'], names⟩ = (anchor .posix parts directory).value := by
  rw [same, ← root_anchor_posix parts directory]

/-- From wherever the source is anchored, the route arrives at the target's location. -/
theorem value_anchor_relative_posix (source target directory : Text) :
    (anchor .posix [source, (relative .posix source target directory).value] directory).value
      = (anchor .posix [target] directory).value := by
  have roots := comparable_root_anchor_posix source target directory
  generalize same : (relative .posix source target directory).value = route
  have climbs : ∀ part ∈ [route], isAbsolute .posix part = false :=
    List.forall_mem_singleton.mpr (same ▸ isAbsolute_relative roots)
  have starting : (startingParts .posix [source, route] directory).value
      = (startingParts .posix [source] directory).value ++ [route] :=
    value_startingParts_append climbs [source] directory
  obtain ⟨arrived, arrives, alike⟩ := exists_foldl_step_relative roots
    (Reduction.ofSegments true
      ((startingParts .posix [source] directory).value.flatMap components)).discarded
  rw [map_comparable_posix, map_comparable_posix] at alike
  rw [value_anchor_posix [source], same] at arrives
  rw [value_anchor_posix, starting, List.flatMap_append, List.flatMap_singleton,
    Location.value_ofSegments_append arrives]
  exact anchor_posix_of_segments_eq alike

/-- Under the POSIX style a route that is followed from its source resolves to its target, whatever
the texts and the current directory are; and from an absolute source it also joins to it. -/
theorem value_resolve_relative_posix (source target directory : Text) :
    (resolve .posix [source, (relative .posix source target directory).value] directory).value
        = (resolve .posix [target] directory).value ∧
      (isAbsolute .posix source = true →
        (join .posix [source, (relative .posix source target directory).value]).value
          = (resolve .posix [target] directory).value) := by
  constructor
  · exact congrArg (Location.render .posix) (value_anchor_relative_posix source target directory)
  · intro absolute
    obtain ⟨root, segments, reads⟩ := exists_reads_of_isAbsolute absolute
    obtain ⟨⟨written, arrived⟩, -, atRoot, alike, joined⟩ := exists_value_join_relative reads nofun
      (comparable_root_anchor_posix source target directory)
    rw [map_comparable_posix, map_comparable_posix] at alike
    obtain rfl : written = ['/'] := by
      rw [show written = root.text .posix from atRoot]
      cases reads with
      | bare => rfl
    rw [joined, anchor_posix_of_segments_eq alike]
    rfl

/-- From `/a/./b` up to the parent of both and, by a target that is not absolute, down again. -/
theorem value_join_relative_sibling :
    isAbsolute .posix "/a/./b".toList = true ∧
      (join .posix ["/a/./b".toList,
          (relative .posix "/a/./b".toList "../c//d".toList "/a/e".toList).value]).value
        = "/a/c/d".toList := by
  have joins := (value_resolve_relative_posix "/a/./b".toList "../c//d".toList "/a/e".toList).2
    (by decide)
  exact ⟨by decide, joins.trans (by decide)⟩

/-! ### The Windows style -/

/-- Writing a location and reading it again does not change what it is similar to. -/
theorem Location.Settled.similar_iff {style : Style} {location other : Location}
    (settled : location.Settled style) (settled' : other.Settled style) :
    Path.Similar style (Path.parse style (location.render style))
        (Path.parse style (other.render style)) ↔
      comparable style location.root = comparable style other.root ∧
        location.names style = other.names style := by
  rw [settled.parse_render, settled'.parse_render]
  exact Location.similar_toPath_iff

/-- Where a text stops inside its root, the first name of the route prolongs the root. -/
theorem exists_value_join_longer {source target directory : Text} {root : Root}
    {segments : List Text} (reads : Root.Reads .windows source root segments)
    (stops : Root.stopsInside source = true)
    (roots : comparable .windows (anchor .windows [source] directory).value.root
      = comparable .windows (anchor .windows [target] directory).value.root) :
    ∃ (location : Location) (more : Text), location.Settled .windows ∧
      location.root = root.text .windows ++ more ∧ more ≠ [] ∧
      (join .windows [source, (relative .windows source target directory).value]).value
        = location.render .windows := by
  generalize same : (relative .windows source target directory).value = route
  have named : [route].flatMap components ≠ [] := by
    rw [List.flatMap_singleton]
    exact same ▸ components_relative_ne_nil roots
  obtain ⟨tail, glued, continues⟩ := exists_concatenate_cons_eq
    (Root.isSeparator_separator .windows) reads.ne_nil [route]
  obtain ⟨other, others, more, reads', longer, filled⟩ :=
    reads.exists_longer continues named stops
  rw [← glued] at reads'
  exact ⟨_, more, reads'.settled, longer, filled, value_join_of_reads reads'⟩

/-- Under the Windows style, joining an absolute path with the route to another one on the same root
leads to that other one, up to case, just if the path does not stop inside its root: if it is
neither two separators alone nor a host without a share. -/
theorem similar_join_relative_iff {source target directory : Text}
    (absolute : isAbsolute .windows source = true)
    (roots : comparable .windows (anchor .windows [source] directory).value.root
      = comparable .windows (anchor .windows [target] directory).value.root) :
    Path.Similar .windows
        (Path.parse .windows
          (join .windows [source, (relative .windows source target directory).value]).value)
        (Path.parse .windows (resolve .windows [target] directory).value) ↔
      Root.stopsInside source = false := by
  obtain ⟨root, segments, reads⟩ := exists_reads_of_isAbsolute absolute
  have goal := settled_anchor .windows [target] directory
  have ofSource : comparable .windows (root.text .windows)
      = comparable .windows (anchor .windows [target] directory).value.root := by
    rw [← roots, value_anchor_of_reads reads]
    rfl
  show Path.Similar .windows (Path.parse .windows _)
    (Path.parse .windows ((anchor .windows [target] directory).value.render .windows)) ↔ _
  constructor
  · intro similar
    by_contra stops
    obtain ⟨location, more, settled, longer, filled, joined⟩ :=
      exists_value_join_longer reads (Bool.of_not_eq_false stops) roots
    rw [joined, settled.similar_iff goal, longer, ← ofSource] at similar
    have grows := Text.length_lower_lt_append (root.text .windows) filled
    exact absurd (congrArg List.length similar.1) (Nat.ne_of_gt grows)
  · intro complete
    obtain ⟨location, settled, atRoot, alike, joined⟩ :=
      exists_value_join_relative reads (fun _ => complete) roots
    rw [joined, settled.similar_iff goal, atRoot]
    exact ⟨ofSource, alike⟩

/-- The share is written in two ways, and the route starts with a name that looks like a drive. -/
theorem similar_join_relative_share :
    isAbsolute .windows "//Srv/A/x".toList = true ∧
      comparable .windows (anchor .windows ["//Srv/A/x".toList] []).value.root
        = comparable .windows (anchor .windows ["\\\\srv\\a\\X\\c:y".toList] []).value.root ∧
      Path.Similar .windows
        (Path.parse .windows (join .windows ["//Srv/A/x".toList,
          (relative .windows "//Srv/A/x".toList "\\\\srv\\a\\X\\c:y".toList []).value]).value)
        (Path.parse .windows (resolve .windows ["\\\\srv\\a\\X\\c:y".toList] []).value) := by
  have absolute : isAbsolute .windows "//Srv/A/x".toList = true := by decide
  have roots : comparable .windows (anchor .windows ["//Srv/A/x".toList] []).value.root
      = comparable .windows (anchor .windows ["\\\\srv\\a\\X\\c:y".toList] []).value.root := by
    decide +kernel
  exact ⟨absolute, roots, (similar_join_relative_iff absolute roots).mpr (by decide)⟩

/-- From a host to itself the route is `.`, which is taken for a share. -/
theorem not_similar_join_relative_host :
    isAbsolute .windows "\\\\server".toList = true ∧
      comparable .windows (anchor .windows ["\\\\server".toList] "C:\\".toList).value.root
        = "\\\\server\\".toList ∧
      ¬ Path.Similar .windows
        (Path.parse .windows (join .windows ["\\\\server".toList,
          (relative .windows "\\\\server".toList "\\\\server".toList "C:\\".toList).value]).value)
        (Path.parse .windows
          (resolve .windows ["\\\\server".toList] "C:\\".toList).value) := by
  decide +kernel

end Pathwise
