import Pathwise.Location
import Pathwise.Proofs.Legibility

/-!
# What anchoring gives

Anchoring gives a settled location: its root is one of the style and it leads through ordinary
names only. A location is settled just by being the normal form of a legible absolute path.
Parts that are relative on their own have no say in where a location starts.
-/

namespace Pathwise

/-- A location that is written and read back, and that holds neither `.` nor `..`. -/
structure Location.Settled (style : Style) (location : Location) : Prop where
  legible : location.toPath.Legible style
  isOrdinary : ∀ name ∈ location.segments, IsOrdinary name

namespace Location

theorem Settled.isName {style : Style} {location : Location} (settled : location.Settled style) :
    ∀ name ∈ location.segments, IsName name :=
  settled.legible.isName

theorem Settled.normalize_toPath {style : Style} {location : Location}
    (settled : location.Settled style) : location.toPath.normalize = location.toPath := by
  rw [toPath, Path.normalize_of_root, Reduction.ofSegments,
    Reduction.foldl_step_of_isOrdinary settled.isOrdinary]
  simp [Reduction.start]

/-- A location has no guard, so its text is read back exactly. -/
theorem Settled.parse_render {style : Style} {location : Location}
    (settled : location.Settled style) :
    Path.parse style (location.render style) = location.toPath := by
  have read := Path.parse_render settled.legible
  rw [render, read]
  simp [toPath, Path.guarded, Path.needsGuard, Path.isAbsolute]

/-- The place that segments lead to from a root that can be followed by them. -/
theorem settled_ofSegments {style : Style} {written : Text} {segments : List Text}
    (legible : (Path.mk (some written) segments false).Legible style) :
    (ofSegments written segments).value.Settled style := by
  constructor
  · rw [toPath_ofSegments written segments false]
    exact legible.normalize
  · intro name member
    have settled := Reduction.settled_ofSegments true segments
    exact settled.isOrdinary name (List.mem_reverse.mp member)

/-- More segments are carried out from the place that the first ones lead to. -/
theorem value_ofSegments_append {written : Text} {before after arrived : List Text}
    (arrives : after.foldl (Reduction.step true)
        ⟨(ofSegments written before).value.segments.reverse,
          (Reduction.ofSegments true before).discarded⟩
      = ⟨arrived.reverse, (Reduction.ofSegments true before).discarded⟩) :
    (ofSegments written (before ++ after)).value = ⟨written, arrived⟩ := by
  have start : (ofSegments written before).value.segments.reverse
      = (Reduction.ofSegments true before).stack := List.reverse_reverse _
  rw [start] at arrives
  simp only [ofSegments, Reduction.ofSegments_append, arrives, Reduction.segments,
    List.reverse_reverse]

/-- It does not matter whether the first ones have been carried out before. -/
theorem value_ofSegments_segments_append (written : Text) (before after : List Text) :
    (ofSegments written ((Reduction.ofSegments true before).segments ++ after)).value
      = (ofSegments written (before ++ after)).value := by
  have left := Reduction.stack_ofSegments_segments_append true before after
  simp only [ofSegments, Reduction.segments] at left ⊢
  rw [left]

end Location

theorem value_anchor (style : Style) (parts : List Text) (directory : Text) :
    (anchor style parts directory).value =
      let path := Path.parse style
        (concatenate [style.separator] (startingParts style parts directory).value)
      (Location.ofSegments (path.root.getD [style.separator]) path.segments).value := rfl

theorem settled_anchor (style : Style) (parts : List Text) (directory : Text) :
    (anchor style parts directory).value.Settled style := by
  rw [value_anchor]
  have legible := Path.legible_parse style
    (concatenate [style.separator] (startingParts style parts directory).value)
  generalize Path.parse style _ = path at legible ⊢
  refine Location.settled_ofSegments ⟨legible.isName, ?_⟩
  rintro _ ⟨⟩
  obtain ⟨root, segments, trailing⟩ := path
  cases root with
  | some written => exact legible.admitted written rfl
  | none => exact ⟨.bare, rfl, trivial⟩

/-- Resolving always gives an absolute text. -/
theorem isAbsolute_resolve (style : Style) (parts : List Text) (directory : Text) :
    isAbsolute style (resolve style parts directory).value = true := by
  show (Path.parse style ((anchor style parts directory).value.render style)).isAbsolute = true
  rw [(settled_anchor style parts directory).parse_render]
  rfl

/-! ### Texts with a root -/

theorem isAbsolute_of_reads {style : Style} {raw : Text} {root : Root} {segments : List Text}
    (reads : Root.Reads style raw root segments) : isAbsolute style raw = true := by
  simp [isAbsolute, Path.parse_of_reads reads, Path.isAbsolute]

theorem exists_reads_of_isAbsolute {style : Style} {raw : Text}
    (absolute : isAbsolute style raw = true) :
    ∃ root segments, Root.Reads style raw root segments := by
  rcases Root.exists_reads_or_eq_none style raw with found | rootless
  · exact found
  · simp [isAbsolute, Path.parse_of_rootless rootless, Path.isAbsolute] at absolute

theorem Root.Reads.ne_nil {style : Style} {raw : Text} {root : Root} {segments : List Text}
    (reads : Root.Reads style raw root segments) : raw ≠ [] := by
  cases reads <;> simp

theorem Root.Reads.settled {style : Style} {raw : Text} {root : Root} {segments : List Text}
    (reads : Reads style raw root segments) :
    (Location.ofSegments (root.text style) segments).value.Settled style := by
  refine Location.settled_ofSegments ⟨reads.admits.2, ?_⟩
  rintro _ ⟨⟩
  exact ⟨root, rfl, reads.admits.1⟩

/-- An absolute text is anchored to itself. -/
theorem value_anchor_of_reads {style : Style} {raw : Text} {root : Root} {segments : List Text}
    (reads : Root.Reads style raw root segments) (directory : Text) :
    (anchor style [raw] directory).value
      = (Location.ofSegments (root.text style) segments).value := by
  have starting : (startingParts style [raw] directory).value = [raw] := by
    simp [startingParts, lastAbsolute?, isAbsolute_of_reads reads]
  rw [value_anchor, starting, concatenate_singleton, Path.parse_of_reads reads]
  rfl

/-- The normal form of an absolute text is the text of a location. -/
theorem value_normalize_of_reads {style : Style} {raw : Text} {root : Root}
    {segments : List Text} (reads : Root.Reads style raw root segments) :
    (normalize style raw).value
      = (Location.ofSegments (root.text style) segments).value.render style := by
  rw [Location.render, Location.toPath_ofSegments _ _ false, normalize,
    Path.parse_of_reads reads, Path.normalize_of_root, Path.normalize_of_root]

/-- Parts that make an absolute text are joined to a location. -/
theorem value_join_of_reads {style : Style} {parts : List Text} {root : Root}
    {segments : List Text}
    (reads : Root.Reads style (concatenate [style.separator] parts) root segments) :
    (join style parts).value
      = (Location.ofSegments (root.text style) segments).value.render style :=
  value_normalize_of_reads reads

/-- Two parts are read like the first one, with the names of the second one added, unless the first
one stops inside its root. -/
theorem reads_concatenate_pair {style : Style} {raw : Text} {root : Root} {segments : List Text}
    (reads : Root.Reads style raw root segments)
    (complete : style = .windows → Root.stopsInside raw = false) (part : Text) :
    Root.Reads style (concatenate [style.separator] [raw, part]) root
      (segments ++ components part) := by
  obtain ⟨tail, same, continues⟩ :=
    exists_concatenate_cons_eq (Root.isSeparator_separator style) reads.ne_nil [part]
  rw [List.flatMap_singleton] at continues
  rw [same]
  exact reads.append continues complete

/-! ### Where a location starts -/

/-- A part counts only if no later one is absolute. -/
theorem lastAbsolute?_cons (style : Style) (part : Text) (later : List Text) :
    lastAbsolute? style (part :: later)
      = (lastAbsolute? style later).or
          (if isAbsolute style part then some (part, later) else none) := by
  rw [lastAbsolute?]
  cases lastAbsolute? style later with
  | none => rfl
  | some found => rfl

/-- The last absolute part of the later parts is the last one of all. -/
theorem lastAbsolute?_append (style : Style) (parts later : List Text) :
    lastAbsolute? style (parts ++ later)
      = (lastAbsolute? style later).or
          ((lastAbsolute? style parts).map fun found => (found.1, found.2 ++ later)) := by
  induction parts with
  | nil => simp [lastAbsolute?]
  | cons part parts ih =>
    rw [List.cons_append, lastAbsolute?_cons, lastAbsolute?_cons, ih, Option.or_assoc,
      Option.map_or]
    split <;> rfl

theorem lastAbsolute?_eq_none_iff {style : Style} {parts : List Text} :
    lastAbsolute? style parts = none ↔ ∀ part ∈ parts, isAbsolute style part = false := by
  induction parts with
  | nil => simp [lastAbsolute?]
  | cons part parts ih =>
    rw [lastAbsolute?_cons, Option.or_eq_none_iff, ih, List.forall_mem_cons, and_comm]
    simp

theorem value_startingParts_append {style : Style} {later : List Text}
    (relative : ∀ part ∈ later, isAbsolute style part = false) (parts : List Text)
    (directory : Text) :
    (startingParts style (parts ++ later) directory).value
      = (startingParts style parts directory).value ++ later := by
  simp only [startingParts, lastAbsolute?_append, lastAbsolute?_eq_none_iff.mpr relative,
    Option.none_or]
  cases lastAbsolute? style parts with
  | none => rfl
  | some found => rfl

/-! ### The one root of the POSIX style -/

theorem parse_posix (raw : Text) :
    (Path.parse .posix raw).root.getD ['/'] = ['/'] ∧
      (Path.parse .posix raw).segments = components raw := by
  rcases Root.exists_reads_or_eq_none .posix raw with ⟨root, segments, reads⟩ | rootless
  · rw [Path.parse_of_reads reads]
    cases reads with
    | bare rooted => exact ⟨rfl, (components_cons_separator rooted _).symm⟩
  · rw [Path.parse_of_rootless rootless]
    exact ⟨rfl, rfl⟩

theorem root_parse_posix (raw : Text) :
    (Path.parse .posix raw).root = if isAbsolute .posix raw then some ['/'] else none := by
  have written := (parse_posix raw).1
  unfold isAbsolute Path.isAbsolute
  cases root : (Path.parse .posix raw).root with
  | none => rfl
  | some text =>
    rw [root, Option.getD_some] at written
    simp [written]

/-- Under the POSIX style a location is reached from `/` through all components of the parts that
it starts with. -/
theorem value_anchor_posix (parts : List Text) (directory : Text) :
    (anchor .posix parts directory).value
      = (Location.ofSegments ['/']
          ((startingParts .posix parts directory).value.flatMap components)).value := by
  obtain ⟨root, segments⟩ :=
    parse_posix (concatenate ['/'] (startingParts .posix parts directory).value)
  rw [components_concatenate rfl] at segments
  rw [← segments]
  exact congrArg (fun written => (Location.ofSegments written _).value) root

end Pathwise
