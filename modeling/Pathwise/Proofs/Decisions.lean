import Pathwise.Proofs.Bases
import Pathwise.Proofs.Clamping

/-!
# The decisions behind a resolved path

Resolving records what it decides. The first record says where the path starts: at the last absolute
part, or at the current directory. The next one says that the directory is relative too, and that the
path starts from the bare root; it is decided on the text that the parts are glued to, but gluing
never makes a relative text absolute or an absolute one relative. After that there is one record for
each `..` at which no segment is left to remove, and no other record at all.
-/

namespace Pathwise

/-- The location that parts are resolved to is read from its text. -/
theorem root_parse_resolve (style : Style) (parts : List Text) (directory : Text) :
    (Path.parse style (resolve style parts directory).value).root
      = some (anchor style parts directory).value.root := by
  show (Path.parse style ((anchor style parts directory).value.render style)).root = _
  rw [(settled_anchor style parts directory).parse_render]
  rfl

/-- The decisions are recorded in three steps: where to start, whether to start from the bare root,
and what to discard on the way. -/
theorem decisions_resolve {style : Style} {parts starting : List Text} {directory : Text}
    {decisions : List Decision}
    (starts : startingParts style parts directory = ⟨starting, decisions⟩) :
    (resolve style parts directory).decisions
      = decisions
        ++ (if isAbsolute style (concatenate [style.separator] starting) then []
          else [.anchoredAtRoot directory])
        ++ List.replicate (Reduction.blockedClimbs
            (Path.parse style (concatenate [style.separator] starting)).segments)
          (.discardedAbove (anchor style parts directory).value.root) := by
  rw [← Reduction.discarded_ofSegments]
  simp only [resolve, Logged.decisions_map, anchor, starts]
  rfl

/-- Where the last absolute part is the start, nothing else has to be decided about it. -/
theorem decisions_resolve_of_absolute {style : Style} {part : Text} {later : List Text}
    (absolute : isAbsolute style part = true)
    (relative : ∀ other ∈ later, isAbsolute style other = false)
    (before : List Text) (directory : Text) :
    (resolve style (before ++ part :: later) directory).decisions
      = .stoppedAt part :: List.replicate (Reduction.blockedClimbs
          (Path.parse style (concatenate [style.separator] (part :: later))).segments)
        (.discardedAbove (anchor style (before ++ part :: later) directory).value.root) := by
  have starts : startingParts style (before ++ part :: later) directory
      = ⟨part :: later, [.stoppedAt part]⟩ := by
    rw [startingParts, lastAbsolute?_append_cons absolute relative]
  have glued : isAbsolute style (concatenate [style.separator] (part :: later)) = true := by
    rwa [isAbsolute_concatenate_cons (ne_nil_of_isAbsolute absolute)]
  rw [decisions_resolve starts, if_pos glued]
  rfl

/-- With relative parts behind it, a current directory stays relative or absolute as it is. -/
theorem isAbsolute_concatenate_directory {style : Style} {parts : List Text}
    (relative : ∀ part ∈ parts, isAbsolute style part = false) (directory : Text) :
    isAbsolute style (concatenate [style.separator] (directory :: parts))
      = isAbsolute style directory := by
  by_cases absolute : isAbsolute style directory = true
  · rw [isAbsolute_concatenate_cons (ne_nil_of_isAbsolute absolute)]
  · rw [Bool.eq_false_iff.mpr absolute]
    apply isAbsolute_concatenate_of_relative
    exact List.forall_mem_cons.mpr ⟨Bool.eq_false_iff.mpr absolute, relative⟩

theorem decisions_resolve_of_relative {style : Style} {parts : List Text}
    (relative : ∀ part ∈ parts, isAbsolute style part = false) (directory : Text) :
    (resolve style parts directory).decisions
      = .anchoredTo directory
        :: (if isAbsolute style directory then [] else [.anchoredAtRoot directory])
        ++ List.replicate (Reduction.blockedClimbs
            (Path.parse style (concatenate [style.separator] (directory :: parts))).segments)
          (.discardedAbove (anchor style parts directory).value.root) := by
  have starts : startingParts style parts directory
      = ⟨directory :: parts, [.anchoredTo directory]⟩ := by
    rw [startingParts, lastAbsolute?_eq_none_iff.mpr relative]
  rw [decisions_resolve starts, isAbsolute_concatenate_directory relative]
  rfl

/-- The records of resolving, as they are logged, and in order. If a part is absolute, the last such
part is named; otherwise the current directory is, and named once more if it is not absolute. Then,
for each `..` of the glued parts that finds nothing left to remove, the root of the answer is
named. -/
theorem messages_resolve (style : Style) (parts : List Text) (directory : Text) :
    ∃ root, (Path.parse style (resolve style parts directory).value).root = some root ∧
      ((∃ before part later, parts = before ++ part :: later ∧ isAbsolute style part = true ∧
          (∀ other ∈ later, isAbsolute style other = false) ∧
          let path := Path.parse style (concatenate [style.separator] (part :: later))
          (resolve style parts directory).decisions.map Decision.message
            = ("Stopping at absolute part ".toList ++ part.quoted)
              :: List.replicate (Reduction.blockedClimbs path.segments)
                ("Discarding '..' above root ".toList ++ root.quoted)) ∨
        ((∀ part ∈ parts, isAbsolute style part = false) ∧
          let path := Path.parse style (concatenate [style.separator] (directory :: parts))
          (resolve style parts directory).decisions.map Decision.message
            = ("Anchoring to current directory ".toList ++ directory.quoted)
              :: (if isAbsolute style directory then []
                else ["Current directory ".toList ++ directory.quoted
                  ++ " is not absolute, anchoring at root".toList])
              ++ List.replicate (Reduction.blockedClimbs path.segments)
                ("Discarding '..' above root ".toList ++ root.quoted))) := by
  refine ⟨_, root_parse_resolve style parts directory, ?_⟩
  cases found : lastAbsolute? style parts with
  | some last =>
    obtain ⟨part, later⟩ := last
    obtain ⟨before, rfl, absolute, relative⟩ := lastAbsolute?_eq_some_iff.mp found
    refine .inl ⟨before, part, later, rfl, absolute, relative, ?_⟩
    rw [decisions_resolve_of_absolute absolute relative, List.map_cons, List.map_replicate]
    rfl
  | none =>
    have relative := lastAbsolute?_eq_none_iff.mp found
    refine .inr ⟨relative, ?_⟩
    rw [decisions_resolve_of_relative relative, List.map_append, List.map_cons,
      List.map_replicate]
    split <;> rfl

/-- The relative directory is removed by the first `..`, and the second one finds nothing. -/
example :
    (resolve .posix ["..".toList, "../a".toList] "x".toList).decisions
      = [.anchoredTo "x".toList, .anchoredAtRoot "x".toList, .discardedAbove "/".toList] := by
  decide

end Pathwise
