import Pathwise.Proofs.Calls
import Pathwise.Proofs.Decisions
import Pathwise.Proofs.Quotations

/-!
# The records of a call

A call records each decision that it takes. A record consists of fixed words and of quotations, so
that all of it is printable, whatever the paths and the current directory hold: no path can end the
line that a record stands on, or colour it, or start a record of its own. And a record tells one
text from another, because quotations do: two paths that start at different absolute parts are told
apart by the one record that names the part.
-/

namespace Pathwise

/-! ### Records and lines -/

/-- What a call records, in order. A call without an answer records nothing. -/
def Context.records (context : Context) (operation : Operation) (arguments : List Value) :
    List Text :=
  match (context.call operation arguments).1 with
  | .ok answer => answer.decisions.map Decision.message
  | .error _ => []

namespace Text

/-- The characters that may be taken for the end of a line: line feed to carriage return, the
separators of files, groups and records, the next line, and the separators of lines and
paragraphs. -/
def lineBreaks : Spans := [(0xA, 0xD), (0x1C, 0x1E), (0x85, 0x85), (0x2028, 0x2029)]

/-- The lines of a text if each of these characters ends one. -/
def apparentLines (text : Text) : List Text :=
  text.splitOnP lineBreaks.contains

theorem isPrintable_of_lineBreaks_contains {c : Char} (breaks : lineBreaks.contains c = true) :
    isPrintable c = false := by
  have covered : ∀ span ∈ lineBreaks, ∃ wider ∈ unprintable,
      wider.1 ≤ span.1 ∧ span.2 ≤ wider.2 := by decide +kernel
  obtain ⟨span, member, least, greatest⟩ := Spans.contains_iff.mp breaks
  obtain ⟨wider, held, before, after⟩ := covered span member
  rw [isPrintable, Bool.not_eq_false']
  exact Spans.contains_iff.mpr ⟨wider, held, before.trans least, greatest.trans after⟩

/-- A printable text is a single line. -/
theorem Printable.apparentLines_eq {text : Text} (printable : text.Printable) :
    text.apparentLines = [text] := by
  apply List.splitOnP_eq_singleton
  intro c member
  rw [Bool.eq_false_iff]
  intro breaks
  cases (printable c member).symm.trans (isPrintable_of_lineBreaks_contains breaks)

end Text

/-- The words of a message are printable, and so are its quotations. -/
theorem Decision.printable_message (decision : Decision) : decision.message.Printable := by
  cases decision with
  | stoppedAt part =>
    exact .append (Text.printable_of_ascii (by decide +kernel)) part.printable_quoted
  | anchoredTo directory =>
    exact .append (Text.printable_of_ascii (by decide +kernel)) directory.printable_quoted
  | anchoredAtRoot directory =>
    refine .append (.append ?_ directory.printable_quoted) ?_
    all_goals exact Text.printable_of_ascii (by decide +kernel)
  | discardedAbove root =>
    exact .append (Text.printable_of_ascii (by decide +kernel)) root.printable_quoted
  | noRoute source target =>
    refine .append (.append (.append ?_ source.printable_quoted) ?_) target.printable_quoted
    all_goals exact Text.printable_of_ascii (by decide +kernel)

theorem Context.exists_message_of_mem_records {context : Context} {operation : Operation}
    {arguments : List Value} {record : Text}
    (member : record ∈ context.records operation arguments) :
    ∃ decision : Decision, decision.message = record := by
  unfold records at member
  split at member
  · next answer _ =>
    obtain ⟨decision, -, same⟩ := List.mem_map.mp member
    exact ⟨decision, same⟩
  · cases member

/-! ### The record of where a path starts -/

/-- Of several parts, the last one that is absolute. -/
def IsLastAbsolute (style : Style) (parts : List Text) (part : Text) : Prop :=
  ∃ before later, parts = before ++ part :: later ∧ isAbsolute style part = true ∧
    ∀ other ∈ later, isAbsolute style other = false

/-- Whether a record says that a path starts at an absolute part. -/
def tellsStop (record : Text) : Bool :=
  "Stopping at absolute part ".toList.isPrefixOf record

theorem tellsStop_message_stoppedAt (part : Text) :
    tellsStop (Decision.message (.stoppedAt part)) = true :=
  List.isPrefixOf_iff_prefix.mpr (List.prefix_append _ part.quoted)

theorem tellsStop_message_discardedAbove (root : Text) :
    tellsStop (Decision.message (.discardedAbove root)) = false := rfl

/-- If the current directory can be read, resolving parts records what decides the path. -/
theorem Context.records_resolve {context : Context} {directory : Text}
    (found : context.directory.next = some directory) {parts : List Text} (filled : parts ≠ []) :
    context.records .resolve (parts.map .text)
      = (resolve context.style parts directory).decisions.map Decision.message := by
  obtain ⟨first, others, rfl⟩ := List.exists_cons_of_ne_nil filled
  have answered := fst_call_of_makes (Operation.Makes.resolve first others) fun _ => found
  simp only [records, List.map_cons, answered]
  rfl

/-- One record names an absolute part, and it names the last one. -/
theorem Context.filter_tellsStop_records_resolve {context : Context} {directory : Text}
    (found : context.directory.next = some directory) {parts : List Text} {part : Text}
    (last : IsLastAbsolute context.style parts part) :
    (context.records .resolve (parts.map .text)).filter tellsStop
      = [Decision.message (.stoppedAt part)] := by
  obtain ⟨before, later, rfl, absolute, relative⟩ := last
  rw [records_resolve found (by simp), decisions_resolve_of_absolute absolute relative,
    List.map_cons, List.map_replicate, List.filter_cons_of_pos (tellsStop_message_stoppedAt part),
    List.filter_replicate_of_neg]
  rw [tellsStop_message_discardedAbove]
  exact Bool.false_ne_true

theorem message_stoppedAt_inj {part other : Text} :
    Decision.message (.stoppedAt part) = Decision.message (.stoppedAt other) ↔ part = other := by
  constructor
  · intro same
    exact Text.quoted_injective (List.append_cancel_left same)
  · rintro rfl
    rfl

/-- Every record of every call is printable and stands on one line. If parts are resolved of which
one is absolute or more, one record says that the path starts at an absolute part, and in two calls
these records are the same just if the last absolute parts are. -/
theorem printable_records_and_stops_eq_iff :
    (∀ (context : Context) (operation : Operation) (arguments : List Value),
      ∀ record ∈ context.records operation arguments,
        record.Printable ∧ record.apparentLines = [record]) ∧
      ∀ (context other : Context) (directory otherDirectory : Text) (parts otherParts : List Text)
        (part otherPart : Text),
        context.directory.next = some directory → other.directory.next = some otherDirectory →
        IsLastAbsolute context.style parts part →
        IsLastAbsolute other.style otherParts otherPart →
        ∃ record otherRecord,
          (context.records .resolve (parts.map .text)).filter tellsStop = [record] ∧
          (other.records .resolve (otherParts.map .text)).filter tellsStop = [otherRecord] ∧
          (record = otherRecord ↔ part = otherPart) := by
  constructor
  · intro context operation arguments record member
    obtain ⟨decision, rfl⟩ := Context.exists_message_of_mem_records member
    have printable := decision.printable_message
    exact ⟨printable, printable.apparentLines_eq⟩
  · intro context other directory otherDirectory parts otherParts part otherPart found otherFound
      last otherLast
    exact ⟨_, _, Context.filter_tellsStop_records_resolve found last,
      Context.filter_tellsStop_records_resolve otherFound otherLast, message_stoppedAt_inj⟩

/-- A line separator in a path, and the escape that it is recorded as in another path. -/
theorem printable_records_line_separator :
    let context : Context := ⟨.posix, .constant "/".toList⟩
    let record : Text := "Stopping at absolute part '/a\\u2028b'".toList
    (record ∈ context.records .resolve [.text "x".toList, .text "/a\u2028b".toList] ∧
      record.Printable ∧ record.apparentLines = [record]) ∧
    IsLastAbsolute .posix ["x".toList, "/a\u2028b".toList] "/a\u2028b".toList ∧
    IsLastAbsolute .posix ["/a\\u2028b".toList] "/a\\u2028b".toList ∧
    ∃ first second,
      (context.records .resolve [.text "x".toList, .text "/a\u2028b".toList]).filter tellsStop
        = [first] ∧
      (context.records .resolve [.text "/a\\u2028b".toList]).filter tellsStop = [second] ∧
      first ≠ second := by
  intro context record
  have member :
      record ∈ context.records .resolve [.text "x".toList, .text "/a\u2028b".toList] := by
    decide +kernel
  have separator :
      IsLastAbsolute .posix ["x".toList, "/a\u2028b".toList] "/a\u2028b".toList :=
    ⟨["x".toList], [], rfl, by decide, List.forall_mem_nil _⟩
  have escape : IsLastAbsolute .posix ["/a\\u2028b".toList] "/a\\u2028b".toList :=
    ⟨[], [], rfl, by decide, List.forall_mem_nil _⟩
  obtain ⟨legible, apart⟩ := printable_records_and_stops_eq_iff
  obtain ⟨first, second, one, two, same⟩ :=
    apart context context "/".toList "/".toList _ _ _ _ rfl rfl separator escape
  exact ⟨⟨member, legible context .resolve _ record member⟩, separator, escape, first, second, one,
    two, fun equal => absurd (same.mp equal) (by decide +kernel)⟩

end Pathwise
