import Mathlib.Data.List.TakeWhile
import Pathwise.Session

/-!
# The names of the styles

A style is known by a few names, which may be written in letters of either case and with blanks
around them. Nothing else names a style. Names are compared after lowercasing, and beyond ASCII two
characters come near its letters: the dotted capital I becomes an i with a mark of its own, and the
Kelvin sign becomes a k. But no style has a mark or a k in its name.

Whether a style is given to a configuration, to a context or by the environment, it is looked up in
the same way.
-/

namespace Pathwise

namespace Text

/-! ### What is lowercased to a given letter -/

/-- The letters a to z and the digits, without the k, which is also the lowercase form of a
character beyond ASCII. -/
def IsPlain (x : Char) : Prop :=
  (x.isLower = true ∨ x.isDigit = true) ∧ x ≠ 'k'

instance (x : Char) : Decidable (IsPlain x) :=
  inferInstanceAs (Decidable (_ ∧ _))

theorem IsPlain.bounds {x : Char} (plain : IsPlain x) : 0x30 ≤ x.toNat ∧ x.toNat < 0x80 := by
  obtain ⟨lower | digit, -⟩ := plain
  · obtain ⟨low, high⟩ := (Bool.and_eq_true _ _).mp lower
    have low : 0x61 ≤ x.toNat := of_decide_eq_true low
    have high : x.toNat ≤ 0x7A := of_decide_eq_true high
    omega
  · obtain ⟨low, high⟩ := (Bool.and_eq_true _ _).mp digit
    have low : 0x30 ≤ x.toNat := of_decide_eq_true low
    have high : x.toNat ≤ 0x39 := of_decide_eq_true high
    omega

theorem toLower_eq_self {c : Char} (other : ¬ (0x41 ≤ c.toNat ∧ c.toNat ≤ 0x5A)) :
    c.toLower = c :=
  dif_neg fun ⟨low, high⟩ => other ⟨low, high⟩

/-- Within ASCII a character is lowercased by itself, and to one character. -/
theorem lowerChar_of_ascii {c : Char} (ascii : c.toNat < 0x80) : lowerChar c = [c.toLower] := by
  have checked : ∀ code < 0x80, (Char.ofNat code).toLower
      = if 0x41 ≤ code ∧ code ≤ 0x5A then Char.ofNat (code + 32) else Char.ofNat code := by
    decide
  have first : lowercaseRuns = ⟨0x41, 0x5A, 1, 32⟩ :: lowercaseRuns.tail := rfl
  have others : ∀ run ∈ lowercaseRuns.tail, 0x80 ≤ run.first := by decide +kernel
  have missed : lowercaseRuns.tail.findSome? (·.map? c.toNat) = none := by
    rw [List.findSome?_eq_none_iff]
    intro run member
    refine if_neg ?_
    rintro ⟨reached, -⟩
    have beyond := others run member
    omega
  have dotless : c ≠ '\u0130' := by
    rintro rfl
    exact absurd ascii (by decide)
  have lower := checked c.toNat ascii
  rw [Char.ofNat_toNat] at lower
  rw [lowerChar, if_neg dotless, first, List.findSome?_cons, missed, CaseRun.map?, lower]
  simp only [Nat.mod_one, and_true]
  by_cases capital : 0x41 ≤ c.toNat ∧ c.toNat ≤ 0x5A
  · simp only [if_pos capital]
    rfl
  · simp only [if_neg capital]

theorem toNat_ofNat_cases (code : Nat) :
    (Char.ofNat code).toNat = code ∨ (Char.ofNat code).toNat = 0 := by
  by_cases valid : code.isValidChar
  · exact .inl ((congrArg Char.toNat (dif_pos valid)).trans rfl)
  · exact .inr ((congrArg Char.toNat (dif_neg valid)).trans rfl)

/-- Characters beyond ASCII stay beyond it, except for the Kelvin sign. -/
theorem not_isPlain_of_lowerChar_eq {c x : Char} (beyond : 0x80 ≤ c.toNat)
    (same : lowerChar c = [x]) : ¬ IsPlain x := by
  intro plain
  have bounds := plain.bounds
  have runs : ∀ run ∈ lowercaseRuns, run.last < 0x80 ∨ 0x80 ≤ run.first + run.shift ∨
      run.first = 0x212A ∧ run.last = 0x212A ∧ run.shift = -8383 := by
    decide +kernel
  unfold lowerChar at same
  split at same
  · cases same
  split at same
  · next code mapped =>
    obtain ⟨run, member, image⟩ := List.exists_of_findSome?_eq_some mapped
    obtain ⟨⟨reached, ends, -⟩, shifted⟩ := Option.ite_none_right_eq_some.mp image
    obtain rfl := Option.some.inj shifted
    obtain rfl := List.singleton_inj.mp same
    -- A run lies within ASCII, or leads beyond it, or is the Kelvin sign alone.
    rcases runs run member with within | above | kelvin
    · omega
    · have code := toNat_ofNat_cases (c.toNat + run.shift).toNat
      omega
    · have code : (c.toNat + run.shift).toNat = 0x6B := by omega
      exact plain.2 (congrArg Char.ofNat code)
  · obtain rfl := List.singleton_inj.mp same
    omega

/-- A plain letter is the lowercase form of itself and of its capital, and of nothing else. -/
theorem lowerChar_eq_singleton_iff {c x : Char} (plain : IsPlain x) :
    lowerChar c = [x] ↔ c.toLower = x := by
  by_cases ascii : c.toNat < 0x80
  · rw [lowerChar_of_ascii ascii, List.singleton_inj]
  · have beyond := Nat.le_of_not_lt ascii
    refine iff_of_false (fun same => not_isPlain_of_lowerChar_eq beyond same plain) ?_
    intro same
    rw [toLower_eq_self (by omega)] at same
    exact ascii (same ▸ plain.bounds.2)

theorem lowerChar_cases (c : Char) :
    (∃ x, lowerChar c = [x]) ∨ lowerChar c = ['i', '\u0307'] := by
  unfold lowerChar
  split
  · exact .inr rfl
  split
  · exact .inl ⟨_, rfl⟩
  · exact .inl ⟨_, rfl⟩

theorem not_isPlain_lowerSigma (afterLetter : Bool) (rest : Text) :
    ¬ IsPlain (lowerSigma afterLetter rest) := by
  unfold lowerSigma
  split <;> decide

/-- A word of plain letters is the lowercase form of just those texts that differ from it in the
case of letters A to Z. -/
theorem lowerAfter_eq_iff {word : Text} (plain : ∀ x ∈ word, IsPlain x) {text : Text}
    (afterLetter : Bool) : lowerAfter afterLetter text = word ↔ text.map Char.toLower = word := by
  induction text generalizing word afterLetter with
  | nil => rfl
  | cons c rest ih =>
    rw [lowerAfter]
    cases word with
    | nil =>
      refine iff_of_false ?_ (List.cons_ne_nil _ _)
      split
      · exact List.cons_ne_nil _ _
      · exact List.append_ne_nil_of_left_ne_nil (lowerChar_ne_nil c) _
    | cons x word =>
      obtain ⟨first, others⟩ := List.forall_mem_cons.mp plain
      rw [List.map_cons, List.cons_eq_cons, ← lowerChar_eq_singleton_iff first]
      -- The form of a sigma depends on its neighbours, but no form of it is plain.
      split
      · next sigma =>
        subst sigma
        refine iff_of_false ?_ ?_
        · intro same
          exact not_isPlain_lowerSigma _ _ ((List.cons_eq_cons.mp same).1 ▸ first)
        · rintro ⟨same, -⟩
          obtain rfl : 'σ' = x := List.singleton_inj.mp same
          exact absurd first (by decide)
      · rcases lowerChar_cases c with ⟨y, single⟩ | double
        · rw [single, List.singleton_append, List.cons_eq_cons, List.singleton_inj, ih others]
        · rw [double]
          refine iff_of_false ?_ (fun same => absurd same.1 (by simp))
          intro same
          obtain ⟨-, rfl⟩ := List.cons_eq_cons.mp same
          exact absurd (others '\u0307' List.mem_cons_self) (by decide)

theorem lower_eq_iff {word : Text} (plain : ∀ x ∈ word, IsPlain x) {text : Text} :
    text.lower = word ↔ text.map Char.toLower = word :=
  lowerAfter_eq_iff plain false

/-! ### Blanks around a word -/

/-- No plain letter is a blank, and nor is its capital. -/
theorem isBlank_eq_false_of_isPlain_toLower {c : Char} (plain : IsPlain c.toLower) :
    isBlank c = false := by
  have apart : ∀ span ∈ blanks, span.2 < 0x30 ∨ 0x80 ≤ span.1 := by decide
  rw [Bool.eq_false_iff]
  intro blank
  obtain ⟨span, member, least, greatest⟩ := Spans.contains_iff.mp blank
  have outside := apart span member
  rw [toLower_eq_self (by omega)] at plain
  have bounds := plain.bounds
  omega

theorem exists_blanks_trim (text : Text) :
    ∃ before after, (∀ c ∈ before ++ after, isBlank c = true) ∧
      text = before ++ text.trim ++ after := by
  refine ⟨text.takeWhile isBlank, ((text.dropWhile isBlank).reverse.takeWhile isBlank).reverse,
    ?_, ?_⟩
  · rw [List.forall_mem_append]
    refine ⟨fun c => List.mem_takeWhile_imp, fun c member => ?_⟩
    exact List.mem_takeWhile_imp (List.mem_reverse.mp member)
  · rw [trim, List.append_assoc, ← List.reverse_append, List.takeWhile_append_dropWhile,
      List.reverse_reverse, List.takeWhile_append_dropWhile]

theorem dropWhile_isBlank_append {front word : Text} (blank : ∀ c ∈ front, isBlank c = true)
    (solid : ∀ c ∈ word, isBlank c = false) (filled : word ≠ []) (rest : Text) :
    (front ++ (word ++ rest)).dropWhile isBlank = word ++ rest := by
  obtain ⟨c, word, rfl⟩ := List.exists_cons_of_ne_nil filled
  rw [List.dropWhile_append_of_pos blank, List.cons_append, List.dropWhile_cons_of_neg]
  simp [solid c List.mem_cons_self]

/-- A word without blanks is what is left when the blanks around it are removed. -/
theorem trim_append_append {before word after : Text}
    (blank : ∀ c ∈ before ++ after, isBlank c = true) (solid : ∀ c ∈ word, isBlank c = false)
    (filled : word ≠ []) : Text.trim (before ++ word ++ after) = word := by
  obtain ⟨leading, trailing⟩ := List.forall_mem_append.mp blank
  have mirrored :
      (after.reverse ++ (word.reverse ++ [])).dropWhile isBlank = word.reverse ++ [] := by
    apply dropWhile_isBlank_append
    · simpa using trailing
    · simpa using solid
    · simpa using filled
  rw [trim, List.append_assoc, dropWhile_isBlank_append leading solid filled, List.reverse_append]
  rw [List.append_nil] at mirrored
  rw [mirrored, List.reverse_reverse]

end Text

/-! ### Looking up a style -/

namespace Style

/-- The names of a style, written in small letters. -/
def knownNames : Style → List Text
  | posix => ["posix".toList]
  | windows => ["windows".toList, "win32".toList, "nt".toList]

/-- A text that names a style: blanks around one of its names, in letters of either case. The
letters are those of ASCII, to which `Char.toLower` is limited. -/
def IsNamedBy (style : Style) (text : Text) : Prop :=
  ∃ before word after, text = before ++ word ++ after ∧
    (∀ c ∈ before ++ after, Text.isBlank c = true) ∧ word.map Char.toLower ∈ style.knownNames

theorem isPlain_of_mem_knownNames {style : Style} {known : Text}
    (member : known ∈ style.knownNames) : known ≠ [] ∧ ∀ x ∈ known, Text.IsPlain x := by
  have all : ∀ known ∈ style.knownNames,
      known ≠ [] ∧ known.all (fun x => decide (Text.IsPlain x)) = true := by
    cases style <;> decide +kernel
  obtain ⟨filled, plain⟩ := all known member
  exact ⟨filled, fun x inside => of_decide_eq_true (List.all_eq_true.mp plain x inside)⟩

theorem lookup_names_eq_some_iff {word : Text} {style : Style} :
    names.lookup word = some style ↔ word ∈ style.knownNames := by
  constructor
  · intro found
    have all : ∀ entry ∈ names, entry.1 ∈ entry.2.knownNames := by decide +kernel
    exact all (word, style) (mem_of_lookup_eq_some found)
  · have all : ∀ known ∈ style.knownNames, names.lookup known = some style := by
      cases style <;> decide +kernel
    exact all word

theorem ofName?_eq_some_iff {text : Text} {style : Style} :
    ofName? text = some style ↔ style.IsNamedBy text := by
  rw [ofName?, lookup_names_eq_some_iff]
  constructor
  · intro known
    obtain ⟨before, after, blank, whole⟩ := text.exists_blanks_trim
    refine ⟨before, text.trim, after, whole, blank, ?_⟩
    rwa [(Text.lower_eq_iff (isPlain_of_mem_knownNames known).2).mp rfl]
  · rintro ⟨before, word, after, rfl, blank, known⟩
    obtain ⟨filled, plain⟩ := isPlain_of_mem_knownNames known
    have solid : ∀ c ∈ word, Text.isBlank c = false := by
      intro c member
      exact Text.isBlank_eq_false_of_isPlain_toLower (plain _ (List.mem_map_of_mem member))
    rw [Text.trim_append_append blank solid (by simpa using filled)]
    rwa [(Text.lower_eq_iff plain).mpr rfl]

-- A long s and a dotless i are not taken for an s and an i.
example : ofName? "po\u017Fix".toList = none ∧ ofName? "w\u0131n32".toList = none := by
  decide +kernel

end Style

/-- A configuration that is given a style looks it up, and one that is given none looks up what the
environment names. -/
theorem map_style_load_of_given (environment : Environment) (given : Value)
    (level : Option Text) :
    (Config.load environment (some given) level).map (·.style) = Style.ofValue given := by
  simp only [Config.load]
  cases Style.ofValue given <;> rfl

theorem map_style_load_of_variable {environment : Environment} {name : Text}
    (named : environment.get? Config.styleVariable = some name) (filled : name ≠ [])
    (level : Option Text) :
    (Config.load environment none level).map (·.style) = Style.ofValue (.text name) := by
  have found : Config.environmentStyle environment = Style.ofValue (.text name) := by
    unfold Config.environmentStyle
    rw [named]
    split
    · next unset => cases unset
    · next empty => exact absurd (Option.some.inj empty) filled
    · next other _ same => rw [Option.some.inj same]
  simp only [Config.load, found]
  cases Style.ofValue (.text name) <;> rfl

/-- A context that starts from a named style has that style, if there is one of that name. -/
theorem Session.step_start_eq_ok_iff {session : Session} {given : Value}
    {directory : Option Directory} {style : Style} :
    (session.step (.start given directory)).1 = .ok none ∧
        (session.step (.start given directory)).2.context.style = style ↔
      Style.ofValue given = .ok style := by
  simp only [step, perform]
  cases Style.ofValue given <;> simp

/-- A text is accepted for a style if and only if it is one of the style's names, in letters of
either case and with any blanks around it. A configuration that is given the text and a context that
starts from it look it up as the same style, or refuse it like any other, and so does a
configuration that finds it in the environment, if the text is not empty. -/
theorem ofValue_eq_ok_iff_and_lookups_agree (name : Text) :
    (∀ style, Style.ofValue (.text name) = .ok style ↔ style.IsNamedBy name) ∧
      (∀ environment level,
        (Config.load environment (some (.text name)) level).map (·.style)
          = Style.ofValue (.text name)) ∧
      (∀ session directory style,
        (Session.step session (.start (.text name) directory)).1 = .ok none ∧
            (Session.step session (.start (.text name) directory)).2.context.style = style ↔
          Style.ofValue (.text name) = .ok style) ∧
      ∀ environment level, environment.get? Config.styleVariable = some name → name ≠ [] →
        (Config.load environment none level).map (·.style) = Style.ofValue (.text name) := by
  refine ⟨fun style => ?_, fun environment level => ?_, fun session directory style => ?_,
    fun environment level named filled => ?_⟩
  · rw [Style.ofValue_text_eq_ok_iff, Style.ofName?_eq_some_iff]
  · exact map_style_load_of_given environment (.text name) level
  · exact Session.step_start_eq_ok_iff
  · exact map_style_load_of_variable named filled level

/-- A name in the environment, with a wide blank before it and a tab behind it. -/
theorem map_style_load_spelled :
    let name := "\u3000WiN32\t".toList
    let environment : Environment := ⟨.posix, [(Config.styleVariable, name)]⟩
    Style.windows.IsNamedBy name ∧ environment.get? Config.styleVariable = some name ∧
      name ≠ [] ∧ (Config.load environment none none).map (·.style) = .ok .windows := by
  intro name environment
  have named : Style.windows.IsNamedBy name :=
    ⟨"\u3000".toList, "WiN32".toList, "\t".toList, by decide, List.all_eq_true.mp (by decide),
      by decide⟩
  have found : environment.get? Config.styleVariable = some name := by decide
  have filled : name ≠ [] := by decide
  obtain ⟨accepts, -, -, loads⟩ := ofValue_eq_ok_iff_and_lookups_agree name
  exact ⟨named, found, filled,
    (loads environment none found filled).trans ((accepts .windows).mpr named)⟩

end Pathwise
