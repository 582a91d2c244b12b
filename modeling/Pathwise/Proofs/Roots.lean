import Pathwise.Path.Basic
import Pathwise.Proofs.Concatenation

/-!
# Reading roots

`Reads` lists the ways in which a text starts with a root, one for each form of root, and agrees
with the function that looks for a root. It is used in both directions: what is read is a root that
the style admits, and a root that the style admits is read back from the text it is written as.

A root stays what it is when a text is continued, except where the text stops inside a network
root: after the two separators, or after the host. There the next name belongs to the root.
-/

namespace Pathwise

namespace Root

/-- Whether a text starts with exactly two separators and goes on after them. -/
def OpensNetwork (raw : Text) : Prop :=
  ∃ first second third rest, raw = first :: second :: third :: rest ∧
    isSeparator first = true ∧ isSeparator second = true ∧ isSeparator third = false

/-- The ways in which a text starts with a root, with the segments after the root. -/
inductive Reads : Style → Text → Root → List Text → Prop
  | bare {style : Style} {first : Char} {rest : Text} (rooted : isSeparator first = true)
      (single : style = .windows → ¬ OpensNetwork (first :: rest)) :
      Reads style (first :: rest) bare (components rest)
  | drive {letter : Char} {rest : Text} (alpha : letter.isAlpha = true) :
      Reads .windows (letter :: ':' :: rest) (drive letter) (components rest)
  | host {first second third : Char} {rest machine : Text} (one : isSeparator first = true)
      (two : isSeparator second = true) (ordinary : isSeparator third = false)
      (names : components (third :: rest) = [machine]) :
      Reads .windows (first :: second :: third :: rest) (host machine) []
  | share {first second third : Char} {rest machine folder : Text} {segments : List Text}
      (one : isSeparator first = true) (two : isSeparator second = true)
      (ordinary : isSeparator third = false)
      (names : components (third :: rest) = machine :: folder :: segments) :
      Reads .windows (first :: second :: third :: rest) (share machine folder) segments

/-! ### The reader and the relation agree -/

theorem opensNetwork_cons {first second third : Char} {rest : Text} :
    OpensNetwork (first :: second :: third :: rest) ↔
      isSeparator first = true ∧ isSeparator second = true ∧ isSeparator third = false := by
  constructor
  · rintro ⟨_, _, _, _, same, marks⟩
    obtain ⟨rfl, rfl, rfl, rfl⟩ : first = _ ∧ second = _ ∧ third = _ ∧ rest = _ := by
      simpa using same
    exact marks
  · exact fun marks => ⟨first, second, third, rest, rfl, marks⟩

theorem OpensNetwork.head?_isSeparator {raw : Text} (opens : OpensNetwork raw) :
    raw.head?.any isSeparator = true := by
  obtain ⟨first, second, third, rest, rfl, one, -, -⟩ := opens
  exact one

/-- A separator is no letter, so that no text starts both with a separator and with a drive. -/
theorem isSeparator_of_isAlpha {letter : Char} (alpha : letter.isAlpha = true) :
    isSeparator letter = false := by
  by_contra separator
  rcases isSeparator_iff.mp (Bool.of_not_eq_false separator) with rfl | rfl <;> simp at alpha

theorem ofNetworkText?_eq_none {raw : Text} (single : ¬ OpensNetwork raw) :
    ofNetworkText? raw = none := by
  match raw with
  | [] | [_] | [_, _] => simp [ofNetworkText?]
  | first :: second :: third :: rest =>
    rw [opensNetwork_cons] at single
    exact if_neg (by simpa using single)

theorem isAlpha_of_isSeparator {letter : Char} (separator : isSeparator letter = true) :
    letter.isAlpha = false := by
  by_contra alpha
  simp [isSeparator_of_isAlpha (Bool.of_not_eq_false alpha)] at separator

theorem startsWithDrive_of_isSeparator {first : Char} (rooted : isSeparator first = true)
    (rest : Text) : startsWithDrive (first :: rest) = false := by
  rw [startsWithDrive_cons, isAlpha_of_isSeparator rooted, Bool.false_and]

theorem ofDriveText?_eq_none {raw : Text} (plain : startsWithDrive raw = false) :
    ofDriveText? raw = none := by
  unfold ofDriveText?
  split
  · next letter _ => exact if_neg (Bool.eq_false_iff.mp plain)
  · rfl

theorem Reads.ofText?_eq_some {style : Style} {raw : Text} {root : Root} {segments : List Text}
    (reads : Reads style raw root segments) : ofText? style raw = some (root, segments) := by
  cases reads with
  | @bare _ first rest rooted single =>
    cases style with
    | posix => exact if_pos rooted
    | windows =>
      have plain := startsWithDrive_of_isSeparator rooted rest
      simp [ofText?, ofNetworkText?_eq_none (single rfl), ofDriveText?_eq_none plain, ofBareText?,
        rooted]
  | @drive letter rest alpha =>
    have noNetwork : ofNetworkText? (letter :: ':' :: rest) = none := by
      simp [ofNetworkText?, isSeparator_of_isAlpha alpha]
    simp [ofText?, noNetwork, ofDriveText?, alpha]
  | host one two ordinary names =>
    simp [ofText?, ofNetworkText?, one, two, ordinary, names]
  | share one two ordinary names =>
    simp [ofText?, ofNetworkText?, one, two, ordinary, names]

/-- Whatever starts with a separator starts with a root. -/
theorem exists_reads_of_isSeparator (style : Style) {first : Char}
    (rooted : isSeparator first = true) (rest : Text) :
    ∃ root segments, Reads style (first :: rest) root segments := by
  by_cases network : style = .windows ∧ OpensNetwork (first :: rest)
  · obtain ⟨rfl, _, second, third, rest, same, one, two, ordinary⟩ := network
    obtain ⟨rfl, rfl⟩ := List.cons_eq_cons.mp same
    cases names : components (third :: rest) with
    | nil => exact absurd names (components_cons_ne_nil ordinary rest)
    | cons machine others =>
      cases others with
      | nil => exact ⟨_, _, .host one two ordinary names⟩
      | cons folder segments => exact ⟨_, _, .share one two ordinary names⟩
  · exact ⟨_, _, .bare rooted fun windows network' => network ⟨windows, network'⟩⟩

theorem head?_of_ofText?_eq_none {style : Style} {raw : Text}
    (rootless : ofText? style raw = none) : raw.head?.any isSeparator = false := by
  cases raw with
  | nil => rfl
  | cons first rest =>
    by_contra rooted
    obtain ⟨root, segments, reads⟩ :=
      exists_reads_of_isSeparator style (Bool.of_not_eq_false rooted) rest
    simp [reads.ofText?_eq_some] at rootless

/-- Where drives count, whatever starts with a drive starts with a root. -/
theorem exists_reads_of_startsWithDrive {raw : Text} (drive : startsWithDrive raw = true) :
    ∃ root segments, Reads .windows raw root segments := by
  unfold startsWithDrive at drive
  split at drive
  · exact ⟨_, _, .drive drive⟩
  · simp at drive

theorem startsWithDrive_of_ofText?_eq_none {raw : Text} (rootless : ofText? .windows raw = none) :
    startsWithDrive raw = false := by
  by_contra drive
  obtain ⟨root, segments, reads⟩ := exists_reads_of_startsWithDrive (Bool.of_not_eq_false drive)
  simp [reads.ofText?_eq_some] at rootless

/-- A text that starts neither with a separator nor, where drives count, with a drive. -/
theorem ofText?_eq_none {style : Style} {raw : Text} (rootless : raw.head?.any isSeparator = false)
    (plain : style = .windows → startsWithDrive raw = false) : ofText? style raw = none := by
  have noBare : ofBareText? raw = none := by
    cases raw with
    | nil => rfl
    | cons first rest => exact if_neg (Bool.eq_false_iff.mp rootless)
  cases style with
  | posix => exact noBare
  | windows =>
    have single : ¬ OpensNetwork raw := by
      intro opens
      simp [opens.head?_isSeparator] at rootless
    simp [ofText?, ofNetworkText?_eq_none single, ofDriveText?_eq_none (plain rfl), noBare]

/-- Every text either starts with a root in one of the ways listed or has none. -/
theorem exists_reads_or_eq_none (style : Style) (raw : Text) :
    (∃ root segments, Reads style raw root segments) ∨ ofText? style raw = none := by
  by_cases rooted : raw.head?.any isSeparator = true
  · cases raw with
    | nil => simp at rooted
    | cons first rest => exact .inl (exists_reads_of_isSeparator style rooted rest)
  by_cases drive : style = .windows ∧ startsWithDrive raw = true
  · obtain ⟨rfl, starts⟩ := drive
    exact .inl (exists_reads_of_startsWithDrive starts)
  · right
    apply ofText?_eq_none (Bool.eq_false_iff.mpr rooted)
    intro windows
    exact Bool.eq_false_iff.mpr fun starts => drive ⟨windows, starts⟩

/-! ### Written roots -/

/-- Whether a style has this root, and whether these segments can follow it. After a host none can:
the first one would be its share. -/
def Admits (style : Style) (segments : List Text) : Root → Prop
  | bare => True
  | drive letter => style = .windows ∧ letter.isAlpha = true
  | host machine => style = .windows ∧ IsName machine ∧ segments = []
  | share machine folder => style = .windows ∧ IsName machine ∧ IsName folder

/-- After a root there may be other segments, if there may be any. -/
theorem Admits.replace {style : Style} {root : Root} {segments others : List Text}
    (admits : root.Admits style segments) (still : segments = [] → others = []) :
    root.Admits style others := by
  cases root with
  | host machine =>
    obtain ⟨windows, isMachine, alone⟩ := admits
    exact ⟨windows, isMachine, still alone⟩
  | bare | drive | share => exact admits

/-- What is read is a root of the style, followed by names. -/
theorem Reads.admits {style : Style} {raw : Text} {root : Root} {segments : List Text}
    (reads : Reads style raw root segments) :
    root.Admits style segments ∧ ∀ name ∈ segments, IsName name := by
  cases reads with
  | bare => exact ⟨trivial, fun _ => isName_of_mem_components⟩
  | drive alpha => exact ⟨⟨rfl, alpha⟩, fun _ => isName_of_mem_components⟩
  | @host _ _ third rest machine one two ordinary names =>
    have isName : ∀ name ∈ [machine], IsName name := names ▸ fun _ => isName_of_mem_components
    exact ⟨⟨rfl, isName machine List.mem_cons_self, rfl⟩, by simp⟩
  | @share _ _ third rest machine folder segments one two ordinary names =>
    have isName : ∀ name ∈ machine :: folder :: segments, IsName name :=
      names ▸ fun _ => isName_of_mem_components
    rw [List.forall_mem_cons, List.forall_mem_cons] at isName
    exact ⟨⟨rfl, isName.1, isName.2.1⟩, isName.2.2⟩

theorem isSeparator_separator (style : Style) : isSeparator style.separator = true := by
  cases style <;> rfl

/-- A written root is read back, with the names written after it as its segments. -/
theorem Admits.reads {style : Style} {root : Root} {segments : List Text}
    (admits : root.Admits style segments) (isName : ∀ name ∈ segments, IsName name) :
    Reads style (root.text style ++ joinNames [style.separator] segments) root segments := by
  have sound := isSeparator_separator style
  have read := components_joinNames_of_isName sound isName
  have start := head?_joinNames [style.separator] isName
  generalize joinNames [style.separator] segments = body at read start ⊢
  cases root with
  | bare =>
    have single : ¬ OpensNetwork (style.separator :: body) := by
      rintro ⟨first, second, third, rest, same, -, two, -⟩
      obtain ⟨-, rfl⟩ := List.cons_eq_cons.mp same
      simp [two] at start
    exact read ▸ .bare sound fun _ => single
  | drive letter =>
    obtain ⟨rfl, alpha⟩ := admits
    have rest := components_cons_separator sound body
    exact (rest.trans read) ▸ .drive alpha
  | host machine =>
    obtain ⟨rfl, isMachine, rfl⟩ := admits
    obtain ⟨third, rest, rfl⟩ := List.exists_cons_of_ne_nil isMachine.ne_nil
    have ordinary := isMachine.noSeparator third List.mem_cons_self
    have written : text .windows (host (third :: rest)) ++ body
        = Style.windows.separator :: Style.windows.separator :: third ::
            (rest ++ Style.windows.separator :: body) := by
      simp [text]
    rw [written]
    refine .host sound sound ordinary ?_
    rw [← List.cons_append, components_append_cons _ _ sound, read, List.append_nil,
      components_of_noSeparator isMachine.noSeparator isMachine.ne_nil]
  | share machine folder =>
    obtain ⟨rfl, isMachine, isFolder⟩ := admits
    obtain ⟨third, rest, rfl⟩ := List.exists_cons_of_ne_nil isMachine.ne_nil
    have ordinary := isMachine.noSeparator third List.mem_cons_self
    have written : text .windows (share (third :: rest) folder) ++ body
        = Style.windows.separator :: Style.windows.separator :: third ::
            (rest ++ Style.windows.separator :: (folder ++ Style.windows.separator :: body)) := by
      simp [text]
    rw [written]
    refine .share sound sound ordinary ?_
    rw [← List.cons_append, components_append_cons _ _ sound, components_append_cons _ _ sound,
      read, components_of_noSeparator isMachine.noSeparator isMachine.ne_nil,
      components_of_noSeparator isFolder.noSeparator isFolder.ne_nil]
    rfl

/-! ### Continued texts -/

/-- Two separators and nothing else. -/
def isSeparatorPair : Text → Bool
  | [first, second] => isSeparator first && isSeparator second
  | _ => false

theorem endsWithSeparator_of_isSeparatorPair {raw : Text} (pair : isSeparatorPair raw = true) :
    endsWithSeparator raw = true := by
  match raw with
  | [first, second] => exact (Bool.and_eq_true_iff.mp pair).2

/-- Whether a root lacks its share. -/
def isHost : Root → Bool
  | host _ => true
  | _ => false

/-- Whether a text stops inside a network root, so that the next name would belong to the root. -/
def stopsInside (raw : Text) : Bool :=
  isSeparatorPair raw || (ofText? .windows raw).any (·.1.isHost)

theorem stopsInside_iff {raw : Text} {root : Root} {segments : List Text}
    (reads : Reads .windows raw root segments) :
    stopsInside raw = true ↔ isSeparatorPair raw = true ∨ root.isHost = true := by
  simp [stopsInside, reads.ofText?_eq_some]

/-- A continued text opens a network only if it did so before or was waiting for a host. -/
theorem opensNetwork_append_iff {raw tail : Text} (started : raw ≠ [])
    (single : endsWithSeparator raw = true → tail.head?.any isSeparator = false) :
    OpensNetwork (raw ++ tail) ↔
      OpensNetwork raw ∨ isSeparatorPair raw = true ∧ tail ≠ [] := by
  match raw with
  | [first] =>
    -- What follows a lone separator is no second one.
    have short : ¬ OpensNetwork [first] := by simp [OpensNetwork]
    have open' : ¬ OpensNetwork (first :: tail) := by
      rintro ⟨_, second, third, rest, same, one, two, -⟩
      obtain ⟨rfl, rfl⟩ := List.cons_eq_cons.mp same
      have ordinary : isSeparator second = false := single one
      simp [two] at ordinary
    simp [short, open', isSeparatorPair]
  | [first, second] =>
    have short : ¬ OpensNetwork [first, second] := by simp [OpensNetwork]
    simp only [short, false_or, isSeparatorPair, Bool.and_eq_true]
    constructor
    · rintro ⟨_, _, third, rest, same, one, two, -⟩
      obtain ⟨rfl, rfl, rfl⟩ : first = _ ∧ second = _ ∧ tail = third :: rest := by
        simpa using same
      exact ⟨⟨one, two⟩, by simp⟩
    · rintro ⟨⟨one, two⟩, more⟩
      obtain ⟨third, rest, rfl⟩ := List.exists_cons_of_ne_nil more
      exact ⟨first, second, third, rest, rfl, one, two, single two⟩
  | first :: second :: third :: rest =>
    simp only [List.cons_append, opensNetwork_cons, isSeparatorPair, Bool.false_eq_true,
      false_and, or_false]

/-- A root is read again from a continued text, unless the text stops inside it. -/
theorem Reads.append {style : Style} {raw tail : Text} {root : Root} {segments names : List Text}
    (reads : Reads style raw root segments) (continues : Continues raw names tail)
    (complete : style = .windows → stopsInside raw = false) :
    Reads style (raw ++ tail) root (segments ++ names) := by
  have onward : ∀ front before, raw = front ++ before →
      components (before ++ tail) = components before ++ names := by
    rintro front before rfl
    exact continues.components_append_of_append front
  cases reads with
  | @bare _ first rest rooted single =>
    rw [← onward [first] rest rfl]
    apply Reads.bare rooted
    intro windows network
    rcases (opensNetwork_append_iff (by simp) continues.single).mp network with before | ⟨pair, -⟩
    · exact single windows before
    · have waits : stopsInside (first :: rest) = true := by rw [stopsInside, pair, Bool.true_or]
      simp [complete windows] at waits
  | @drive letter rest alpha =>
    rw [← onward [letter, ':'] rest rfl]
    exact .drive alpha
  | host one two ordinary names =>
    have waiting := complete rfl
    rw [stopsInside, (Reads.host one two ordinary names).ofText?_eq_some] at waiting
    simp [isHost] at waiting
  | @share first second third rest machine folder segments one two ordinary names =>
    have read := onward [first, second] (third :: rest) rfl
    rw [names] at read
    exact .share one two ordinary read

/-- Where a text stops inside its root, a name that is glued to it prolongs the root. -/
theorem Reads.exists_longer {raw tail : Text} {root : Root} {segments names : List Text}
    (reads : Reads .windows raw root segments) (continues : Continues raw names tail)
    (named : names ≠ []) (stops : stopsInside raw = true) :
    ∃ other others more, Reads .windows (raw ++ tail) other others ∧
      other.text .windows = root.text .windows ++ more ∧ more ≠ [] := by
  obtain ⟨name, later, rfl⟩ := List.exists_cons_of_ne_nil named
  have waits := (stopsInside_iff reads).mp stops
  cases reads with
  | @bare _ first rest one single =>
    have pair : isSeparatorPair (first :: rest) = true := by simpa [isHost] using waits
    match rest with
    | [second] =>
      have two : isSeparator second = true := (Bool.and_eq_true_iff.mp pair).2
      obtain ⟨third, rest, rfl⟩ : ∃ third rest, tail = third :: rest := by
        apply List.exists_cons_of_ne_nil
        intro empty
        simpa [empty] using continues.components_eq
      have ordinary : isSeparator third = false := continues.single two
      cases later with
      | nil =>
        refine ⟨_, _, '\\' :: name ++ ['\\'], .host one two ordinary continues.components_eq, ?_,
          by simp⟩
        simp [text, Style.separator]
      | cons folder segments =>
        refine ⟨_, _, '\\' :: name ++ '\\' :: folder ++ ['\\'],
          .share one two ordinary continues.components_eq, ?_, by simp⟩
        simp [text, Style.separator]
  | @drive letter rest alpha =>
    cases rest <;> simp [isSeparatorPair, isSeparator, isHost] at waits
  | @host first second third rest machine one two ordinary names =>
    have read := Continues.components_append_of_append [first, second] continues
    rw [names] at read
    refine ⟨_, _, name ++ ['\\'], .share one two ordinary read, ?_, by simp⟩
    simp [text, Style.separator]
  | share one two ordinary names => simp [isSeparatorPair, isHost] at waits

end Root

end Pathwise
