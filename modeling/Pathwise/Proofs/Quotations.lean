import Mathlib.Algebra.Group.Nat.Defs
import Mathlib.Data.List.Basic
import Pathwise.Text.Quoted

/-!
# What a quotation holds

A quoted text is printable throughout, and it can be read back. Inside a quotation every character
is written either as itself or as an escape, and the escapes start with a backslash, which never
stands for itself. So from the left end on there is one way to take the quotation apart, and texts
that differ have quotations that differ.
-/

namespace Pathwise.Text

/-! ### The forms of a character -/

/-- The forms in which a character is written inside a quotation. A character that stands for itself
is no backslash, so that it starts no escape, and a code fits its places. -/
inductive Escaped (mark : Char) : Char → Text → Prop
  | own {c : Char} (reserved : c = mark ∨ c = '\\') : Escaped mark c ['\\', c]
  | lineFeed : Escaped mark '\n' ['\\', 'n']
  | carriageReturn : Escaped mark '\r' ['\\', 'r']
  | tab : Escaped mark '\t' ['\\', 't']
  | plain {c : Char} (printable : isPrintable c = true) (other : c ≠ '\\') : Escaped mark c [c]
  | short {c : Char} (fits : c.toNat < 16 ^ 2) : Escaped mark c ('\\' :: 'x' :: hex 2 c.toNat)
  | medium {c : Char} (fits : c.toNat < 16 ^ 4) : Escaped mark c ('\\' :: 'u' :: hex 4 c.toNat)
  | long {c : Char} (fits : c.toNat < 16 ^ 8) : Escaped mark c ('\\' :: 'U' :: hex 8 c.toNat)

theorem escaped_escapeChar (mark c : Char) : Escaped mark c (escapeChar mark c) := by
  unfold escapeChar
  split
  · next reserved => exact .own reserved
  next free =>
  split
  · next same => exact same ▸ .lineFeed
  split
  · next same => exact same ▸ .carriageReturn
  split
  · next same => exact same ▸ .tab
  split
  · next printable => exact .plain printable fun same => free (.inr same)
  split
  · next fits => exact .short fits
  split
  · next fits => exact .medium fits
  · exact .long c.val.toNat_lt

/-! ### Printable texts -/

/-- A text whose characters are all printable. -/
def Printable (text : Text) : Prop :=
  ∀ c ∈ text, isPrintable c = true

theorem Printable.append {text more : Text} (first : text.Printable) (second : more.Printable) :
    Printable (text ++ more) :=
  List.forall_mem_append.mpr ⟨first, second⟩

theorem Printable.cons {c : Char} {text : Text} (first : isPrintable c = true)
    (others : text.Printable) : Printable (c :: text) :=
  List.forall_mem_cons.mpr ⟨first, others⟩

theorem isPrintable_of_ascii {c : Char} (low : 0x20 ≤ c.toNat) (high : c.toNat ≤ 0x7E) :
    isPrintable c = true := by
  have apart : ∀ span ∈ unprintable, span.2 < 0x20 ∨ 0x7E < span.1 := by decide +kernel
  rw [isPrintable, Bool.not_eq_true', Bool.eq_false_iff]
  intro held
  obtain ⟨span, member, least, greatest⟩ := Spans.contains_iff.mp held
  have outside := apart span member
  omega

/-- A text in the characters from the space to the tilde is printable. -/
theorem printable_of_ascii {text : Text}
    (ascii : text.all fun c => 0x20 ≤ c.toNat ∧ c.toNat ≤ 0x7E) : text.Printable := by
  intro c member
  obtain ⟨low, high⟩ := of_decide_eq_true (List.all_eq_true.mp ascii c member)
  exact isPrintable_of_ascii low high

theorem printable_hex (width n : Nat) : (hex width n).Printable := by
  have digits : ∀ digit < 16,
      0x20 ≤ (Nat.digitChar digit).toNat ∧ (Nat.digitChar digit).toNat ≤ 0x7E := by decide
  induction width generalizing n with
  | zero => exact List.forall_mem_nil _
  | succ width ih =>
    obtain ⟨low, high⟩ := digits (n % 16) (Nat.mod_lt n (by decide))
    exact (ih (n / 16)).append (List.forall_mem_singleton.mpr (isPrintable_of_ascii low high))

theorem isPrintable_quotationMark (text : Text) : isPrintable text.quotationMark = true := by
  rcases quotationMark_eq text with mark | mark
  all_goals exact mark ▸ isPrintable_of_ascii (by decide) (by decide)

theorem printable_escapeChar {mark : Char} (marked : isPrintable mark = true) (c : Char) :
    (escapeChar mark c).Printable := by
  have backslash : isPrintable '\\' = true := isPrintable_of_ascii (by decide) (by decide)
  have escaped := escaped_escapeChar mark c
  generalize escapeChar mark c = written at escaped ⊢
  cases escaped with
  | own reserved =>
    refine .cons backslash (List.forall_mem_singleton.mpr ?_)
    rcases reserved with rfl | rfl
    · exact marked
    · exact backslash
  | lineFeed | carriageReturn | tab => exact printable_of_ascii (by decide)
  | plain printable other => exact List.forall_mem_singleton.mpr printable
  | short => exact (@printable_of_ascii ['\\', 'x'] (by decide)).append (printable_hex 2 _)
  | medium => exact (@printable_of_ascii ['\\', 'u'] (by decide)).append (printable_hex 4 _)
  | long => exact (@printable_of_ascii ['\\', 'U'] (by decide)).append (printable_hex 8 _)

/-- Whatever the text holds, its quotation is printable. -/
theorem printable_quoted (text : Text) : text.quoted.Printable := by
  have marked := isPrintable_quotationMark text
  refine .cons marked (.append ?_ (List.forall_mem_singleton.mpr marked))
  intro d member
  obtain ⟨c, -, inside⟩ := List.mem_flatMap.mp member
  exact printable_escapeChar marked c d inside

/-! ### Reading a quotation -/

/-- The value of a hexadecimal digit. -/
def hexDigit (digit : Char) : Nat :=
  if digit.isDigit then digit.toNat - '0'.toNat else digit.toNat - 'a'.toNat + 10

/-- The number that hexadecimal digits stand for. -/
def hexValue (digits : Text) : Nat :=
  digits.foldl (fun value digit => value * 16 + hexDigit digit) 0

theorem hexValue_hex {width n : Nat} (fits : n < 16 ^ width) : hexValue (hex width n) = n := by
  have digits : ∀ digit < 16, hexDigit (Nat.digitChar digit) = digit := by decide
  induction width generalizing n with
  | zero =>
    rw [Nat.pow_zero, Nat.lt_one_iff] at fits
    exact fits.symm
  | succ width ih =>
    have front : hexValue (hex width (n / 16)) = n / 16 := by
      apply ih
      rw [Nat.pow_succ] at fits
      omega
    have last := digits (n % 16) (Nat.mod_lt n (by decide))
    rw [hexValue] at front ⊢
    rw [hex, List.foldl_append, front, List.foldl_cons, List.foldl_nil, last]
    omega

/-- The character whose code is written in the first places of a text, and what comes after it. -/
def readCode (width : Nat) (text : Text) : Char × Text :=
  (Char.ofNat (hexValue (text.take width)), text.drop width)

/-- The first character that the inside of a quotation stands for, and what comes after it. -/
def readChar : Text → Option (Char × Text)
  | [] => none
  | '\\' :: 'n' :: rest => some ('\n', rest)
  | '\\' :: 'r' :: rest => some ('\r', rest)
  | '\\' :: 't' :: rest => some ('\t', rest)
  | '\\' :: 'x' :: rest => some (readCode 2 rest)
  | '\\' :: 'u' :: rest => some (readCode 4 rest)
  | '\\' :: 'U' :: rest => some (readCode 8 rest)
  | '\\' :: c :: rest => some (c, rest)
  | c :: rest => some (c, rest)

theorem readChar_cons_of_ne {c : Char} (plain : c ≠ '\\') (rest : Text) :
    readChar (c :: rest) = some (c, rest) := by
  unfold readChar
  split <;> simp_all

theorem readCode_hex_append {width : Nat} {c : Char} (fits : c.toNat < 16 ^ width) (rest : Text) :
    readCode width (hex width c.toNat ++ rest) = (c, rest) := by
  have length := length_hex width c.toNat
  rw [readCode, List.take_left' length, List.drop_left' length, hexValue_hex fits,
    Char.ofNat_toNat]

/-- However a character is written inside a quotation, it is read as what it is. -/
theorem readChar_escapeChar_append {mark : Char} (isMark : mark = '\'' ∨ mark = '"') (c : Char)
    (rest : Text) : readChar (escapeChar mark c ++ rest) = some (c, rest) := by
  have escaped := escaped_escapeChar mark c
  generalize escapeChar mark c = written at escaped ⊢
  cases escaped with
  | own reserved =>
    rcases reserved with rfl | rfl
    · rcases isMark with rfl | rfl <;> rfl
    · rfl
  | lineFeed | carriageReturn | tab => rfl
  | plain printable other => exact readChar_cons_of_ne other rest
  | short fits | medium fits | long fits => exact congrArg some (readCode_hex_append fits rest)

/-- Characters are read off one by one, so what is written alike is alike. -/
theorem flatMap_escapeChar_inj {mark : Char} (isMark : mark = '\'' ∨ mark = '"')
    {text other : Text} (same : text.flatMap (escapeChar mark) = other.flatMap (escapeChar mark)) :
    text = other := by
  induction text generalizing other with
  | nil =>
    cases other with
    | nil => rfl
    | cons d others =>
      have read := congrArg readChar same
      rw [List.flatMap_cons, readChar_escapeChar_append isMark] at read
      cases read
  | cons c rest ih =>
    have read := congrArg readChar same
    rw [List.flatMap_cons, readChar_escapeChar_append isMark] at read
    cases other with
    | nil => cases read
    | cons d others =>
      rw [List.flatMap_cons, readChar_escapeChar_append isMark, Option.some.injEq,
        Prod.mk.injEq] at read
      rw [read.1, ih read.2]

/-- A quotation tells which text it quotes. -/
theorem quoted_injective : Function.Injective quoted := by
  intro text other same
  obtain ⟨mark, enclosed⟩ := List.cons_eq_cons.mp same
  rw [mark] at enclosed
  exact flatMap_escapeChar_inj (quotationMark_eq other) (List.append_cancel_right enclosed)

-- The written form of a line feed, and a line feed.
example : quoted "\\n".toList = "'\\\\n'".toList ∧ quoted "\n".toList = "'\\n'".toList := by
  decide +kernel

end Pathwise.Text
