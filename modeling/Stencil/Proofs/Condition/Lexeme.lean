import Mathlib.Data.List.Chain
import Stencil.Condition.Lexeme
import Stencil.Proofs.Markup.Name
import Stencil.Proofs.Text.Escape

/-!
What the lexemes of conditions are, and how a text is cut into them.

The spellings of a kind are described without their reader. A reader takes such a spelling off a text whenever the
text after it does not go on with a character that could belong to it (`readLexeme?_append`). A cut may end a number
or a name early; the cut that is read is the one whose lexemes cannot run into each other (`lex_of_cut`).
-/

namespace Stencil.Condition

open Markup

section Digits

theorem isDecimal_ranges {c : Char} (decimal : Text.isDecimal c = true) :
    (48 ≤ c.toNat ∧ c.toNat ≤ 57) ∨
      128 ≤ c.toNat ∧ ∃ range ∈ Text.decimalRanges, range.1 ≤ c.toNat ∧ c.toNat ≤ range.2 := by
  unfold Text.isDecimal Text.digitValue? at decimal
  split at decimal
  · rename_i digit
    exact .inl (toNat_of_isDigit digit)
  split at decimal
  · cases decimal
  · rename_i wide
    rw [Option.isSome_map, List.find?_isSome] at decimal
    obtain ⟨range, member, inside⟩ := decimal
    exact .inr ⟨by omega, range, member, by simpa using inside⟩

/-- No decimal digit of any script is blank. -/
theorem isBlank_of_isDecimal {c : Char} (decimal : Text.isDecimal c = true) : Text.isBlank c = false := by
  have gaps : ∀ range ∈ Text.decimalRanges, range.2 < 133 ∨ (160 < range.1 ∧ range.2 < 5760) ∨
      (5760 < range.1 ∧ range.2 < 8192) ∨ 12288 < range.1 := by decide
  have apart : c.toNat < 9 ∨ (32 < c.toNat ∧ c.toNat < 133) ∨ (160 < c.toNat ∧ c.toNat < 5760) ∨
      (5760 < c.toNat ∧ c.toNat < 8192) ∨ 12288 < c.toNat := by
    rcases isDecimal_ranges decimal with digit | ⟨wide, range, member, low, high⟩
    · omega
    · have gap := gaps range member
      omega
  simp only [Text.isBlank, Bool.or_eq_false_iff, Bool.and_eq_false_iff, decide_eq_false_iff_not,
    beq_eq_false_iff_ne, ne_eq]
  omega

theorem isDecimal_of_isNameStart {c : Char} (start : isNameStart c = true) : Text.isDecimal c = false := by
  cases decimal : Text.isDecimal c with
  | false => rfl
  | true =>
    simp only [isNameStart, Bool.or_eq_true, beq_iff_eq] at start
    have letter : 65 ≤ c.toNat ∧ c.toNat ≤ 122 := by
      rcases start with alpha | rfl
      · exact toNat_of_isAlpha alpha
      · decide
    rcases isDecimal_ranges decimal with digit | ⟨wide, _⟩ <;> omega

end Digits

/-- One or more decimal digits. -/
abbrev IsDigits : List Char → Prop :=
  IsRun Text.isDecimal Text.isDecimal

/-- Digits, with or without a fractional part. -/
def IsUnsigned (s : List Char) : Prop :=
  IsDigits s ∨ ∃ whole fraction, IsDigits whole ∧ IsDigits fraction ∧ s = whole ++ '.' :: fraction

/-- Digits with an optional sign and an optional fractional part. -/
def IsNumber (s : List Char) : Prop :=
  IsUnsigned s ∨ ∃ unsigned, IsUnsigned unsigned ∧ s = '-' :: unsigned

/-- A text in quotes of one kind that do not occur in it. -/
def IsQuoted (s : List Char) : Prop :=
  ∃ q inside, (q = '"' ∨ q = '\'') ∧ q ∉ inside ∧ s = q :: (inside ++ [q])

/-- The spellings of a kind of lexemes. -/
def LexemeKind.Spells : LexemeKind → List Char → Prop
  | .string, s => IsQuoted s
  | .number, s => IsNumber s
  | .operator, s => s ∈ [['=', '='], ['!', '='], ['>', '='], ['<', '='], ['>'], ['<']]
  | .name, s => IsPath s
  | .leftParen, s => s = ['(']
  | .rightParen, s => s = [')']
  | .comma, s => s = [',']

/-- Whether a character can belong to a number or a name. -/
def isWordChar (c : Char) : Bool :=
  Text.isDecimal c || isPathChar c

/-- A text that cannot go on with a spelling of a kind. -/
def LexemeKind.Ends : LexemeKind → List Char → Prop
  | .number, s | .name, s => Stops isWordChar s
  | .operator, s => Stops (· == '=') s
  | _, _ => True

section Readers

variable {s text rest : List Char}

theorem IsDigits.all (digits : IsDigits s) : ∀ c ∈ s, Text.isDecimal c = true := by
  obtain ⟨c, others, rfl, first, inside⟩ := digits
  exact List.forall_mem_cons.mpr ⟨first, inside⟩

theorem isDigits_of_all (decimal : ∀ c ∈ s, Text.isDecimal c = true) (nonempty : s ≠ []) : IsDigits s := by
  obtain ⟨c, others, rfl⟩ := List.exists_cons_of_ne_nil nonempty
  obtain ⟨first, inside⟩ := List.forall_mem_cons.mp decimal
  exact ⟨c, others, rfl, first, inside⟩

theorem IsDigits.isEmpty (digits : IsDigits s) : s.isEmpty = false := by
  obtain ⟨c, others, rfl, _⟩ := digits
  rfl

theorem stops_decimal (stop : Stops isWordChar s) : Stops Text.isDecimal s :=
  stop.mono fun c decimal => by simp [isWordChar, decimal]

theorem stops_path (stop : Stops isWordChar s) : Stops isPathChar s :=
  stop.mono fun c named => by simp [isWordChar, named]

theorem endsNumber_of_stops (stop : Stops isWordChar s) : endsNumber s = true := by
  cases s with
  | nil => rfl
  | cons c s =>
    have other := stop c rfl
    cases start : isNameStart c with
    | false => simp [endsNumber, start]
    | true => simp [isWordChar, isPathChar, isNameChar_of_isNameStart start] at other

theorem readDigits?_append (digits : IsDigits text) (stop : Stops isWordChar rest) :
    readDigits? (text ++ rest) = some (text, rest) := by
  have decimal := stops_decimal stop
  simp only [readDigits?, takeWhile_append_of_stops digits.all decimal,
    dropWhile_append_of_stops digits.all decimal, digits.isEmpty, endsNumber_of_stops stop, if_true,
    Bool.false_eq_true, if_false]

theorem readDigits?_sound (read : readDigits? s = some (text, rest)) : IsDigits text ∧ s = text ++ rest := by
  have decimal : ∀ c ∈ s.takeWhile Text.isDecimal, Text.isDecimal c = true := takeWhile_mem
  have whole : s.takeWhile Text.isDecimal ++ s.dropWhile Text.isDecimal = s := List.takeWhile_append_dropWhile
  simp only [readDigits?] at read
  split at read
  · cases read
  rename_i nonempty
  split at read
  · cases read
    exact ⟨isDigits_of_all decimal (by simpa using nonempty), whole.symm⟩
  -- The last digit is left out.
  split at read
  · rename_i c last
    split at read
    · cases read
    rename_i others
    cases read
    obtain ⟨kept, digits⟩ := List.getLast?_eq_some_iff.mp last
    simp only [digits, List.dropLast_concat] at decimal others ⊢
    refine ⟨isDigits_of_all (fun d member => decimal d (List.mem_append_left _ member)) (by simpa using others), ?_⟩
    rw [← List.singleton_append, ← List.append_assoc, ← digits, whole]
  · cases read

theorem readUnsigned?_append (unsigned : IsUnsigned text) (stop : Stops isWordChar rest) :
    readUnsigned? (text ++ rest) = some (text, rest) := by
  rcases unsigned with digits | ⟨whole, fraction, digits, others, rfl⟩
  · have after : (text ++ rest).dropWhile Text.isDecimal = rest :=
      dropWhile_append_of_stops digits.all (stops_decimal stop)
    unfold readUnsigned?
    split
    · rename_i afterPoint point
      rw [after] at point
      rw [point] at stop
      exact absurd (stop '.' rfl) (by decide)
    · exact readDigits?_append digits stop
  · have point : Stops Text.isDecimal ('.' :: (fraction ++ rest)) := stops_cons (by decide)
    simp only [readUnsigned?, List.append_assoc, List.cons_append, dropWhile_append_of_stops digits.all point,
      takeWhile_append_of_stops digits.all point, readDigits?_append others stop, digits.isEmpty, Bool.false_eq_true,
      if_false]

theorem readUnsigned?_sound (read : readUnsigned? s = some (text, rest)) : IsUnsigned text ∧ s = text ++ rest := by
  unfold readUnsigned? at read
  split at read
  · rename_i afterPoint point
    simp only at read
    split at read
    · rename_i fraction after readFraction
      split at read
      · cases read
      rename_i nonempty
      cases read
      obtain ⟨digits, rfl⟩ := readDigits?_sound readFraction
      refine ⟨.inr ⟨_, fraction, isDigits_of_all takeWhile_mem (by simpa using nonempty), digits, rfl⟩, ?_⟩
      rw [List.append_assoc, List.cons_append, ← point, List.takeWhile_append_dropWhile]
    · exact (readDigits?_sound read).imp_left .inl
  · exact (readDigits?_sound read).imp_left .inl

theorem IsUnsigned.first (unsigned : IsUnsigned s) : ∃ c others, s = c :: others ∧ Text.isDecimal c = true := by
  rcases unsigned with ⟨c, others, rfl, first, _⟩ | ⟨_, fraction, ⟨c, others, rfl, first, _⟩, _, rfl⟩
  · exact ⟨c, others, rfl, first⟩
  · exact ⟨c, others ++ '.' :: fraction, rfl, first⟩

theorem readNumber?_of_unsigned {c : Char} (other : c ≠ '-') : readNumber? (c :: s) = readUnsigned? (c :: s) := by
  unfold readNumber?
  split
  · rename_i same
    exact absurd (List.cons.inj same).1 other
  · rfl

theorem readNumber?_append (number : IsNumber text) (stop : Stops isWordChar rest) :
    readNumber? (text ++ rest) = some (text, rest) := by
  rcases number with unsigned | ⟨inside, unsigned, rfl⟩
  · obtain ⟨c, others, rfl, first⟩ := unsigned.first
    have noSign : c ≠ '-' := ne_of_kind first (by decide)
    rw [List.cons_append, readNumber?_of_unsigned noSign]
    exact readUnsigned?_append unsigned stop
  · simp only [List.cons_append, readNumber?, readUnsigned?_append unsigned stop, Option.map_some]

theorem readNumber?_sound (read : readNumber? s = some (text, rest)) : IsNumber text ∧ s = text ++ rest := by
  unfold readNumber? at read
  split at read
  · rename_i s
    rw [Option.map_eq_some_iff] at read
    obtain ⟨⟨inside, after⟩, read, same⟩ := read
    cases same
    obtain ⟨unsigned, rfl⟩ := readUnsigned?_sound read
    exact ⟨.inr ⟨inside, unsigned, rfl⟩, rfl⟩
  · exact (readUnsigned?_sound read).imp_left .inl

theorem readString?_append (quoted : IsQuoted text) : readString? (text ++ rest) = some (text, rest) := by
  obtain ⟨q, inside, quote, free, rfl⟩ := quoted
  have others : ∀ c ∈ inside, (c != q) = true := fun c member => by
    simpa using fun same : c = q => free (same ▸ member)
  have stop : Stops (· != q) (q :: rest) := stops_cons (by simp)
  have quote : (q == '"' || q == '\'') = true := by simpa using quote
  simp only [List.cons_append, List.append_assoc, List.nil_append, readString?, quote, if_true,
    dropWhile_append_of_stops others stop, takeWhile_append_of_stops others stop]

theorem readString?_sound (read : readString? s = some (text, rest)) : IsQuoted text ∧ s = text ++ rest := by
  unfold readString? at read
  split at read
  · rename_i c s
    split at read
    · rename_i quote
      split at read
      · rename_i q after closes
        cases read
        have same : q = c := by
          have stops := List.head?_dropWhile_not (· != c) s
          rw [closes] at stops
          simpa using stops
        have free : c ∉ s.takeWhile (· != c) := fun member => by simpa using takeWhile_mem c member
        subst same
        refine ⟨⟨q, _, by simpa using quote, free, rfl⟩, ?_⟩
        simp [← closes]
      · cases read
    · cases read
  · cases read

theorem readSign?_sound {kind : LexemeKind} (read : readSign? s = some (kind, text, rest)) :
    kind.Spells text ∧ s = text ++ rest := by
  unfold readSign? at read
  split at read <;> cases read <;> exact ⟨by simp [LexemeKind.Spells], rfl⟩

theorem readLexeme?_sound {kind : LexemeKind} (read : readLexeme? s = some (kind, text, rest)) :
    kind.Spells text ∧ s = text ++ rest := by
  simp only [readLexeme?, Option.orElse_eq_orElse, Option.orElse_eq_or, Option.or_eq_some_iff,
    Option.map_eq_some_iff, Prod.exists, Prod.mk.injEq] at read
  rcases read with ⟨_, _, quoted, rfl, rfl, rfl⟩ | ⟨_, ⟨_, _, number, rfl, rfl, rfl⟩ | ⟨_, sign | ⟨_, path⟩⟩⟩
  · exact readString?_sound quoted
  · exact readNumber?_sound number
  · exact readSign?_sound sign
  · obtain ⟨_, _, named, rfl, rfl, rfl⟩ := path
    exact readPath?_sound named

theorem readString?_of_ne {c : Char} (double : c ≠ '"') (single : c ≠ '\'') : readString? (c :: s) = none := by
  simp [readString?, double, single]

theorem readNumber?_of_ne {c : Char} (unsigned : c ≠ '-') (other : Text.isDecimal c = false) :
    readNumber? (c :: s) = none := by
  have here : (c :: s).dropWhile Text.isDecimal = c :: s := List.dropWhile_cons_of_neg (by simp [other])
  have digits : readDigits? (c :: s) = none := by simp [readDigits?, other]
  rw [readNumber?_of_unsigned unsigned, readUnsigned?, here, digits]
  split
  · split
    · simp [other]
    · rfl
  · rfl

theorem readSign?_of_isNameStart {c : Char} (start : isNameStart c = true) : readSign? (c :: s) = none := by
  unfold readSign?
  split <;> first | rfl | (rename_i same; cases same; exact absurd start (by decide))

theorem readSign?_append (sign : LexemeKind.operator.Spells text) (stop : LexemeKind.operator.Ends rest) :
    readSign? (text ++ rest) = some (.operator, text, rest) := by
  -- A sign of one character is read if no longer one can be.
  have alone : ∀ after, rest ≠ '=' :: after := by
    rintro after rfl
    exact absurd (stop '=' rfl) (by decide)
  simp only [LexemeKind.Spells, List.mem_cons, List.not_mem_nil, or_false] at sign
  rcases sign with rfl | rfl | rfl | rfl | rfl | rfl
  · rfl
  · rfl
  · rfl
  · rfl
  · exact readSign?.eq_5 rest alone
  · exact readSign?.eq_6 rest alone

theorem IsNumber.first (number : IsNumber s) : ∃ c others, s = c :: others ∧ (c = '-' ∨ Text.isDecimal c = true) := by
  rcases number with unsigned | ⟨unsigned, _, rfl⟩
  · obtain ⟨c, others, same, first⟩ := unsigned.first
    exact ⟨c, others, same, .inr first⟩
  · exact ⟨'-', unsigned, rfl, .inl rfl⟩

/-- The spelling of a lexeme is read from a text that goes on with something else. -/
theorem readLexeme?_append {kind : LexemeKind} (spells : kind.Spells text) (ends : kind.Ends rest) :
    readLexeme? (text ++ rest) = some (kind, text, rest) := by
  cases kind with
  | string => simp [readLexeme?, readString?_append spells]
  | number =>
    have unquoted : readString? (text ++ rest) = none := by
      obtain ⟨c, others, rfl, first⟩ := spells.first
      refine readString?_of_ne ?_ ?_ <;> rintro rfl <;> exact absurd first (by decide)
    simp [readLexeme?, unquoted, readNumber?_append spells ends]
  | operator =>
    have others : readString? (text ++ rest) = none ∧ readNumber? (text ++ rest) = none := by
      simp only [LexemeKind.Spells, List.mem_cons, List.not_mem_nil, or_false] at spells
      rcases spells with rfl | rfl | rfl | rfl | rfl | rfl <;> exact ⟨rfl, rfl⟩
    simp [readLexeme?, others, readSign?_append spells ends]
  | name =>
    have others : readString? (text ++ rest) = none ∧ readNumber? (text ++ rest) = none ∧
        readSign? (text ++ rest) = none := by
      obtain ⟨c, others, rfl, start, _⟩ := spells
      exact ⟨readString?_of_ne (ne_of_kind start (by decide)) (ne_of_kind start (by decide)),
        readNumber?_of_ne (ne_of_kind start (by decide)) (isDecimal_of_isNameStart start),
        readSign?_of_isNameStart start⟩
    simp [readLexeme?, others, readPath?_append spells (stops_path ends)]
  | leftParen =>
    cases spells
    rfl
  | rightParen =>
    cases spells
    rfl
  | comma =>
    cases spells
    rfl

end Readers

/-- Whether lexemes of a kind begin an operand. -/
def LexemeKind.isOperand : LexemeKind → Bool
  | .string | .number | .name => true
  | _ => false

theorem isWordChar_of_isBlank {c : Char} (blank : Text.isBlank c = true) : isWordChar c = false := by
  cases decimal : Text.isDecimal c with
  | false => simp [isWordChar, decimal, isPathChar_of_isBlank blank]
  | true => rw [isBlank_of_isDecimal decimal] at blank; cases blank

/-- The first character of a lexeme is not blank. That of an operand is no equals sign, and that of any other lexeme
cannot belong to a number or a name. -/
theorem LexemeKind.Spells.first {kind : LexemeKind} {s : List Char} (spells : kind.Spells s) :
    ∃ c others, s = c :: others ∧ Text.isBlank c = false ∧
      if kind.isOperand then (c == '=') = false else isWordChar c = false := by
  cases kind with
  | string =>
    obtain ⟨q, inside, rfl | rfl, _, rfl⟩ := spells <;> exact ⟨_, _, rfl, by decide, by decide⟩
  | number =>
    obtain ⟨c, others, rfl, rfl | first⟩ := IsNumber.first spells
    · exact ⟨_, _, rfl, by decide, by decide⟩
    · exact ⟨c, others, rfl, isBlank_of_isDecimal first, beq_eq_false_iff_ne.mpr (ne_of_kind first (by decide))⟩
  | name =>
    obtain ⟨c, others, rfl, start, _⟩ := spells
    exact ⟨c, others, rfl, isBlank_of_isNameStart start, beq_eq_false_iff_ne.mpr (ne_of_kind start (by decide))⟩
  | operator =>
    simp only [LexemeKind.Spells, List.mem_cons, List.not_mem_nil, or_false] at spells
    rcases spells with rfl | rfl | rfl | rfl | rfl | rfl <;> exact ⟨_, _, rfl, by decide, by decide⟩
  | _ =>
    cases spells
    exact ⟨_, _, rfl, by decide, by decide⟩

theorem IsNumber.chars {s : List Char} (number : IsNumber s) :
    ∀ c ∈ s, Text.isDecimal c = true ∨ c = '.' ∨ c = '-' := by
  have unsigned : ∀ {s}, IsUnsigned s → ∀ c ∈ s, Text.isDecimal c = true ∨ c = '.' ∨ c = '-' := by
    rintro s (digits | ⟨whole, fraction, digits, digits', rfl⟩)
    · exact fun c member => .inl (digits.all c member)
    · refine List.forall_mem_append.mpr ⟨fun c member => .inl (digits.all c member), ?_⟩
      exact List.forall_mem_cons.mpr ⟨.inr (.inl rfl), fun c member => .inl (digits'.all c member)⟩
  rcases number with shape | ⟨inside, shape, rfl⟩
  · exact unsigned shape
  · exact List.forall_mem_cons.mpr ⟨.inr (.inr rfl), unsigned shape⟩

theorem IsNumber.not_blank {s : List Char} (number : IsNumber s) : ∀ c ∈ s, Text.isBlank c = false := by
  intro c member
  rcases number.chars c member with decimal | rfl | rfl
  · exact isBlank_of_isDecimal decimal
  · decide
  · decide

/-- Nor is its last character blank. -/
theorem LexemeKind.Spells.last {kind : LexemeKind} {s : List Char} (spells : kind.Spells s) :
    ∃ others c, s = others ++ [c] ∧ Text.isBlank c = false := by
  have of_all : (∀ c ∈ s, Text.isBlank c = false) → ∃ others c, s = others ++ [c] ∧ Text.isBlank c = false := by
    intro visible
    obtain ⟨c, others, same, _⟩ := spells.first
    have nonempty : s ≠ [] := same ▸ List.cons_ne_nil _ _
    exact ⟨s.dropLast, s.getLast nonempty, (List.dropLast_concat_getLast nonempty).symm,
      visible _ (List.getLast_mem nonempty)⟩
  cases kind with
  | string =>
    obtain ⟨q, inside, rfl | rfl, _, rfl⟩ := spells <;> exact ⟨_ :: inside, _, rfl, by decide⟩
  | number => exact of_all (IsNumber.not_blank spells)
  | name =>
    refine of_all fun c member => Bool.eq_false_iff.mpr fun blank => ?_
    exact Bool.eq_false_iff.mp (isPathChar_of_isBlank blank) (IsPath.chars spells c member)
  | operator =>
    simp only [LexemeKind.Spells, List.mem_cons, List.not_mem_nil, or_false] at spells
    rcases spells with rfl | rfl | rfl | rfl | rfl | rfl <;>
      first | exact ⟨[_], _, rfl, by decide⟩ | exact ⟨[], _, rfl, by decide⟩
  | _ =>
    cases spells
    exact ⟨[], _, rfl, by decide⟩

/-- A text cut into lexemes, with blanks around them, each at the offset where the blanks before it start. -/
inductive Cut : Nat → List Char → List Lexeme → Prop
  | nil {offset blanks} : IsBlankRun blanks → Cut offset blanks []
  | cons {offset blanks kind text rest lexemes} : IsBlankRun blanks → kind.Spells text →
      Cut (offset + (blanks.length + text.length)) rest lexemes →
      Cut offset (blanks ++ (text ++ rest)) (⟨kind, String.ofList text, offset⟩ :: lexemes)

/-- Lexemes that do not run into each other: an operand does not follow one, and an operator is followed by one. -/
def Lexeme.Leads (t next : Lexeme) : Prop :=
  (t.kind.isOperand = true → next.kind.isOperand = false) ∧ (t.kind = .operator → next.kind.isOperand = true)

section Cuts

variable {offset : Nat} {s : List Char} {lexemes : List Lexeme}

/-- The first lexeme of a cut, the blanks before it, and the rest. -/
theorem Cut.uncons {t : Lexeme} (cut : Cut offset s (t :: lexemes)) :
    ∃ blanks rest offset', s = blanks ++ (t.text.toList ++ rest) ∧ IsBlankRun blanks ∧ t.kind.Spells t.text.toList ∧
      Cut offset' rest lexemes := by
  cases cut with
  | @cons _ blanks kind text rest _ blank spells cut =>
    rw [String.toList_ofList]
    exact ⟨blanks, rest, _, rfl, blank, spells, cut⟩

theorem Cut.blank (cut : Cut offset s []) : IsBlankRun s := by
  cases cut with
  | nil blank => exact blank

/-- The last lexeme of a cut, the blanks after it, and what stands before it. -/
theorem Cut.unconcat {t : Lexeme} (cut : Cut offset s (lexemes ++ [t])) :
    ∃ before blanks, s = before ++ (t.text.toList ++ blanks) ∧ IsBlankRun blanks ∧ t.kind.Spells t.text.toList ∧
      Cut offset before lexemes := by
  induction lexemes generalizing offset s with
  | nil =>
    obtain ⟨blanks, rest, _, rfl, blank, spells, cut⟩ := cut.uncons
    exact ⟨blanks, rest, rfl, cut.blank, spells, .nil blank⟩
  | cons u lexemes ih =>
    cases cut with
    | @cons _ blanks kind text rest _ blank spells cut =>
      obtain ⟨before, after, rfl, blank', spells', cut⟩ := ih cut
      exact ⟨blanks ++ (text ++ before), after, by simp, blank', spells', .cons blank spells cut⟩

theorem Cut.append_blanks (cut : Cut offset s lexemes) {blanks : List Char} (blank : IsBlankRun blanks) :
    Cut offset (s ++ blanks) lexemes := by
  induction cut with
  | nil blank' => exact .nil (List.forall_mem_append.mpr ⟨blank', blank⟩)
  | cons blank' spells _ ih =>
    rw [List.append_assoc, List.append_assoc]
    exact .cons blank' spells ih

theorem Cut.stripEnd (cut : Cut offset s lexemes) : Cut offset (Text.stripEnd s) lexemes := by
  induction cut with
  | nil blank =>
    rw [Text.stripEnd_of_blank blank]
    exact .nil (List.forall_mem_nil _)
  | @cons offset blanks kind text rest lexemes blank spells _ ih =>
    obtain ⟨others, c, rfl, visible⟩ := spells.last
    have whole : Text.stripEnd (blanks ++ (others ++ [c] ++ rest)) =
        blanks ++ (others ++ [c] ++ Text.stripEnd rest) := by
      have kept : Text.stripEnd (blanks ++ others ++ [c] ++ rest) = blanks ++ others ++ [c] ++ Text.stripEnd rest :=
        Text.stripEnd_concat_append visible
      simpa only [List.append_assoc] using kept
    rw [whole]
    exact .cons blank spells ih

theorem Cut.ends (cut : Cut offset s lexemes) {t : Lexeme} (leads : ∀ next ∈ lexemes.head?, t.Leads next) :
    t.kind.Ends s := by
  have blankWord : ∀ c, Text.isBlank c = true → isWordChar c = false := fun c => isWordChar_of_isBlank
  have blankSign : ∀ c, Text.isBlank c = true → (c == '=') = false := fun c blank =>
    beq_eq_false_iff_ne.mpr (ne_of_kind blank (by decide))
  cases cut with
  | nil blank =>
    rw [← List.append_nil s]
    cases t.kind with
    | number | name => exact stops_blanks blank blankWord nofun
    | operator => exact stops_blanks blank blankSign nofun
    | _ => exact trivial
  | cons blank spells _ =>
    obtain ⟨c, others, rfl, _, first⟩ := spells.first
    obtain ⟨operand, sign⟩ := leads _ rfl
    cases kind : t.kind with
    | number | name =>
      have other := operand (by rw [kind]; rfl)
      simp only at other
      simp only [other, Bool.false_eq_true, if_false] at first
      exact stops_blanks blank blankWord (stops_cons first)
    | operator =>
      have other := sign kind
      simp only at other
      simp only [other, if_true] at first
      exact stops_blanks blank blankSign (stops_cons first)
    | _ => exact trivial

theorem lexFrom_of_blank (blank : IsBlankRun s) : lexFrom offset s = .ok [] := by
  have skip : s.dropWhile Text.isBlank = [] := List.dropWhile_eq_nil_iff.mpr blank
  rw [lexFrom]
  split
  · rfl
  · rename_i other
    rw [skip] at other
    cases other

theorem lexFrom_of_read {blanks text rest : List Char} {kind : LexemeKind} (blank : IsBlankRun blanks)
    (spells : kind.Spells text) (read : readLexeme? (text ++ rest) = some (kind, text, rest)) :
    lexFrom offset (blanks ++ (text ++ rest)) =
      (lexFrom (offset + (blanks.length + text.length)) rest).map (⟨kind, String.ofList text, offset⟩ :: ·) := by
  obtain ⟨c, others, rfl, visible, _⟩ := spells.first
  have skip : (blanks ++ (c :: others ++ rest)).dropWhile Text.isBlank = c :: others ++ rest :=
    dropWhile_append_of_stops blank (stops_cons visible)
  have shorter : rest.length < (blanks ++ (c :: others ++ rest)).length := by
    simp only [List.length_append, List.length_cons]
    omega
  have width : (blanks ++ (c :: others ++ rest)).length - rest.length = blanks.length + (c :: others).length := by
    simp only [List.length_append, List.length_cons]
    omega
  rw [lexFrom, skip]
  simp only [List.cons_append] at read shorter width ⊢
  simp only [read, shorter, if_true, width]
  cases lexFrom (offset + (blanks.length + (c :: others).length)) rest <;> rfl

theorem lexFrom_of_cut (cut : Cut offset s lexemes) (apart : lexemes.IsChain Lexeme.Leads) :
    lexFrom offset s = .ok lexemes := by
  induction cut with
  | nil blank => exact lexFrom_of_blank blank
  | cons blank spells cut ih =>
    obtain ⟨leads, apart⟩ := List.isChain_cons.mp apart
    rw [lexFrom_of_read blank spells (readLexeme?_append spells (cut.ends leads)), ih apart]
    rfl

theorem cut_of_lexFrom (read : lexFrom offset s = .ok lexemes) : Cut offset s lexemes := by
  fun_induction lexFrom offset s generalizing lexemes with
  | case1 offset s blank =>
    cases read
    exact .nil (List.dropWhile_eq_nil_iff.mp blank)
  | case2 offset s c cs skip kind text rest here shorter ih =>
    obtain ⟨blanks, blank, rfl⟩ := dropWhile_blanks_sound skip
    obtain ⟨spells, same⟩ := readLexeme?_sound here
    rw [same] at ih read ⊢
    have width : (blanks ++ (text ++ rest)).length - rest.length = blanks.length + text.length := by
      simp only [List.length_append]
      omega
    rw [width] at ih read
    cases more : lexFrom (offset + (blanks.length + text.length)) rest with
    | error fault =>
      rw [more] at read
      cases read
    | ok others =>
      rw [more] at read
      cases read
      exact .cons blank spells (ih more)
  | case3 | case4 => cases read

/-- The lexemes that are read off a text are those of a cut of it. -/
theorem cut_of_lex {expression : String} (read : lex expression = .ok lexemes) : Cut 0 expression.toList lexemes := by
  obtain ⟨blanks, whole, blank⟩ := Text.stripEnd_append expression.toList
  rw [whole]
  exact (cut_of_lexFrom read).append_blanks blank

/-- A cut is read if its lexemes do not run into each other. -/
theorem lex_of_cut {expression : String} (cut : Cut 0 expression.toList lexemes)
    (apart : lexemes.IsChain Lexeme.Leads) : lex expression = .ok lexemes :=
  lexFrom_of_cut cut.stripEnd apart

end Cuts

end Stencil.Condition
