import Stencil.Proofs.Condition.Grammar
import Stencil.Proofs.Markup.Argument
import Stencil.Proofs.Template.Layers

/-!
The arguments of a call, read in a condition and in template text.

A condition cuts a call into lexemes and derives its arguments; template text is cut at commas and every part is taken
for a literal or a name. An operand that is no call is spelled by one lexeme (`Spelled`), which is what the cut at the
commas leaves of its part, and both readings give it the same value (`Spelled.value_eq`), unless a name is bound that
reads as a literal.
-/

namespace Stencil

/-- A name that does not read as a literal: it is no truth value and begins as no number does. Identifiers other than
the truth values are such names (`nameable_of_isName`), those with letters of any script included. -/
def Nameable (name : String) : Prop :=
  ¬ Condition.IsTruth name ∧ ∀ c ∈ name.toList.head?, Text.isDecimal c = false ∧ c ≠ '-'

theorem nameable_of_isName {name : String} (shape : Markup.IsName name.toList) (free : ¬ Condition.IsTruth name) :
    Nameable name := by
  obtain ⟨c, rest, same, start, _⟩ := shape
  refine ⟨free, fun d first => ?_⟩
  rw [same] at first
  cases first
  exact ⟨Condition.isDecimal_of_isNameStart start, Markup.ne_of_kind start (by decide)⟩

/-- A scope that binds no name that reads as a literal. -/
def Scope.SparesLiterals (scope : Scope) : Prop :=
  ∀ name, (scope.get? name).isSome = true → Nameable name

namespace Scope.SparesLiterals

variable {scope : Scope}

theorem lookup_number (spares : scope.SparesLiterals) {text : String} {c : Char} {rest : List Char}
    (same : text.toList = c :: rest) (number : c = '-' ∨ Text.isDecimal c = true) : scope.lookup text = .ok none := by
  have root : (Value.pathRoot text).toList.head? = some c := by
    have noDot : (c != '.') = true := by
      rw [bne_iff_ne]
      rintro rfl
      exact absurd number (by decide)
    simp [Value.pathRoot, same, noDot]
  have free : scope.get? (Value.pathRoot text) = none := by
    by_contra bound
    obtain ⟨_, first⟩ := spares _ (Option.isSome_iff_ne_none.mpr bound)
    obtain ⟨digit, sign⟩ := first c root
    rcases number with rfl | decimal
    · exact sign rfl
    · cases digit.symm.trans decimal
  simp only [lookup, Value.resolveWith, free]

theorem lookup_truth (spares : scope.SparesLiterals) {word : String} (truth : Condition.IsTruth word) :
    scope.lookup word = .ok none := by
  have noDot : '.' ∉ word.toList := by
    rcases truth with rfl | rfl <;> decide
  rw [lookup_of_free noDot]
  by_contra bound
  exact (spares word (Option.isSome_iff_ne_none.mpr fun free => bound (congrArg Except.ok free))).1 truth

end Scope.SparesLiterals

namespace Condition

open Markup

/-- The spellings of operands that are no calls. -/
inductive Spelled : String → Operand → Prop
  | string {text} : IsQuoted text.toList → Spelled text (.literal (unquote text))
  | number {text} : IsNumber text.toList → Spelled text (.literal (numberLiteral text))
  | yes : Spelled "true" (.literal (.bool true))
  | no : Spelled "false" (.literal (.bool false))
  | reference {name} : IsPath name.toList → ¬ IsTruth name → Spelled name (.reference name)

section Cutting

variable {kind : LexemeKind} {s : List Char} {offset : Nat} {operand : Operand} {lexemes : List Lexeme}

theorem isPlainChar_of_isWordChar {c : Char} (word : isWordChar c = true) : isPlainChar c = true :=
  isPlainChar_of_kind word (by decide)

/-- No comma in an operand stands outside quotes. -/
theorem LexemeKind.Spells.passes (operand : kind.isOperand = true) (spells : kind.Spells s) : Passes none s none := by
  cases kind with
  | string =>
    obtain ⟨q, inside, quote, free, rfl⟩ := spells
    exact passes_quoted quote free
  | number =>
    refine passes_of_plain fun c member => ?_
    rcases IsNumber.chars spells c member with decimal | rfl | rfl
    · exact isPlainChar_of_isWordChar (by simp [isWordChar, decimal])
    · decide
    · decide
  | name =>
    refine passes_of_plain fun c member => isPlainChar_of_isWordChar ?_
    simp [isWordChar, IsPath.chars spells c member]
  | _ => cases operand

/-- Blanks around a lexeme are not part of an argument. -/
theorem LexemeKind.Spells.strip (spells : kind.Spells s) {before after : List Char} (blank : IsBlankRun before)
    (blank' : IsBlankRun after) : Text.strip (before ++ (s ++ after)) = s := by
  obtain ⟨c, cs, same, visible, _⟩ := spells.first
  have start : Text.stripStart (before ++ (s ++ after)) = s ++ after := by
    rw [same]
    exact dropWhile_append_of_stops blank (stops_cons visible)
  obtain ⟨others, d, rfl, visible'⟩ := spells.last
  rw [Text.strip, start, Text.stripEnd_concat_append visible', Text.stripEnd_of_blank blank', List.append_nil]

/-- An operand that is no call is derived from one lexeme. -/
theorem reads_single (reads : Reads lexemes operand) (flat : operand.calls = []) :
    ∃ t, lexemes = [t] ∧ t.kind.isOperand = true ∧ (t.kind.Spells t.text.toList → Spelled t.text operand) := by
  cases reads with
  | string => exact ⟨_, rfl, rfl, .string⟩
  | number => exact ⟨_, rfl, rfl, .number⟩
  | yes => exact ⟨_, rfl, rfl, fun _ => .yes⟩
  | no => exact ⟨_, rfl, rfl, fun _ => .no⟩
  | reference free => exact ⟨_, rfl, rfl, fun shape => .reference shape free⟩
  | plainCall | call => simp [Operand.calls] at flat

/-- The cut at the commas leaves the spellings of the operands. -/
theorem spelled_of_cut {operands : List Operand} (cut : Cut offset s lexemes) (reads : ReadsList lexemes operands)
    (flat : callsOf operands = []) :
    List.Forall₂ Spelled ((cutArguments none s).map fun part => String.ofList (Text.strip part)) operands := by
  induction operands generalizing offset s lexemes with
  | nil => cases reads
  | cons operand operands ih =>
    obtain ⟨own, others⟩ := List.append_eq_nil_iff.mp (by simpa only [callsOf] using flat)
    cases reads with
    | last reads =>
      obtain ⟨t, rfl, isOperand, spelled⟩ := reads_single reads own
      obtain ⟨before, after, _, rfl, blank, spells, cut⟩ := cut.uncons
      have blank' := cut.blank
      have passes := (passes_blanks blank).append ((spells.passes isOperand).append (passes_blanks blank'))
      rw [cutArguments_of_passes passes, List.map_singleton, spells.strip blank blank', String.ofList_toList]
      exact .cons (spelled spells) .nil
    | more reads reads' =>
      obtain ⟨t, rfl, isOperand, spelled⟩ := reads_single reads own
      obtain ⟨before, rest, _, rfl, blank, spells, cut⟩ := cut.uncons
      obtain ⟨between, rest, _, rfl, blank', comma, cut⟩ := cut.uncons
      have passes := (passes_blanks blank).append ((spells.passes isOperand).append (passes_blanks blank'))
      have whole : before ++ (t.text.toList ++ (between ++ ([','] ++ rest))) =
          before ++ (t.text.toList ++ between) ++ ',' :: rest := by simp
      rw [show _ = [','] from comma, whole, cutArguments_comma passes, List.map_cons, spells.strip blank blank',
        String.ofList_toList]
      exact .cons (spelled spells) (ih cut reads' others)

end Cutting

section Values

variable {text : String} {operand : Operand} {scope : Scope}

theorem isPlainNumber_of_not_sign {c : Char} (other : c ≠ '-') (rest : List Char) :
    isPlainNumber ('-' :: c :: rest) = isPlainNumber (c :: rest) := by
  conv_rhs => unfold isPlainNumber
  split
  · rename_i same
    exact absurd (List.cons.inj same).1 other
  · rfl

theorem isPlainNumber_of_isNumber {s : List Char} (number : IsNumber s) : isPlainNumber s = true := by
  have signed : ∀ {u}, IsUnsigned u → isPlainNumber ('-' :: u) = true := by
    rintro u (digits | ⟨whole, fraction, digits, digits', rfl⟩)
    · have nothing : u.dropWhile Text.isDecimal = [] := List.dropWhile_eq_nil_iff.mpr digits.all
      simp [isPlainNumber, nothing, digits.isEmpty]
    · have point : Stops Text.isDecimal ('.' :: fraction) := stops_cons (by decide)
      simpa [isPlainNumber, dropWhile_append_of_stops digits.all point, takeWhile_append_of_stops digits.all point,
        digits.isEmpty, digits'.isEmpty] using digits'.all
  rcases number with unsigned | ⟨u, unsigned, rfl⟩
  · obtain ⟨c, others, rfl, first⟩ := unsigned.first
    have noSign : c ≠ '-' := ne_of_kind first (by decide)
    rw [← isPlainNumber_of_not_sign noSign, signed unsigned]
  · exact signed unsigned

theorem isPlainNumber_of_isNameStart {c : Char} (start : isNameStart c = true) (rest : List Char) :
    isPlainNumber (c :: rest) = false := by
  have noSign : c ≠ '-' := ne_of_kind start (by decide)
  have noPoint : c ≠ '.' := ne_of_kind start (by decide)
  rw [← isPlainNumber_of_not_sign noSign]
  simp [isPlainNumber, isDecimal_of_isNameStart start, noPoint]

theorem eq_of_isQuote {c : Char} (quote : isQuote c = true) : c = '"' ∨ c = '\'' := by
  simpa [isQuote] using quote

theorem unquoted?_of_not_isQuote {c : Char} (other : isQuote c = false) (rest : List Char) :
    unquoted? (c :: rest) = none := by
  simp only [unquoted?, other, Bool.false_and, Bool.false_eq_true, if_false]
  split <;> rfl

theorem unquoted?_quoted {q : Char} (quote : isQuote q = true) (inside : List Char) :
    unquoted? (q :: (inside ++ [q])) = some inside := by
  simp [unquoted?, quote]

/-- The value of an argument that opens with no quote. -/
theorem resolveArgument_of_not_isQuote {c : Char} {rest : List Char} (same : text.toList = c :: rest)
    (other : isQuote c = false) :
    resolveArgument text scope = do
      match ← scope.lookup text with
      | some v => return v
      | none => return parseLiteral text := by
  unfold resolveArgument
  rw [same]
  exact if_neg (by simp [other])

theorem isQuote_of_number_start {c : Char} (first : c = '-' ∨ Text.isDecimal c = true) : isQuote c = false := by
  refine Bool.eq_false_iff.mpr fun quote => ?_
  rcases eq_of_isQuote quote with rfl | rfl <;> exact absurd first (by decide)

theorem isQuote_of_isNameStart {c : Char} (start : isNameStart c = true) : isQuote c = false := by
  refine Bool.eq_false_iff.mpr fun quote => ?_
  rcases eq_of_isQuote quote with rfl | rfl <;> exact absurd start (by decide)

theorem parseLiteral_of_number (number : IsNumber text.toList) : parseLiteral text = numberLiteral text := by
  obtain ⟨c, rest, same, first⟩ := number.first
  have noWord : (text == "true") = false ∧ (text == "false") = false := by
    constructor <;> rw [beq_eq_false_iff_ne] <;> rintro rfl <;> cases same <;> exact absurd first (by decide)
  have plain : isPlainNumber (c :: rest) = true := same ▸ isPlainNumber_of_isNumber number
  simp only [parseLiteral, same, unquoted?_of_not_isQuote (isQuote_of_number_start first), noWord, plain,
    Bool.false_eq_true, if_false, if_true]
  rfl

theorem parseLiteral_of_path (shape : IsPath text.toList) (free : ¬ IsTruth text) : parseLiteral text = .str text := by
  obtain ⟨c, rest, same, start, _⟩ := shape
  obtain ⟨noTrue, noFalse⟩ := not_or.mp free
  simp only [parseLiteral, same, unquoted?_of_not_isQuote (isQuote_of_isNameStart start),
    isPlainNumber_of_isNameStart start, noTrue, noFalse, beq_iff_eq, Bool.false_eq_true, if_false]

theorem resolveArgument_of_isQuoted (quoted : IsQuoted text.toList) (scope : Scope) :
    resolveArgument text scope = .ok (unquote text) := by
  obtain ⟨q, inside, quote, _, same⟩ := quoted
  have opens : isQuote q = true := by simpa [isQuote] using quote
  unfold resolveArgument
  rw [same]
  simp only [opens, if_true, parseLiteral, same, unquoted?_quoted opens, unquote, List.drop_one, List.tail_cons,
    List.dropLast_concat]

/-- Both readings give an operand the same value. -/
theorem Spelled.value_eq (spelled : Spelled text operand) (spares : scope.SparesLiterals) (functions : Functions) :
    operand.value scope functions true = Call.ofExcept (resolveArgument text scope) := by
  cases spelled with
  | string quoted =>
    rw [resolveArgument_of_isQuoted quoted, Operand.value]
    rfl
  | number number =>
    obtain ⟨c, rest, same, first⟩ := number.first
    rw [resolveArgument_of_not_isQuote same (isQuote_of_number_start first), spares.lookup_number same first,
      ← parseLiteral_of_number number, Operand.value]
    rfl
  | yes =>
    rw [resolveArgument_of_not_isQuote (c := 't') rfl (by decide), spares.lookup_truth (.inl rfl), Operand.value]
    rfl
  | no =>
    rw [resolveArgument_of_not_isQuote (c := 'f') rfl (by decide), spares.lookup_truth (.inr rfl), Operand.value]
    rfl
  | reference shape free =>
    have word := parseLiteral_of_path shape free
    obtain ⟨c, rest, same, start, _⟩ := shape
    rw [resolveArgument_of_not_isQuote same (isQuote_of_isNameStart start), Operand.value, word]
    rcases scope.lookup text with e | _ | v <;> rfl

theorem valuesOf_of_spelled {texts : List String} {operands : List Operand}
    (spelled : List.Forall₂ Spelled texts operands) (spares : scope.SparesLiterals) (functions : Functions) :
    valuesOf scope functions operands = Call.ofExcept (Render.arguments scope texts) := by
  induction spelled with
  | nil => rfl
  | cons head tail ih =>
    rw [valuesOf, Render.arguments, head.value_eq spares, ih]
    rcases resolveArgument _ scope with e | v
    · rfl
    · rcases Render.arguments scope _ with e | vs <;> rfl

end Values

theorem eq_nil_of_blanks_append {blanks s t : List Char} {c : Char} (same : blanks ++ s = c :: t)
    (blank : IsBlankRun blanks) (visible : Text.isBlank c = false) : blanks = [] := by
  cases blanks with
  | nil => rfl
  | cons b blanks =>
    cases (List.cons.inj same).1
    cases visible.symm.trans (blank _ (List.mem_cons_self ..))

theorem eq_nil_of_append_blanks {blanks s t : List Char} {c : Char} (same : s ++ blanks = t ++ [c])
    (blank : IsBlankRun blanks) (visible : Text.isBlank c = false) : blanks = [] := by
  have reversed := congrArg List.reverse same
  simp only [List.reverse_append, List.reverse_cons, List.reverse_nil, List.nil_append, List.singleton_append] at reversed
  have nothing := eq_nil_of_blanks_append reversed (fun d member => blank d (List.mem_reverse.mp member)) visible
  exact List.reverse_eq_nil_iff.mp nothing

/-- The text between the parentheses of a call is cut into the lexemes of its arguments. -/
theorem cut_of_call {name arguments l r : String} {n m k : Nat} (inside : List Lexeme)
    (cut : Cut 0 (name ++ "(" ++ arguments ++ ")").toList
      (⟨.name, name, n⟩ :: ⟨.leftParen, l, m⟩ :: (inside ++ [⟨.rightParen, r, k⟩]))) :
    ∃ offset, Cut offset arguments.toList inside := by
  obtain ⟨blanks, rest, _, whole, blank, named, cut⟩ := cut.uncons
  obtain ⟨between, rest, offset, rfl, blank', opens, cut⟩ := cut.uncons
  obtain ⟨before, after, rfl, blank'', closes, cut⟩ := cut.unconcat
  have opens : l.toList = ['('] := opens
  have closes : r.toList = [')'] := closes
  simp only [String.toList_append, opens, closes, List.append_assoc, List.singleton_append] at whole
  have whole : name.toList ++ '(' :: (arguments.toList ++ [')']) =
      blanks ++ (name.toList ++ (between ++ '(' :: (before ++ ')' :: after))) := whole
  obtain ⟨c, others, path, start, _⟩ := named
  have path : name.toList = c :: others := path
  -- Nothing but the parts of the call stands in its text: blanks would have to begin or end one of them.
  have none₁ : blanks = [] := by
    rw [path] at whole
    exact eq_nil_of_blanks_append whole.symm blank (isBlank_of_isNameStart start)
  rw [none₁, List.nil_append, List.append_cancel_left_eq] at whole
  have none₂ : between = [] := eq_nil_of_blanks_append whole.symm blank' (by decide)
  rw [none₂, List.nil_append, List.cons.injEq] at whole
  have inner : before ++ [')'] ++ after = arguments.toList ++ [')'] := by simpa using whole.2.symm
  have none₃ : after = [] := eq_nil_of_append_blanks inner blank'' (by decide)
  rw [none₃, List.append_nil, List.append_cancel_right_eq] at inner
  exact ⟨offset, inner ▸ cut⟩

theorem Spelled.ne_empty {text : String} {operand : Operand} (spelled : Spelled text operand) : text ≠ "" := by
  cases spelled with
  | string quoted =>
    rintro rfl
    obtain ⟨_, _, _, _, same⟩ := quoted
    exact List.cons_ne_nil _ _ same.symm
  | number number =>
    rintro rfl
    obtain ⟨_, _, same, _⟩ := number.first
    exact List.cons_ne_nil _ _ same.symm
  | yes | no => decide
  | reference shape =>
    rintro rfl
    obtain ⟨_, _, same, _⟩ := shape
    exact List.cons_ne_nil _ _ same.symm

theorem not_mem_of_spelled {texts : List String} {operands : List Operand}
    (spelled : List.Forall₂ Spelled texts operands) : "" ∉ texts := by
  induction spelled with
  | nil => exact List.not_mem_nil
  | cons head _ ih => exact fun member => (List.mem_cons.mp member).elim head.ne_empty.symm ih

/-- What a call is split into at its commas are the spellings of its arguments. -/
theorem spelled_of_call {name arguments : String} {lexemes : List Lexeme} {operands : List Operand}
    (cut : Cut 0 (name ++ "(" ++ arguments ++ ")").toList lexemes) (reads : Reads lexemes (.call name operands))
    (flat : callsOf operands = []) : List.Forall₂ Spelled (splitArguments arguments) operands := by
  cases reads with
  | plainCall =>
    obtain ⟨_, cut⟩ := cut_of_call [] cut
    have nothing : Text.strip arguments.toList = [] := by
      rw [Text.strip, Text.stripStart, List.dropWhile_eq_nil_iff.mpr cut.blank]
      rfl
    rw [splitArguments, cutArguments_of_passes (passes_blanks cut.blank), List.map_singleton, nothing]
    exact .nil
  | call _ reads =>
    obtain ⟨_, cut⟩ := cut_of_call _ cut
    have spelled := spelled_of_cut cut reads flat
    rw [splitArguments, dropEmptyLast_of_nonempty, List.map_map]
    · exact spelled
    · intro part member empty
      refine not_mem_of_spelled spelled (List.mem_map.mpr ?_)
      obtain ⟨piece, inside, rfl⟩ := List.mem_map.mp member
      exact ⟨piece, inside, by rw [empty]⟩

/-- A call in a condition whose arguments hold no further call passes the values, or fails at them, as template text
with the same name and arguments does, in every scope that binds no name that reads as a literal. -/
theorem call_arguments {name arguments : String} {c : Condition} {operands : List Operand}
    (compiled : compile (name ++ "(" ++ arguments ++ ")") = .ok c) (called : c.left = .call name operands)
    (alone : c.comparison = none) (flat : callsOf operands = []) {scope : Scope} (spares : scope.SparesLiterals)
    (functions : Functions) :
    valuesOf scope functions operands = Call.ofExcept (Render.arguments scope (splitArguments arguments)) ∧
      ∀ f, functions.get? name = some f → ∀ bareWord, c.left.value scope functions bareWord =
        (do f (← Call.ofExcept (Render.arguments scope (splitArguments arguments)))) := by
  obtain ⟨_, lexemes, cut, reads⟩ := compile_eq_ok_iff.mp compiled
  simp only [called, alone] at reads
  obtain ⟨reads⟩ := reads
  have values := valuesOf_of_spelled (spelled_of_call cut reads flat) spares functions
  refine ⟨values, fun f found bareWord => ?_⟩
  rw [called, Operand.value, found, values]

/-- Arguments of several kinds: a name that is bound and one that is not, a text with a comma, and a number. -/
def guests : String :=
  "team , 'Ada, Bo', -2, other.one "

/-- A scope that binds one name. -/
def evening : Scope :=
  .ofBindings [("team", .bool true)]

theorem guests_passed :
    ∃ c operands, compile ("list" ++ "(" ++ guests ++ ")") = .ok c ∧ c.left = .call "list" operands ∧
      c.comparison = none ∧ callsOf operands = [] ∧ evening.SparesLiterals ∧
      valuesOf evening [] operands = pure [.bool true, .str "Ada, Bo", .int (-2), .str "other.one"] := by
  have compiled : compile ("list" ++ "(" ++ guests ++ ")") =
      .ok ⟨"list" ++ "(" ++ guests ++ ")", .call "list" [.reference "team", .literal (.str "Ada, Bo"),
        .literal (.int (-2)), .reference "other.one"], none⟩ := by with_unfolding_all rfl
  have spares : evening.SparesLiterals := by
    intro name bound
    have same : name = "team" := by
      by_contra other
      simp [evening, Scope.get?, Scope.ofBindings, Assoc.get?, Ne.symm other] at bound
    subst same
    exact nameable_of_isName (by decide) (by decide)
  refine ⟨_, _, compiled, rfl, rfl, rfl, spares, ?_⟩
  rw [(call_arguments compiled rfl rfl rfl spares []).1]
  rfl

end Condition

end Stencil
