import Stencil.Condition.Basic
import Stencil.Proofs.Condition.Lexeme

/-!
The grammar of conditions.

It is stated on lexemes without regard to how they are read. What the reader takes is derived (`reads_of_readOperand`),
and what is derived is taken where no parenthesis follows (`readOperand_append`). The lexemes of a derivation do not run
into each other, so a text has one cut that is derived if it has any, and that is the one that is read.
-/

namespace Stencil.Condition

/-- The words that stand for truth values. -/
def IsTruth (word : String) : Prop :=
  word = "true" ∨ word = "false"

instance : DecidablePred IsTruth := fun word => inferInstanceAs (Decidable (word = "true" ∨ word = "false"))

mutual

/-- The lexemes that an operand is derived from. -/
inductive Reads : List Lexeme → Operand → Prop
  | string {text n} : Reads [⟨.string, text, n⟩] (.literal (unquote text))
  | number {text n} : Reads [⟨.number, text, n⟩] (.literal (numberLiteral text))
  | yes {n} : Reads [⟨.name, "true", n⟩] (.literal (.bool true))
  | no {n} : Reads [⟨.name, "false", n⟩] (.literal (.bool false))
  | reference {name n} : ¬ IsTruth name → Reads [⟨.name, name, n⟩] (.reference name)
  | plainCall {name n l m r k} : ¬ IsTruth name →
      Reads [⟨.name, name, n⟩, ⟨.leftParen, l, m⟩, ⟨.rightParen, r, k⟩] (.call name [])
  | call {name n l m r k inside arguments} : ¬ IsTruth name → ReadsList inside arguments →
      Reads (⟨.name, name, n⟩ :: ⟨.leftParen, l, m⟩ :: (inside ++ [⟨.rightParen, r, k⟩])) (.call name arguments)

/-- The lexemes that operands with commas between them are derived from. -/
inductive ReadsList : List Lexeme → List Operand → Prop
  | last {lexemes operand} : Reads lexemes operand → ReadsList lexemes [operand]
  | more {lexemes operand c k rest operands} : Reads lexemes operand → ReadsList rest operands →
      ReadsList (lexemes ++ ⟨.comma, c, k⟩ :: rest) (operand :: operands)

end

/-- The lexemes that a condition is derived from: an operand, or two with a comparison between them. -/
inductive ReadsCondition : List Lexeme → Operand → Option (Comparison × Operand) → Prop
  | alone {lexemes operand} : Reads lexemes operand → ReadsCondition lexemes operand none
  | comparison {lexemes left sign k comparison rest right} : Reads lexemes left →
      Comparison.ofSign? sign = some comparison → Reads rest right →
      ReadsCondition (lexemes ++ ⟨.operator, sign, k⟩ :: rest) left (some (comparison, right))

section Apart

/-- What does not continue an operand. -/
def Breaks (rest : List Lexeme) : Prop :=
  ∀ next ∈ rest.head?, next.kind.isOperand = false

theorem breaks_nil : Breaks [] :=
  nofun

theorem breaks_cons {t : Lexeme} {rest : List Lexeme} (other : t.kind.isOperand = false) : Breaks (t :: rest) := by
  intro next first
  cases first
  exact other

theorem Reads.head {lexemes : List Lexeme} {operand : Operand} (reads : Reads lexemes operand) :
    ∃ t rest, lexemes = t :: rest ∧ t.kind.isOperand = true := by
  cases reads <;> exact ⟨_, _, rfl, rfl⟩

theorem ReadsList.head {lexemes : List Lexeme} {operands : List Operand} (reads : ReadsList lexemes operands) :
    ∃ t rest, lexemes = t :: rest ∧ t.kind.isOperand = true := by
  cases reads with
  | last reads => exact reads.head
  | more reads others =>
    obtain ⟨t, rest, rfl, operand⟩ := reads.head
    exact ⟨t, _, List.cons_append, operand⟩

/-- A lexeme after which anything can stand. -/
theorem isChain_cons_of_other {t : Lexeme} {rest : List Lexeme} (other : t.kind.isOperand = false)
    (noSign : t.kind ≠ .operator) (apart : rest.IsChain Lexeme.Leads) : (t :: rest).IsChain Lexeme.Leads := by
  refine List.isChain_cons.mpr ⟨fun next _ => ⟨fun operand => ?_, fun sign => absurd sign noSign⟩, apart⟩
  rw [other] at operand
  cases operand

/-- A lexeme of an operand before what does not continue it. -/
theorem isChain_cons_of_operand {t : Lexeme} {rest : List Lexeme} (operand : t.kind.isOperand = true)
    (apart : rest.IsChain Lexeme.Leads) (breaks : Breaks rest) : (t :: rest).IsChain Lexeme.Leads := by
  refine List.isChain_cons.mpr ⟨fun next first => ⟨fun _ => breaks next first, fun sign => ?_⟩, apart⟩
  rw [sign] at operand
  cases operand

mutual

/-- The lexemes of an operand do not run into each other, nor into what does not continue the operand. -/
theorem Reads.isChain (operand : Operand) {lexemes rest : List Lexeme} (reads : Reads lexemes operand)
    (apart : rest.IsChain Lexeme.Leads) (breaks : Breaks rest) : (lexemes ++ rest).IsChain Lexeme.Leads := by
  cases operand with
  | literal v => cases reads <;> exact isChain_cons_of_operand rfl apart breaks
  | reference path =>
    cases reads with
    | reference => exact isChain_cons_of_operand rfl apart breaks
  | call name arguments =>
    cases reads with
    | plainCall =>
      refine isChain_cons_of_operand rfl (isChain_cons_of_other rfl nofun ?_) (breaks_cons rfl)
      exact isChain_cons_of_other rfl nofun apart
    | @call _ _ _ _ r k inside _ _ reads =>
      have closed : (⟨.rightParen, r, k⟩ :: rest).IsChain Lexeme.Leads := isChain_cons_of_other rfl nofun apart
      have inner : (inside ++ ⟨.rightParen, r, k⟩ :: rest).IsChain Lexeme.Leads :=
        ReadsList.isChain arguments reads closed (breaks_cons rfl)
      simp only [List.cons_append, List.append_assoc, List.nil_append]
      exact isChain_cons_of_operand rfl (isChain_cons_of_other rfl nofun inner) (breaks_cons rfl)

theorem ReadsList.isChain (operands : List Operand) {lexemes rest : List Lexeme} (reads : ReadsList lexemes operands)
    (apart : rest.IsChain Lexeme.Leads) (breaks : Breaks rest) : (lexemes ++ rest).IsChain Lexeme.Leads := by
  cases operands with
  | nil => cases reads
  | cons operand operands =>
    cases reads with
    | last reads => exact Reads.isChain operand reads apart breaks
    | more reads others =>
      rw [List.append_assoc, List.cons_append]
      have tail := ReadsList.isChain operands others apart breaks
      exact Reads.isChain operand reads (isChain_cons_of_other rfl nofun tail) (breaks_cons rfl)

end

theorem ReadsCondition.isChain {lexemes : List Lexeme} {left : Operand} {comparison : Option (Comparison × Operand)}
    (reads : ReadsCondition lexemes left comparison) : lexemes.IsChain Lexeme.Leads := by
  cases reads with
  | alone reads =>
    rw [← List.append_nil lexemes]
    exact reads.isChain _ .nil breaks_nil
  | @comparison before _ sign k _ after _ reads _ others =>
    have tail : after.IsChain Lexeme.Leads := by
      rw [← List.append_nil after]
      exact others.isChain _ .nil breaks_nil
    obtain ⟨t, more, rfl, operand⟩ := others.head
    have sign : (⟨.operator, sign, k⟩ :: t :: more).IsChain Lexeme.Leads :=
      List.isChain_cons_cons.mpr ⟨⟨nofun, fun _ => operand⟩, tail⟩
    exact reads.isChain _ sign (breaks_cons rfl)

end Apart

section Readers

mutual

/-- What is read as an operand is derived. -/
theorem reads_of_readOperand {lexemes : List Lexeme} {operand : Operand} {after : Shorter lexemes}
    (read : readOperand lexemes = .ok (operand, after)) : ∃ taken, lexemes = taken ++ after.1 ∧ Reads taken operand := by
  unfold readOperand at read
  cases lexemes with
  | nil => cases read
  | cons t rest =>
    obtain ⟨kind, text, n⟩ := t
    cases kind with
    | string =>
      cases read
      exact ⟨_, rfl, .string⟩
    | number =>
      cases read
      exact ⟨_, rfl, .number⟩
    | name =>
      simp only [beq_iff_eq] at read
      split at read
      · rename_i yes
        cases yes
        cases read
        exact ⟨_, rfl, .yes⟩
      split at read
      · rename_i no
        cases no
        cases read
        exact ⟨_, rfl, .no⟩
      rename_i noTrue noFalse
      have free : ¬ IsTruth text := fun truth => truth.elim noTrue noFalse
      cases rest with
      | nil =>
        cases read
        exact ⟨_, rfl, .reference free⟩
      | cons p inside =>
        simp only at read
        split at read
        · rename_i opens
          obtain ⟨_, l, m⟩ := p
          cases opens
          split at read
          · cases read
          · rename_i arguments after shorter readInside
            cases read
            rcases reads_of_readArguments readInside with ⟨rfl, r, k, same⟩ | ⟨taken, r, k, same, reads⟩
            · exact ⟨_, congrArg (_ :: _ :: ·) same, .plainCall free⟩
            · refine ⟨⟨.name, text, n⟩ :: ⟨.leftParen, l, m⟩ :: (taken ++ [⟨.rightParen, r, k⟩]), ?_, .call free reads⟩
              simp [same]
        · cases read
          exact ⟨_, rfl, .reference free⟩
    | _ => cases read
termination_by 2 * lexemes.length

/-- What is read as arguments is nothing or derived, before a closing parenthesis. -/
theorem reads_of_readArguments {lexemes : List Lexeme} {operands : List Operand} {after : Shorter lexemes}
    (read : readArguments lexemes = .ok (operands, after)) :
    (operands = [] ∧ ∃ r k, lexemes = ⟨.rightParen, r, k⟩ :: after.1) ∨
      ∃ taken r k, lexemes = taken ++ ⟨.rightParen, r, k⟩ :: after.1 ∧ ReadsList taken operands := by
  unfold readArguments at read
  cases lexemes with
  | nil => cases read
  | cons t rest =>
    simp only [beq_iff_eq] at read
    split at read
    · rename_i closes
      obtain ⟨_, r, k⟩ := t
      cases closes
      cases read
      exact .inl ⟨rfl, r, k, rfl⟩
    · exact .inr (reads_of_readMoreArguments read)
termination_by 2 * lexemes.length + 2

theorem reads_of_readMoreArguments {lexemes : List Lexeme} {operands : List Operand} {after : Shorter lexemes}
    (read : readMoreArguments lexemes = .ok (operands, after)) :
    ∃ taken r k, lexemes = taken ++ ⟨.rightParen, r, k⟩ :: after.1 ∧ ReadsList taken operands := by
  unfold readMoreArguments at read
  split at read
  · cases read
  · cases read
  · rename_i argument t rest shorter readFirst
    have closer : rest.length < lexemes.length := by
      simp only [List.length_cons] at shorter
      omega
    obtain ⟨kind, text, k⟩ := t
    obtain ⟨taken, whole, reads⟩ := reads_of_readOperand readFirst
    cases kind with
    | rightParen =>
      cases read
      exact ⟨taken, text, k, whole, .last reads⟩
    | comma =>
      simp only at read
      split at read
      · cases read
      · rename_i arguments after shorter readRest
        cases read
        obtain ⟨others, r, k', same, more⟩ := reads_of_readMoreArguments readRest
        refine ⟨taken ++ ⟨.comma, text, k⟩ :: others, r, k', whole.trans ?_, .more reads more⟩
        simp only at same
        rw [List.append_assoc, List.cons_append, ← same]
    | _ => cases read
termination_by 2 * lexemes.length + 1

end

theorem readArguments_of_operand {t : Lexeme} (operand : t.kind.isOperand = true) (rest : List Lexeme) :
    readArguments (t :: rest) = readMoreArguments (t :: rest) := by
  have other : t.kind ≠ .rightParen := fun closes => by
    rw [closes] at operand
    cases operand
  unfold readArguments
  simp only [beq_iff_eq, other, if_false]

mutual

/-- What an operand is derived from is read where no parenthesis opens after it. -/
theorem readOperand_append (operand : Operand) {lexemes : List Lexeme} (reads : Reads lexemes operand)
    (rest : List Lexeme) (closed : ∀ next ∈ rest.head?, next.kind ≠ .leftParen) :
    ∃ shorter, readOperand (lexemes ++ rest) = .ok (operand, ⟨rest, shorter⟩) := by
  cases operand with
  | literal v =>
    cases reads <;> exact ⟨by simp, by unfold readOperand; rfl⟩
  | reference name =>
    cases reads with
    | reference free =>
      obtain ⟨noTrue, noFalse⟩ := not_or.mp free
      refine ⟨by simp, ?_⟩
      unfold readOperand
      cases rest with
      | nil => simp [noTrue, noFalse]
      | cons next rest =>
        have other : next.kind ≠ .leftParen := closed next rfl
        simp [noTrue, noFalse, other]
  | call name arguments =>
    cases reads with
    | plainCall free =>
      obtain ⟨noTrue, noFalse⟩ := not_or.mp free
      refine ⟨by simp; omega, ?_⟩
      unfold readOperand readArguments
      simp [noTrue, noFalse]
    | @call _ _ _ _ r k taken _ free reads =>
      obtain ⟨noTrue, noFalse⟩ := not_or.mp free
      have inside := readMoreArguments_append arguments reads r k rest
      obtain ⟨t, others, rfl, operand⟩ := reads.head
      rw [List.cons_append, ← readArguments_of_operand operand] at inside
      obtain ⟨shorter, inside⟩ := inside
      rw [List.cons_append, List.cons_append, List.append_assoc, List.singleton_append, List.cons_append]
      refine ⟨by simp; omega, ?_⟩
      unfold readOperand
      simp [noTrue, noFalse, inside]

/-- What operands with commas between them are derived from is read up to the parenthesis after it. -/
theorem readMoreArguments_append (operands : List Operand) {lexemes : List Lexeme} (reads : ReadsList lexemes operands)
    (r : String) (k : Nat) (rest : List Lexeme) :
    ∃ shorter, readMoreArguments (lexemes ++ ⟨.rightParen, r, k⟩ :: rest) = .ok (operands, ⟨rest, shorter⟩) := by
  cases operands with
  | nil => cases reads
  | cons operand operands =>
    cases reads with
    | last reads =>
      obtain ⟨shorter, first⟩ := readOperand_append operand reads (⟨.rightParen, r, k⟩ :: rest)
        (by rintro next first; cases first; nofun)
      refine ⟨by simp; omega, ?_⟩
      unfold readMoreArguments
      rw [first]
    | @more taken _ c k' others _ reads more =>
      obtain ⟨shorter, second⟩ := readMoreArguments_append operands more r k rest
      rw [List.append_assoc, List.cons_append]
      obtain ⟨shorter', first⟩ :=
        readOperand_append operand reads (⟨.comma, c, k'⟩ :: (others ++ ⟨.rightParen, r, k⟩ :: rest))
          (by rintro next first; cases first; nofun)
      refine ⟨by simp; omega, ?_⟩
      unfold readMoreArguments
      rw [first]
      simp [second]

end

/-- What can follow the first operand of a condition. -/
theorem readComparison_eq_ok_iff {lexemes : List Lexeme} {comparison : Option (Comparison × Operand)} :
    readComparison lexemes = .ok (comparison, []) ↔
      (lexemes = [] ∧ comparison = none) ∨
        ∃ sign k c rest right, lexemes = ⟨.operator, sign, k⟩ :: rest ∧ Comparison.ofSign? sign = some c ∧
          Reads rest right ∧ comparison = some (c, right) := by
  constructor
  · intro read
    unfold readComparison at read
    split at read
    · cases read
      exact .inl ⟨rfl, rfl⟩
    rename_i t rest
    split at read
    · rename_i c kind known
      obtain ⟨_, sign, k⟩ := t
      cases kind
      cases second : readOperand rest with
      | error fault =>
        rw [second] at read
        cases read
      | ok outcome =>
        obtain ⟨right, after, shorter⟩ := outcome
        rw [second] at read
        cases read
        obtain ⟨taken, whole, reads⟩ := reads_of_readOperand second
        rw [List.append_nil] at whole
        exact .inr ⟨sign, k, c, rest, right, rfl, known, whole ▸ reads, rfl⟩
    · cases read
  · rintro (⟨rfl, rfl⟩ | ⟨sign, k, c, rest, right, rfl, known, reads, rfl⟩)
    · rfl
    · have second := readOperand_append right reads [] nofun
      rw [List.append_nil] at second
      obtain ⟨shorter, second⟩ := second
      simp only [readComparison, known, second]
      rfl

theorem ofLexemes_eq_ok {lexemes : List Lexeme} {left : Operand} {comparison : Option (Comparison × Operand)} :
    ofLexemes lexemes = .ok (left, comparison) ↔
      ∃ after, readOperand lexemes = .ok (left, after) ∧ readComparison after.1 = .ok (comparison, []) := by
  cases lexemes with
  | nil =>
    constructor
    · intro read
      cases read
    · rintro ⟨_, read, _⟩
      unfold readOperand at read
      cases read
  | cons t rest =>
    simp only [ofLexemes, List.isEmpty_cons, Bool.false_eq_true, if_false]
    cases readOperand (t :: rest) with
    | error fault => simp [bind, Except.bind]
    | ok outcome =>
      obtain ⟨operand, after⟩ := outcome
      have single : (∃ after', Except.ok (operand, after) = (.ok (left, after') : Except Fault _) ∧
          readComparison after'.1 = .ok (comparison, [])) ↔
          operand = left ∧ readComparison after.1 = .ok (comparison, []) := by
        constructor
        · rintro ⟨_, same, follows⟩
          cases same
          exact ⟨rfl, follows⟩
        · rintro ⟨rfl, follows⟩
          exact ⟨after, rfl, follows⟩
      rw [single]
      simp only [bind, Except.bind]
      rcases readComparison after.1 with fault | ⟨more, _ | ⟨t, rest⟩⟩ <;> simp [pure, Except.pure, stray]

/-- The lexemes of conditions are those that are derived. -/
theorem ofLexemes_eq_ok_iff {lexemes : List Lexeme} {left : Operand} {comparison : Option (Comparison × Operand)} :
    ofLexemes lexemes = .ok (left, comparison) ↔ ReadsCondition lexemes left comparison := by
  simp only [ofLexemes_eq_ok, readComparison_eq_ok_iff]
  constructor
  · rintro ⟨after, first, ⟨done, rfl⟩ | ⟨sign, k, c, rest, right, here, known, others, rfl⟩⟩
    · obtain ⟨taken, whole, reads⟩ := reads_of_readOperand first
      rw [done, List.append_nil] at whole
      exact .alone (whole ▸ reads)
    · obtain ⟨taken, whole, reads⟩ := reads_of_readOperand first
      rw [here] at whole
      exact whole ▸ .comparison reads known others
  · intro reads
    cases reads with
    | alone reads =>
      have first := readOperand_append left reads [] nofun
      rw [List.append_nil] at first
      obtain ⟨shorter, first⟩ := first
      exact ⟨_, first, .inl ⟨rfl, rfl⟩⟩
    | @comparison taken _ sign k c rest right reads known others =>
      obtain ⟨shorter, first⟩ := readOperand_append left reads (⟨.operator, sign, k⟩ :: rest)
        (by rintro next first; cases first; nofun)
      exact ⟨_, first, .inr ⟨sign, k, c, rest, right, rfl, known, others, rfl⟩⟩

end Readers

/-- A syntax tree of a text: the text can be cut into lexemes that the tree is derived from. -/
def HasTree (expression : String) (tree : Operand × Option (Comparison × Operand)) : Prop :=
  ∃ lexemes, Cut 0 expression.toList lexemes ∧ ReadsCondition lexemes tree.1 tree.2

theorem hasTree_iff {expression : String} {tree : Operand × Option (Comparison × Operand)} :
    HasTree expression tree ↔ lex expression >>= ofLexemes = .ok tree := by
  have read : lex expression >>= ofLexemes = .ok tree ↔
      ∃ lexemes, lex expression = .ok lexemes ∧ ofLexemes lexemes = .ok (tree.1, tree.2) := by
    cases lex expression <;> simp [bind, Except.bind]
  rw [read]
  refine exists_congr fun lexemes => ?_
  rw [ofLexemes_eq_ok_iff]
  exact ⟨fun ⟨cut, reads⟩ => ⟨lex_of_cut cut reads.isChain, reads⟩, fun ⟨read, reads⟩ => ⟨cut_of_lex read, reads⟩⟩

theorem compile_eq_ok_iff {expression : String} {c : Condition} :
    compile expression = .ok c ↔ c.expression = expression ∧ HasTree expression (c.left, c.comparison) := by
  obtain ⟨own, left, comparison⟩ := c
  rw [hasTree_iff, compile]
  cases lex expression >>= ofLexemes with
  | error fault => simp
  | ok tree =>
    obtain ⟨left', comparison'⟩ := tree
    simp [eq_comm]

/-- A text is compiled exactly if it has a syntax tree. It has one tree at most, and without one the text is refused
as a condition. -/
theorem compile_grammar (expression : String) :
    (∀ c, compile expression = .ok c ↔ c.expression = expression ∧ HasTree expression (c.left, c.comparison)) ∧
    ((∃! tree, HasTree expression tree) ∨
      (∀ tree, ¬ HasTree expression tree) ∧ ∃ fault, compile expression = .error (.condition fault expression)) := by
  refine ⟨fun _ => compile_eq_ok_iff, ?_⟩
  cases outcome : lex expression >>= ofLexemes with
  | ok tree =>
    refine .inl ⟨tree, hasTree_iff.mpr outcome, fun other has => ?_⟩
    exact Except.ok.inj ((hasTree_iff.mp has).symm.trans outcome)
  | error fault =>
    refine .inr ⟨fun tree has => ?_, fault, by rw [compile, outcome]⟩
    cases (hasTree_iff.mp has).symm.trans outcome

end Stencil.Condition
