import Mathlib.Data.List.Chain
import Stencil.Proofs.Composition.Answer

/-!
When a rule holds.

In a context in which rules fail only as expressions do, every rule either holds for a template or does not. The
candidates are then the templates for which some rule holds (`ranking_of_quiet`).
-/

namespace Stencil

open Stencil.Composition

/-- A rule applies to a template in a context: it is switched on, it fits the name, and the context meets all its
demands. An expression that fails is not met. -/
structure Composition.Rule.Holds (tools : Tools) (rule : Rule) (clock : Nat) (context : Bindings) (name : String) :
    Prop where
  enabled : rule.isEnabled = true
  fits : rule.fits name = true
  requirements : ∀ r ∈ rule.requirements, r.holds context tools.dump = .ok true
  behaviors : ∀ b ∈ rule.behaviors, b.holds clock context = .ok true
  expression : tools.engine.valueOf rule.expression context = .ok true

/-- A rule of which nothing fails in a context but the expression, and that only as expressions do. -/
structure Composition.Rule.Quiet (tools : Tools) (rule : Rule) (clock : Nat) (context : Bindings) : Prop where
  demands : ∃ met, Composer.meetsDemands rule clock context tools.dump = .ok met
  expression : Composer.meetsDemands rule clock context tools.dump = .ok true →
    ∀ e, tools.engine.valueOf rule.expression context = .error e → ∃ stage text, e = .ruleExpression stage text

/-- A context in which rules fail only as expressions do, whichever of several templates they are tried on. -/
def Composition.Quiet (tools : Tools) (rules : List Rule) (names : List String) (clock : Nat) (context : Bindings) :
    Prop :=
  ∀ rule ∈ rules, rule.isEnabled = true → ∀ name ∈ names, rule.fits name = true → rule.Quiet tools clock context

instance (tools : Tools) (rule : Rule) (clock : Nat) (context : Bindings) (name : String) :
    Decidable (rule.Holds tools clock context name) :=
  decidable_of_iff
    (rule.isEnabled = true ∧ rule.fits name = true ∧
      (∀ r ∈ rule.requirements, r.holds context tools.dump = .ok true) ∧
      (∀ b ∈ rule.behaviors, b.holds clock context = .ok true) ∧
      tools.engine.valueOf rule.expression context = .ok true)
    ⟨fun ⟨enabled, fits, requirements, behaviors, expression⟩ =>
      ⟨enabled, fits, requirements, behaviors, expression⟩,
    fun holds => ⟨holds.enabled, holds.fits, holds.requirements, holds.behaviors, holds.expression⟩⟩

namespace Composer

theorem allHold_eq_true {α : Type} {test : α → Except Failure Bool} {items : List α} :
    allHold test items = .ok true ↔ ∀ a ∈ items, test a = .ok true := by
  induction items with
  | nil => simp [allHold]
  | cons a rest ih =>
    rw [List.forall_mem_cons, ← ih, allHold]
    rcases test a with e | (_ | _) <;> simp [bind, Except.bind, pure, Except.pure]

theorem meetsDemands_eq_true {rule : Rule} {clock : Nat} {context : Bindings}
    {dump : Value → Except Failure String} :
    meetsDemands rule clock context dump = .ok true ↔
      (∀ r ∈ rule.requirements, r.holds context dump = .ok true) ∧
        ∀ b ∈ rule.behaviors, b.holds clock context = .ok true := by
  rw [← allHold_eq_true, ← allHold_eq_true, meetsDemands]
  rcases met : allHold (fun r => r.holds context dump) rule.requirements with e | (_ | _) <;>
    simp [met, bind, Except.bind, pure, Except.pure]

variable {tools : Tools} {rule : Rule} {rules : List Rule} {clock : Nat} {context : Bindings} {name : String}

theorem judge_of_quiet (enabled : rule.isEnabled = true)
    (quiet : rule.fits name = true → rule.Quiet tools clock context) :
    judge tools rule clock context name = .ok (decide (rule.Holds tools clock context name)) := by
  cases fits : rule.fits name with
  | false =>
    have fails : ¬ rule.Holds tools clock context name := fun holds => by simp [holds.fits] at fits
    simp [judge, fits, fails, pure, Except.pure]
  | true =>
    obtain ⟨⟨met, demands⟩, expression⟩ := quiet fits
    -- The expression is looked at only where all other demands are met.
    cases met with
    | false =>
      have fails : ¬ rule.Holds tools clock context name := fun holds => by
        simp [meetsDemands_eq_true.mpr ⟨holds.requirements, holds.behaviors⟩] at demands
      simp [judge, fits, demands, fails, bind, Except.bind, pure, Except.pure]
    | true =>
      have outcome : judge tools rule clock context name = lenient (tools.engine.valueOf rule.expression context) := by
        simp [judge, fits, demands, bind, Except.bind]
      obtain ⟨requirements, behaviors⟩ := meetsDemands_eq_true.mp demands
      have holds_iff : rule.Holds tools clock context name ↔ tools.engine.valueOf rule.expression context = .ok true :=
        ⟨fun holds => holds.expression, fun value => ⟨enabled, fits, requirements, behaviors, value⟩⟩
      cases value : tools.engine.valueOf rule.expression context with
      | error e =>
        obtain ⟨stage, text, rfl⟩ := expression demands e value
        simp [outcome, holds_iff, value, lenient]
      | ok b => simp [outcome, holds_iff, value, lenient]

/-- The rules that hold for a template, in order. -/
def holding (tools : Tools) (rules : List Rule) (clock : Nat) (context : Bindings) (name : String) : List Rule :=
  rules.filter fun rule => decide (rule.Holds tools clock context name)

theorem appliedRules_of_quiet
    (quiet : ∀ rule ∈ rules, rule.isEnabled = true → rule.fits name = true → rule.Quiet tools clock context) :
    appliedRules tools clock context name rules = .ok (holding tools rules clock context name) := by
  induction rules with
  | nil => rfl
  | cons rule rest ih =>
    obtain ⟨first, quiet⟩ := List.forall_mem_cons.mp quiet
    have ih := ih quiet
    unfold appliedRules holding
    cases enabled : rule.isEnabled with
    | false =>
      have fails : ¬ rule.Holds tools clock context name := fun holds => by simp [holds.enabled] at enabled
      rw [List.filter_cons_of_neg (by simpa using fails)]
      exact ih
    | true =>
      rw [if_pos rfl, judge_of_quiet enabled (first enabled), ih]
      by_cases holds : rule.Holds tools clock context name
      · rw [List.filter_cons_of_pos (by simpa using holds)]
        simp [holds, holding, bind, Except.bind, pure, Except.pure]
      · rw [List.filter_cons_of_neg (by simpa using holds)]
        simp [holds, holding, bind, Except.bind]

/-- The candidates among templates, by the rules that hold. -/
def listing (tools : Tools) (rules : List Rule) (clock : Nat) (context : Bindings) (order : Nat)
    (templates : List (String × Template)) : List Candidate :=
  (templates.zipIdx order).filterMap fun ((name, template), place) =>
    candidate? name template place (holding tools rules clock context name)

theorem listing_cons (template : Template) (order : Nat) (rest : List (String × Template)) :
    listing tools rules clock context order ((name, template) :: rest) =
      (candidate? name template order (holding tools rules clock context name)).toList ++
        listing tools rules clock context (order + 1) rest := by
  simp only [listing, List.zipIdx_cons, List.filterMap_cons]
  cases candidate? name template order (holding tools rules clock context name) <;> rfl

theorem candidatesAmong_of_quiet {templates : List (String × Template)} (order : Nat)
    (quiet : Quiet tools rules (templates.map Prod.fst) clock context) :
    candidatesAmong tools clock context rules order templates =
      .ok (listing tools rules clock context order templates) := by
  induction templates generalizing order with
  | nil => rfl
  | cons entry rest ih =>
    obtain ⟨name, template⟩ := entry
    have here := appliedRules_of_quiet fun rule member enabled =>
      quiet rule member enabled name (List.mem_cons_self ..)
    have rest := ih (order + 1) fun rule member enabled other listed =>
      quiet rule member enabled other (List.mem_cons_of_mem _ listed)
    rw [candidatesAmong, here, rest, listing_cons]
    rfl

/-- Where rules fail only as expressions do, the candidates are the templates for which some rule holds. -/
theorem ranking_of_quiet {c : Composer} (quiet : Quiet tools c.rules c.templates.keys clock context) :
    c.ranking tools clock context = .ok ((listing tools c.rules clock context 0 c.templates).mergeSort precedes) := by
  rw [ranking, candidatesAmong_of_quiet 0 quiet]
  rfl

end Composer

end Stencil
