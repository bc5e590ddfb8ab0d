import Stencil.Composition.Composer
import Stencil.Proofs.Template.Effect

/-!
The value of a rule's expression.

All that composers need of an engine is that a compiled test of a context neither looks at the count of calls nor
changes it (`Engine.Steady`), so that the value of an expression is given by its text and the context
(`RuleExpression.holds_still`). The engine of formulas is of this kind: rules call the common functions only, which
count nothing (`Formula.steady`).
-/

namespace Stencil

/-- A computation that neither looks at the count of calls nor changes it. -/
def Still {ε α : Type} (c : ExceptT ε (StateM Nat) α) : Prop :=
  ∀ calls, c calls = ((c 0).1, calls)

section

variable {ε α β : Type}

theorem Still.pure (a : α) : Still (pure a : ExceptT ε (StateM Nat) α) :=
  fun _ => rfl

theorem Still.throw (e : ε) : Still (throw e : ExceptT ε (StateM Nat) α) :=
  fun _ => rfl

theorem Still.bind {c : ExceptT ε (StateM Nat) α} {f : α → ExceptT ε (StateM Nat) β} (still : Still c)
    (next : ∀ a, Still (f a)) : Still (c >>= f) := by
  intro calls
  simp only [Bind.bind, ExceptT.bind, ExceptT.mk, StateT.bind]
  rw [still calls, still 0]
  cases (c 0).1 with
  | ok a => exact next a calls
  | error e => rfl

end

theorem Still.adapt {ε ε' α : Type} {c : ExceptT ε (StateM Nat) α} (still : Still c) (f : ε → ε') :
    Still (c.adapt f) := by
  intro calls
  have run (n : Nat) : (c.adapt f) n = (Except.mapError f (c n).1, (c n).2) := rfl
  rw [run, run, still calls]

/-- A computation that runs another one on the count of calls and looks at its outcome. -/
theorem Still.nested {ε ε' α β : Type} {c : ExceptT ε (StateM Nat) α}
    {f : Except ε α → ExceptT ε' (StateM Nat) β} (still : Still c) (next : ∀ r, Still (f r)) :
    Still (do
      let calls ← get
      let (r, calls) := c.run calls
      set calls
      f r) := by
  intro calls
  have run (n : Nat) : (do
      let calls ← get
      let (r, calls) := c.run calls
      set calls
      f r : ExceptT ε' (StateM Nat) β) n = f (c n).1 (c n).2 := rfl
  rw [run, run, still calls, still 0]
  exact next _ calls

theorem Function.still_of_builtin {name : String} {f : Function} (found : Function.builtins.get? name = some f)
    (arguments : List Value) : Still (f arguments) := by
  obtain ⟨entry, member, rfl⟩ := Assoc.mem_of_get? found
  obtain ⟨g, same⟩ := Function.builtins_pure entry member
  rw [same]
  unfold Function.ofPure
  cases g arguments with
  | ok v => exact .pure v
  | error e => exact .throw e

namespace Formula

theorem Evaluation.still_ofOption {α : Type} (a : Option α) : Still (Evaluation.ofOption a) := by
  cases a with
  | none => exact .throw _
  | some a => exact .pure a

theorem still_memberOf (object : Value) (name : String) : Still (memberOf object name) := by
  unfold memberOf
  split
  · exact .pure _
  · exact .throw _

/-- What a formula makes of the outcome of a function. -/
def received : Except Failure Value → Evaluation Value
  | .ok v => pure (adapt v)
  | .error _ => throw .failed

theorem still_apply {f : Function} {arguments : List Value} (still : Still (f arguments)) :
    Still (apply f arguments) := by
  have outcome (r : Except Failure Value) : Still (received r) := by
    cases r with
    | ok v => exact .pure _
    | error e => exact .throw _
  exact still.nested outcome

mutual

theorem still_evaluate (context : Bindings) (formula : Formula) :
    Still (formula.evaluate context Function.builtins) := by
  cases formula with
  | literal v => exact .pure v
  | name s => exact .pure _
  | function s => exact .pure _
  | member object s => exact (still_evaluate context object).bind fun v => still_memberOf v s
  | item container key =>
    refine (still_evaluate context container).bind fun a => ?_
    have rest : Still (do
        let b ← key.evaluate context Function.builtins
        Evaluation.ofOption (itemOf? a b)) :=
      (still_evaluate context key).bind fun b => Evaluation.still_ofOption _
    cases a with
    | null => exact (Still.throw _).bind fun _ => rest
    | _ => exact rest
  | call callee arguments =>
    refine (still_evaluate context callee).bind fun _ => ?_
    cases named : function? Function.builtins callee with
    | none => exact .throw _
    | some f =>
      refine (still_evaluateAll context arguments).bind fun values => still_apply ?_
      cases callee <;> first | exact Function.still_of_builtin named values | cases named
  | list items => exact (still_evaluateAll context items).bind fun _ => .pure _
  | not operand => exact (still_evaluate context operand).bind fun _ => .pure _
  | negative operand => exact (still_evaluate context operand).bind fun _ => Evaluation.still_ofOption _
  | and left right =>
    refine (still_evaluate context left).bind fun a => ?_
    split
    · exact (still_evaluate context right).bind fun _ => .pure _
    · exact .pure _
  | or left right =>
    refine (still_evaluate context left).bind fun a => ?_
    split
    · exact .pure _
    · exact (still_evaluate context right).bind fun _ => .pure _
  | binary operator left right =>
    rw [evaluate]
    -- Some operators look at their right operand first.
    split
    · exact (still_evaluate context right).bind fun b => (still_evaluate context left).bind fun a =>
        Evaluation.still_ofOption _
    · exact (still_evaluate context left).bind fun a => (still_evaluate context right).bind fun b =>
        Evaluation.still_ofOption _

theorem still_evaluateAll (context : Bindings) (formulas : List Formula) :
    Still (evaluateAll context Function.builtins formulas) := by
  cases formulas with
  | nil => exact .pure []
  | cons formula rest =>
    exact (still_evaluate context formula).bind fun _ => (still_evaluateAll context rest).bind fun _ => .pure _

end

end Formula

/-- An engine whose tests have the same outcome in a context whatever was counted before, and count nothing, when they
call the common functions. -/
def Engine.Steady (engine : Engine) : Prop :=
  ∀ text test, engine.compile text = .ok test → ∀ context, Still (test Function.builtins context)

theorem Formula.still_test (formula : Formula) (context : Bindings) : Still (formula.test Function.builtins context) :=
  ((formula.still_evaluate context).adapt _).bind fun _ => .pure _

theorem Formula.steady : Formula.engine.Steady := by
  intro text test compiled context
  simp only [engine] at compiled
  split at compiled
  next formula _ =>
    cases compiled
    exact formula.still_test context
  all_goals cases compiled

namespace RuleExpression

variable {engine : Engine} {text : String} {e : RuleExpression}

/-- Whether an expression holds in a context, if it has a value there. -/
def verdict (e : RuleExpression) (context : Bindings) : Except Failure Bool :=
  result (e.holds Function.builtins context) 0

theorem test_of_compile (compiled : compile text engine = .ok e) : ∀ test ∈ e.test, engine.compile text = .ok test := by
  intro test given
  unfold compile at compiled
  split at compiled
  · cases compiled
    cases given
  · split at compiled
    next found =>
      cases compiled
      cases given
      exact found
    next => cases compiled

/-- An expression has the same value whatever was counted before, and counts nothing. -/
theorem holds_still (steady : engine.Steady) (compiled : compile text engine = .ok e) (context : Bindings) :
    Still (e.holds Function.builtins context) := by
  have tests := test_of_compile compiled
  unfold holds
  cases given : e.test with
  | none => exact .pure true
  | some test => exact (steady text test (tests test given) context).adapt _

end RuleExpression

/-- Whether an expression with a given text holds in a context, if an engine can compile it and it has a value there. -/
def Engine.valueOf (engine : Engine) (text : String) (context : Bindings) : Except Failure Bool := do
  (← RuleExpression.compile text engine).verdict context

end Stencil
