import Stencil.Formula.Evaluate
import Stencil.Text.Blank

/-!
The expressions of rules: texts that an engine compiles, or blank ones, which always hold.
-/

namespace Stencil

/-- What a fault is to a rule whose expression is compiled. -/
def EngineFault.compiling (text : String) : EngineFault → Failure
  | .grammar => .ruleExpression .grammar text
  | .engine => .ruleExpression .folding text
  | .typing e | .other e => e

/-- What a fault is to a rule whose expression is evaluated. -/
def EngineFault.evaluating (text : String) : EngineFault → Failure
  | .grammar | .engine | .typing _ => .ruleExpression .evaluation text
  | .other e => e

/-- The expression of a rule: a compiled test, or nothing, which always holds. -/
structure RuleExpression where
  text : String
  test : Option Engine.Test

namespace RuleExpression

/-- Compiles an expression. -/
def compile (text : String) (engine : Engine := Formula.engine) : Except Failure RuleExpression :=
  if text.toList.all Text.isBlank then .ok ⟨text, none⟩
  else
    match engine.compile text with
    | .ok test => .ok ⟨text, some test⟩
    | .error fault => .error (fault.compiling text)

/-- Whether an expression holds in a context. -/
def holds (e : RuleExpression) (functions : Functions) (context : Bindings) : Call Bool :=
  match e.test with
  | none => pure true
  | some test => (test functions context).adapt (EngineFault.evaluating e.text)

end RuleExpression

end Stencil
