import Stencil.Composition.Engine
import Stencil.Formula.Fold

/-!
The value of a formula in a context, and the engine for rules whose expressions are formulas. Composers take
any engine; this one reads literals, names, lookups, calls, comparisons, arithmetic and logic.
-/

namespace Stencil

namespace Formula

/-- Why a formula has no value in a context. -/
inductive Fault where
  /-- Values do not go together, or something is not there. -/
  | failed
  /-- A member is looked up on something that has none. -/
  | noMembers
  deriving DecidableEq, Repr

/-- A computation of a value, which may call functions. -/
abbrev Evaluation (α : Type) := ExceptT Fault (StateM Nat) α

/-- The result of an operation, if it has one. -/
def Evaluation.ofOption {α : Type} : Option α → Evaluation α
  | some a => pure a
  | none => throw .failed

/-- Calls a function. Its result is seen as a formula sees values. -/
def apply (f : Function) (arguments : List Value) : Evaluation Value := do
  let calls ← get
  let (result, after) := (f arguments).run calls
  set after
  match result with
  | .ok v => return adapt v
  | .error _ => throw .failed

/-- The member of a value. A member that a map does not have is missing. -/
def memberOf (object : Value) (name : String) : Evaluation Value :=
  match object with
  | .map entries => pure (adapt ((Assoc.get? entries (.str name)).getD .null))
  | _ => throw .noMembers

/-- The function that a formula names. -/
def function? (functions : Functions) : Formula → Option Function
  | .function s => functions.get? s
  | _ => none

mutual

/-- The value of a formula. A name that the context does not have is missing. -/
def evaluate (context : Bindings) (functions : Functions) : Formula → Evaluation Value
  | .literal v => pure v
  | .name s => pure (adapt ((context.get? s).getD .null))
  | .function s => pure (if functions.has s then .thing .method else .null)
  | .member object s => do memberOf (← evaluate context functions object) s
  | .item container key => do
    let a ← evaluate context functions container
    if a matches .null then throw .failed
    let b ← evaluate context functions key
    .ofOption (itemOf? a b)
  | .call callee arguments => do
    let _ ← evaluate context functions callee
    match function? functions callee with
    | none => throw .failed
    | some f => do apply f (← evaluateAll context functions arguments)
  | .list items => do return .list (← evaluateAll context functions items)
  | .not operand => do return .bool !(holds (← evaluate context functions operand))
  | .negative operand => do .ofOption (negative? (← evaluate context functions operand))
  | .and left right => do
    if holds (← evaluate context functions left) then
      return .bool (holds (← evaluate context functions right))
    else return .bool false
  | .or left right => do
    if holds (← evaluate context functions left) then return .bool true
    else return .bool (holds (← evaluate context functions right))
  | .binary operator left right => do
    if operator == .within then
      let b ← evaluate context functions right
      let a ← evaluate context functions left
      .ofOption (operator.result? a b)
    else
      let a ← evaluate context functions left
      let b ← evaluate context functions right
      .ofOption (operator.result? a b)

/-- The values of several formulas, from left to right. -/
def evaluateAll (context : Bindings) (functions : Functions) :
    List Formula → Evaluation (List Value)
  | [] => pure []
  | formula :: rest => do
    let head ← evaluate context functions formula
    return head :: (← evaluateAll context functions rest)

end

/-- Reads and folds a formula. -/
def compile (text : String) : Except RuleStage Formula := do
  (← parse text).fold

/-- A fault of a formula as one of an engine. -/
def Fault.toEngine : Fault → EngineFault
  | .failed => .engine
  | .noMembers => .other .noMembers

/-- A formula as a test of contexts. -/
def test (formula : Formula) : Engine.Test := fun functions context => do
  return holds (← (formula.evaluate context functions).adapt Fault.toEngine)

/-- The engine whose expressions are formulas. -/
def engine : Engine where
  compile text :=
    match compile text with
    | .ok formula => .ok formula.test
    | .error .grammar => .error .grammar
    | .error _ => .error .engine

end Formula

end Stencil
