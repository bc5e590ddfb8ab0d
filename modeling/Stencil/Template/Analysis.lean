import Stencil.Condition.Evaluate
import Stencil.Template.Basic

/-!
What a template contains, found without rendering it.

The names that an enclosing loop binds are never reported: nobody has to supply them.
-/

namespace Stencil

/-- A conditional of a template, and the branch it takes if that can be told. -/
structure ConditionalReport where
  condition : String
  result : Option Bool
  deriving DecidableEq, Repr

/-- A loop of a template, and how often it would run. -/
structure LoopReport where
  array : String
  item : String
  iterations : Nat
  deriving DecidableEq, Repr

/-- What a template contains. -/
structure Analysis where
  /-- The names that the template refers to. -/
  references : List String := []
  /-- Those that must be bound: written names and arrays of loops. -/
  required : List String := []
  conditionals : List ConditionalReport := []
  loops : List LoopReport := []
  functions : List String := []
  deriving DecidableEq, Repr

namespace Analysis

/-- Adds a name at the end unless it is there. -/
def insert (names : List String) (name : String) : List String :=
  if names.contains name then names else names ++ [name]

/-- The names that a loop binds in each iteration. -/
def loopNames (item : String) : List String :=
  [item, item ++ "_index", item ++ "_first", item ++ "_last"]

/-- Whether a path starts with a name that an enclosing loop binds. -/
def isLocal (locals : List String) (path : String) : Bool :=
  locals.contains (Value.pathRoot path)

/-- Notes a variable by the first segment of its path. -/
def addVariable (a : Analysis) (locals : List String) (required : Bool) (path : String) :
    Analysis :=
  if isLocal locals path then a
  else
    let name := Value.pathRoot path
    { a with
      references := insert a.references name
      required := if required then insert a.required name else a.required }

/-- Notes a function. -/
def addFunction (a : Analysis) (name : String) : Analysis :=
  { a with functions := insert a.functions name }

/-- Notes a conditional. -/
def addConditional (a : Analysis) (condition : String) (result : Option Bool) : Analysis :=
  { a with conditionals := a.conditionals ++ [⟨condition, result⟩] }

/-- Notes the arguments of a call that are paths to bound values. -/
def addArguments (scope : Scope) (locals : List String) :
    Analysis → List String → Except Failure Analysis
  | a, [] => .ok a
  | a, text :: rest => do
    if Markup.isPath text.toList && !isLocal locals text then
      let bound ← scope.contains text
      addArguments scope locals (if bound then a.addVariable locals false text else a) rest
    else addArguments scope locals a rest

/-- How often a loop over a path would run. -/
def iterations (scope : Scope) (locals : List String) (array : String) : Except Failure Nat := do
  if isLocal locals array then return 0
  match ← scope.lookup array with
  | some (.list values) => return values.length
  | _ => return 0

/-- The labels under which hosts have failures of types, of values and of arithmetic. -/
def valueLabels : List String :=
  ["TypeError", "ValueError", "UnicodeError", "UnicodeDecodeError", "UnicodeEncodeError",
    "UnicodeTranslateError", "ArithmeticError", "FloatingPointError", "OverflowError",
    "ZeroDivisionError"]

/-- Whether a failure leaves a condition undecided: one of a template, of types, of values or of
arithmetic. Analysis fails with any other. -/
def leavesUndecided : Failure → Bool
  | .markup _ | .condition _ _ | .missingVariable _ | .notIterable _ | .unknownFunction _
  | .headerField _ _ _ | .ruleExpression _ _ => true
  | .argumentCount | .unserializable | .unhashable => true
  | .notANumber _ | .unreadableIndex | .longInteger | .impossibleScalar | .invalidModel => true
  | .badFilePattern fault => fault != .absolute
  | .arithmetic _ => true
  | .host label => valueLabels.contains label
  | .noMembers | .emptyNumber | .unknownTruthWord | .unknownThreshold | .baseNotFound _
  | .templateNotFound _ | .noApplicableTemplate _ _ | .invalidRule _ _ _ | .malformedSettings
  | .invalidSettings _ _ | .file _ => false

/-- Reports that a condition cannot be decided. -/
def reportUndecided (condition : String) : Run Unit :=
  Run.report .warning "condition_analysis_failed" [("condition", .str condition)]

/-- Notes a conditional and what its condition refers to. It is decided only if no name of an
enclosing loop takes part. -/
def addCondition (scope : Scope) (functions : Functions) (locals : List String) (a : Analysis)
    (expression : String) : Run Analysis := do
  match Condition.compile expression with
  | .error _ =>
    reportUndecided expression
    return a.addConditional expression none
  | .ok condition =>
    let a := condition.references.foldl (fun a path => a.addVariable locals false path) a
    let a := condition.functionNames.foldl addFunction a
    if condition.references.any (isLocal locals) then
      return a.addConditional expression none
    else
      match ← Run.attempt (Run.ofCall (condition.evaluate scope functions)) with
      | .ok result => return a.addConditional expression (some result)
      | .error e =>
        if leavesUndecided e then
          reportUndecided expression
          return a.addConditional expression none
        else throw e

mutual

/-- Notes what a node contains. -/
def node (scope : Scope) (functions : Functions) (locals : List String) (a : Analysis) :
    Markup.Node → Run Analysis
  | .text _ => pure a
  | .slot path _ => pure (a.addVariable locals true path)
  | .call name texts _ => Run.ofExcept (addArguments scope locals (a.addFunction name) texts)
  | .conditional expression accepted rejected => do
    let a ← addCondition scope functions locals a expression
    let a ← nodes scope functions locals a accepted
    nodes scope functions locals a rejected
  | .loop array item body => do
    let a := a.addVariable locals true array
    let count ← Run.ofExcept (iterations scope locals array)
    let a := { a with loops := a.loops ++ [⟨array, item, count⟩] }
    nodes scope functions (locals ++ loopNames item) a body
  | .region _ _ _ body => nodes scope functions locals a body

/-- Notes what nodes contain, one after another. -/
def nodes (scope : Scope) (functions : Functions) (locals : List String) (a : Analysis) :
    List Markup.Node → Run Analysis
  | [] => pure a
  | first :: rest => do
    let a ← node scope functions locals a first
    nodes scope functions locals a rest

end

end Analysis

namespace Template

/-- Describes what a template contains, given the bindings of a call over its own. -/
def analyze (t : Template) (overrides : Bindings) : Run Analysis := t.reporting do
  let scope := Scope.ofBindings (t.bindingsWith overrides)
  Analysis.nodes scope t.callable [] {} (← t.nodes)

/-- The names that a template refers to, in order of first mention. -/
def references (t : Template) : Run (List String) := do
  return (← t.analyze []).references

/-- The required names that are not bound. A template is valid if there are none. -/
def missing (t : Template) (overrides : Bindings) : Run (List String) := do
  let analysis ← t.analyze overrides
  let scope := Scope.ofBindings (t.bindingsWith overrides)
  Run.ofExcept (analysis.required.filterM fun name => do return !(← scope.contains name))

end Template

end Stencil
