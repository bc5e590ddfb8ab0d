import Stencil.Composition.Expression
import Stencil.Composition.Rule
import Stencil.Markup.Spelling
import Stencil.Template.Render

/-!
Composers choose templates.

A composer holds named templates and rules. In a context, every template that some rule applies to is a
candidate, at the highest priority of the rules that do. The candidate of the highest priority is
rendered; among equals, the one that was registered first.

Composers leave the expressions of rules to an engine, and maps that are compared as texts to a writer of
data (`Composition.Tools`).
-/

namespace Stencil

open Stencil.Composition

/-- Named templates and rules, and the expressions of rules that were compiled so far. -/
structure Composer where
  /-- Bindings below those of every context. -/
  defaults : Bindings := []
  templates : Assoc String Template := []
  rules : List Rule := []
  compiled : Assoc String RuleExpression := []

/-- What composers judge rules with. -/
structure Composition.Tools where
  /-- What compiles the expressions of rules. -/
  engine : Engine := Formula.engine
  /-- What writes maps as data. -/
  dump : Value → Except Failure String := Value.compact

/-- A computation on a composer. What it changes and reports survives a failure. -/
abbrev Composing (α : Type) := ExceptT Failure (StateT Composer (StateM Session)) α

/-- A template that some rules apply to. -/
structure Candidate where
  name : String
  template : Template
  /-- The highest priority of the rules that apply. -/
  priority : Int
  /-- The names of the rules that apply. -/
  rules : List String
  /-- The place of the template in order of registration. -/
  order : Nat

/-- The outcome of a composition. -/
structure Composition.Outcome where
  template : String
  output : String
  rules : List String
  priority : Int
  context : Bindings
  candidates : Nat

namespace Composing

/-- A run that leaves the composer as it is. -/
def ofRun {α : Type} (r : Run α) : Composing α := fun composer session =>
  let (result, after) := r session
  ((result, composer), after)

/-- Reports an event. -/
def report (severity : Severity) (name : String) (details : Bindings) : Composing Unit :=
  ofRun (Run.report severity name details)

/-- A result without effects. -/
def ofExcept {α : Type} (result : Except Failure α) : Composing α :=
  ofRun (Run.ofExcept result)

/-- The outcome of a computation that may fail, as a value. -/
def attempt {α : Type} (c : Composing α) : Composing (Except Failure α) := fun composer session =>
  let ((result, composer), session) := c composer session
  ((.ok result, composer), session)

end Composing

namespace Composer

/-- Registers a template. One that was registered under the name before is replaced in its place. -/
def register (name : String) (template : Template) : Composing Unit := do
  modify fun c => { c with templates := c.templates.set name template }
  Composing.report .debug "template_registered" [("template", .str name)]

/-- Registers a text as a template that reports nothing. -/
def registerText (name source : String) : Composing Unit :=
  register name { source, reports := false }

/-- Adds a rule. -/
def addRule (rule : Rule) : Composing Unit := do
  modify fun c => { c with rules := c.rules ++ [rule] }
  Composing.report .debug "rule_added"
    [("rule", .str rule.name), ("priority", .int rule.priority)]

/-- Adds the rule that fields describe. -/
def addRuleOf (fields : Schema.Fields) : Composing Rule := do
  let rule ← Composing.ofExcept (Rule.ofFields fields)
  addRule rule
  return rule

/-- The template of a name. -/
def template (c : Composer) (name : String) : Except Failure Template :=
  match c.templates.get? name with
  | some template => .ok template
  | none => .error (.templateNotFound name)

/-- The compiled form of an expression, which is compiled only once. -/
def expression (text : String) (tools : Tools := {}) : Composing RuleExpression := do
  match (← get).compiled.get? text with
  | some expression => return expression
  | none =>
    let expression ← Composing.ofExcept (RuleExpression.compile text tools.engine)
    modify fun c => { c with compiled := c.compiled.set text expression }
    return expression

/-- Whether the expression of a rule holds in a context. One that fails does not, and is reported. -/
def expressionHolds (rule : Rule) (context : Bindings) (tools : Tools := {}) :
    Composing Bool := do
  let outcome ← Composing.attempt do
    let expression ← expression rule.expression tools
    Composing.ofRun (Run.ofCall (expression.holds Function.builtins context))
  match outcome with
  | .ok b => return b
  | .error (.ruleExpression stage text) =>
    Composing.report .warning "rule_expression_failed"
      [("rule", .str rule.name), ("expression", .str text), ("error", .str stage.wording)]
    return false
  | .error e => throw e

/-- Whether all of several tests hold, which are tried up to the first that does not. -/
def allHold {α : Type} (test : α → Except Failure Bool) : List α → Except Failure Bool
  | [] => .ok true
  | a :: rest => do if ← test a then allHold test rest else return false

/-- Whether a context meets the demands of a rule that need no expression. -/
def meetsDemands (rule : Rule) (clock : Nat) (context : Bindings)
    (dump : Value → Except Failure String := Value.compact) : Except Failure Bool := do
  if ← allHold (·.holds context dump) rule.requirements then
    allHold (·.holds clock context) rule.behaviors
  else return false

/-- Whether a rule that is switched on applies to a template in a context. -/
def applies (rule : Rule) (clock : Nat) (context : Bindings) (name : String)
    (tools : Tools := {}) : Composing Bool := do
  if rule.fits name then
    if ← Composing.ofExcept (meetsDemands rule clock context tools.dump) then
      expressionHolds rule context tools
    else return false
  else return false

/-- The rules that apply to a template in a context, in order. -/
def rulesFor (clock : Nat) (context : Bindings) (name : String) (rules : List Rule)
    (tools : Tools := {}) : Composing (List Rule) :=
  match rules with
  | [] => return []
  | rule :: rest => do
    if rule.isEnabled then
      if ← applies rule clock context name tools then
        Composing.report .debug "rule_matched"
          [ ("rule", .str rule.name), ("template", .str name), ("priority", .int rule.priority) ]
        return rule :: (← rulesFor clock context name rest tools)
      else rulesFor clock context name rest tools
    else
      Composing.report .debug "rule_skipped_disabled" [("rule", .str rule.name)]
      rulesFor clock context name rest tools

/-- The highest of several priorities, the first of which is given. -/
def highest (first : Int) (others : List Rule) : Int :=
  others.foldl (fun most rule => max most rule.priority) first

/-- The candidate that a template is by the rules that apply to it, if any do. -/
def candidate? (name : String) (template : Template) (order : Nat) : List Rule → Option Candidate
  | [] => none
  | rule :: others =>
    some {
      name, template, order
      priority := highest rule.priority others
      rules := (rule :: others).map (·.name) }

/-- The candidates among templates, in order of registration. -/
def candidates (clock : Nat) (context : Bindings) (rules : List Rule) (order : Nat)
    (templates : List (String × Template)) (tools : Tools := {}) : Composing (List Candidate) :=
  match templates with
  | [] => return []
  | (name, template) :: rest => do
    let applied ← rulesFor clock context name rules tools
    let others ← candidates clock context rules (order + 1) rest tools
    return (candidate? name template order applied).toList ++ others

/-- Whether a candidate is at least as good as another: of higher priority, or of the same and
registered no later. -/
def precedes (a b : Candidate) : Bool :=
  b.priority < a.priority || (a.priority == b.priority && a.order ≤ b.order)

/-- The candidates in a context, the best first. -/
def applicable (clock : Nat) (context : Bindings) (tools : Tools := {}) :
    Composing (List Candidate) := do
  let c ← get
  return (← candidates clock context c.rules 0 c.templates tools).mergeSort precedes

/-- Renders the best candidate in a context over the defaults. -/
def compose (clock : Nat) (bindings : Bindings) (tools : Tools := {}) :
    Composing Composition.Outcome := do
  let c ← get
  let context := c.defaults.merge bindings
  let found ← applicable clock context tools
  match found with
  | [] => throw (.noApplicableTemplate c.templates.length c.rules.length)
  | best :: _ =>
    let output ← Composing.ofRun (best.template.render context)
    Composing.report .info "template_composed" [
      ("template", .str best.name), ("priority", .int best.priority),
      ("applied_rules", .ofStrings best.rules), ("candidates", .int found.length)]
    return {
      output, context
      template := best.name
      rules := best.rules
      priority := best.priority
      candidates := found.length }

/-- The text that a template contributes to a composite: in a block of its name, if it can name one. -/
def wrap (name source : String) : String :=
  if Markup.isRegionName name.toList then Markup.spellRegion .block name source else source

/-- The texts of templates for a composite, in order. -/
def parts (c : Composer) : List String → Run (List (Template × String))
  | [] => return []
  | name :: rest => do
    let template ← Run.ofExcept (c.template name)
    let source ← template.effectiveSource
    return (template, wrap name source) :: (← parts c rest)

/-- A template made of several, with a separator between their texts. Their bindings and functions go
together, those of later ones winning. -/
def composite (c : Composer) (names : List String) (separator : String) : Run Template := do
  let made ← c.parts names
  return {
    source := separator.intercalate (made.map Prod.snd)
    bindings := made.foldl (fun all part => all.merge part.1.bindings) c.defaults
    functions := made.foldl (fun all part => Assoc.merge all part.1.functions) [] }

/-- The sum of the priorities of rules. -/
def totalPriority (rules : List Rule) : Int :=
  rules.foldl (fun total rule => total + rule.priority) 0

/-- The mean of the priorities of all rules, zero if there are none. -/
def averagePriority (c : Composer) : Except Failure Float :=
  if c.rules.isEmpty then .ok 0
  else
    match Number.floatOfQuotient? (totalPriority c.rules) c.rules.length with
    | some x => .ok x
    | none => .error (.arithmetic .overflow)

end Composer

end Stencil
