import Stencil.Proofs.Composition.Expression
import Stencil.Proofs.Template.Oblivious

/-!
What a composer answers.

A composer stores the expressions that it has compiled. As long as what it stores is right, its answers are those of
a computation without any store (`applicable_answers`, `compose_run`): they depend on the templates and rules that it
holds, and not on what it was asked before. The engine may be any one whose tests are steady.
-/

namespace Stencil

open Stencil.Composition

/-- What a composer has stored is what compiling gives. -/
def Composer.Sound (engine : Engine) (c : Composer) : Prop :=
  ∀ text e, c.compiled.get? text = some e → RuleExpression.compile text engine = .ok e

/-- A composer that holds the same as another one, and right expressions. -/
structure Composer.Twin (engine : Engine) (c c' : Composer) : Prop where
  defaults : c'.defaults = c.defaults
  templates : c'.templates = c.templates
  rules : c'.rules = c.rules
  sound : c'.Sound engine

theorem Composer.Twin.forgetful {engine : Engine} {c c' : Composer} (twin : c.Twin engine c') :
    c.Twin engine { c' with compiled := [] } :=
  ⟨twin.defaults, twin.templates, twin.rules, fun _ _ found => nomatch found⟩

/-- A computation that has a result on every twin of a composer, and leaves a twin behind and the count of calls as it
was. -/
def Answers {α : Type} (engine : Engine) (c : Composer) (m : Composing α) (r : Except Failure α) : Prop :=
  ∀ c' s, c.Twin engine c' → ∃ c'' s', m c' s = ((r, c''), s') ∧ c.Twin engine c'' ∧ s'.calls = s.calls

section

variable {engine : Engine} {c : Composer} {α β : Type}

/-- What a composer answers in a session. -/
def Composing.answer (m : Composing α) (c : Composer) (s : Session) : Except Failure α :=
  (m c s).1.1

theorem Answers.answer {c' : Composer} {m : Composing α} {r : Except Failure α} (answers : Answers engine c m r)
    (twin : c.Twin engine c') (s : Session) : m.answer c' s = r := by
  obtain ⟨c'', s', run, _⟩ := answers c' s twin
  rw [Composing.answer, run]

theorem Answers.pure (a : α) : Answers engine c (pure a) (.ok a) :=
  fun c' s twin => ⟨c', s, rfl, twin, rfl⟩

theorem Answers.throw (e : Failure) : Answers engine c (throw e : Composing α) (.error e) :=
  fun c' s twin => ⟨c', s, rfl, twin, rfl⟩

theorem Answers.report {severity : Severity} {name : String} {details : Bindings} :
    Answers engine c (Composing.report severity name details) (.ok ()) :=
  fun c' _ twin => ⟨c', _, rfl, twin, rfl⟩

theorem Answers.ofExcept (r : Except Failure α) : Answers engine c (Composing.ofExcept r) r := by
  cases r with
  | ok a => exact .pure a
  | error e => exact .throw e

theorem Answers.attempt {m : Composing α} {r : Except Failure α} (answers : Answers engine c m r) :
    Answers engine c (Composing.attempt m) (.ok r) := by
  intro c' s twin
  obtain ⟨c'', s', run, twin', calls⟩ := answers c' s twin
  refine ⟨c'', s', ?_, twin', calls⟩
  rw [Composing.attempt, run]

theorem bind_composing (m : Composing α) (f : α → Composing β) (c : Composer) (s : Session) :
    (m >>= f) c s = match m c s with
      | ((.ok a, c'), s') => f a c' s'
      | ((.error e, c'), s') => ((.error e, c'), s') := by
  simp only [bind, ExceptT.bind, ExceptT.mk, StateT.bind]
  rcases m c s with ⟨⟨r, c'⟩, s'⟩
  cases r <;> rfl

theorem Answers.bind {m : Composing α} {f : α → Composing β} {r : Except Failure α} {g : α → Except Failure β}
    (answers : Answers engine c m r) (next : ∀ a, r = .ok a → Answers engine c (f a) (g a)) :
    Answers engine c (m >>= f) (r >>= g) := by
  intro c' s twin
  obtain ⟨c'', s', run, twin', calls⟩ := answers c' s twin
  rw [bind_composing, run]
  cases r with
  | error e => exact ⟨c'', s', rfl, twin', calls⟩
  | ok a =>
    obtain ⟨c₃, s₃, run', twin₃, calls'⟩ := next a rfl c'' s' twin'
    exact ⟨c₃, s₃, run', twin₃, calls'.trans calls⟩

/-- A computation that reads the composer, of which it needs what twins share. -/
theorem Answers.read {f : Composer → Composing β} {r : Except Failure β}
    (next : ∀ c', c.Twin engine c' → Answers engine c (f c') r) : Answers engine c (get >>= f) r := by
  intro c' s twin
  exact next c' twin c' s twin

end

theorem RuleExpression.ofCall_answers {engine : Engine} (steady : engine.Steady) (c : Composer) {text : String}
    {e : RuleExpression} (compiled : compile text engine = .ok e) (context : Bindings) :
    Answers engine c (Composing.ofRun (Run.ofCall (e.holds Function.builtins context))) (e.verdict context) := by
  intro c' s twin
  have still : e.holds Function.builtins context s.calls = (e.verdict context, s.calls) :=
    holds_still steady compiled context s.calls
  have run : Composing.ofRun (Run.ofCall (e.holds Function.builtins context)) c' s =
      Composing.ofExcept (e.holds Function.builtins context s.calls).1 c'
        { s with calls := (e.holds Function.builtins context s.calls).2 } := rfl
  rw [run, still]
  exact Answers.ofExcept (e.verdict context) c' s twin

namespace Composer

section

variable {engine : Engine} {text : String} {e : RuleExpression}

theorem Sound.set {c : Composer} (sound : c.Sound engine) (right : RuleExpression.compile text engine = .ok e) :
    Sound engine { c with compiled := c.compiled.set text e } := by
  intro text' e' found
  rw [Assoc.get?_set] at found
  by_cases same : text = text'
  · subst same
    simp only [beq_self_eq_true, if_true, Option.some.injEq] at found
    rwa [← found]
  · simp only [beq_iff_eq, same, if_false] at found
    exact sound text' e' found

theorem store_answers (c : Composer) (right : RuleExpression.compile text engine = .ok e) :
    Answers engine c (modify fun c => { c with compiled := c.compiled.set text e }) (.ok ()) :=
  fun _ s twin => ⟨_, s, rfl, ⟨twin.defaults, twin.templates, twin.rules, twin.sound.set right⟩, rfl⟩

end

variable {tools : Tools} (c : Composer)

/-- Looking an expression up gives what compiling it gives. -/
theorem expression_answers (text : String) :
    Answers tools.engine c (expression text tools) (RuleExpression.compile text tools.engine) := by
  refine .read fun c' twin => ?_
  cases found : c'.compiled.get? text with
  | some e =>
    rw [twin.sound text e found]
    exact .pure e
  | none =>
    -- What is stored on the way is right, so the composer that is left is a twin too.
    have stored : Answers tools.engine c (do
        let expression ← Composing.ofExcept (RuleExpression.compile text tools.engine)
        modify fun c => { c with compiled := c.compiled.set text expression }
        return expression) (RuleExpression.compile text tools.engine >>= fun e => .ok () >>= fun _ => .ok e) :=
      (Answers.ofExcept _).bind fun e right => (store_answers c right).bind fun _ _ => .pure e
    cases compiled : RuleExpression.compile text tools.engine <;> rw [compiled] at stored <;> exact stored

/-- The outcome of an expression in a rule: one that fails as expressions do does not hold. -/
def lenient : Except Failure Bool → Except Failure Bool
  | .error (.ruleExpression _ _) => .ok false
  | outcome => outcome

theorem expressionHolds_answers (steady : tools.engine.Steady) (rule : Rule) (context : Bindings) :
    Answers tools.engine c (expressionHolds rule context tools)
      (lenient (tools.engine.valueOf rule.expression context)) := by
  have value : Answers tools.engine c (do
      let expression ← expression rule.expression tools
      Composing.ofRun (Run.ofCall (expression.holds Function.builtins context)))
        (tools.engine.valueOf rule.expression context) :=
    (expression_answers c rule.expression).bind fun _ right => RuleExpression.ofCall_answers steady c right context
  refine value.attempt.bind (g := lenient) fun outcome _ => ?_
  cases outcome with
  | ok b => exact .pure b
  | error e =>
    cases e with
    | ruleExpression stage text => exact Answers.report.bind fun _ _ => .pure false
    | _ => exact .throw _

/-- Whether a rule that is switched on applies to a template, if that can be told. -/
def judge (tools : Tools) (rule : Rule) (clock : Nat) (context : Bindings) (name : String) : Except Failure Bool := do
  if rule.fits name then
    if ← meetsDemands rule clock context tools.dump then lenient (tools.engine.valueOf rule.expression context)
    else return false
  else return false

theorem applies_answers (steady : tools.engine.Steady) (rule : Rule) (clock : Nat) (context : Bindings)
    (name : String) :
    Answers tools.engine c (applies rule clock context name tools) (judge tools rule clock context name) := by
  unfold applies judge
  cases rule.fits name with
  | false => exact .pure false
  | true =>
    refine (Answers.ofExcept (meetsDemands rule clock context tools.dump)).bind fun met _ => ?_
    cases met with
    | false => exact .pure false
    | true => exact expressionHolds_answers c steady rule context

/-- The rules that apply to a template, in order. -/
def appliedRules (tools : Tools) (clock : Nat) (context : Bindings) (name : String) :
    List Rule → Except Failure (List Rule)
  | [] => .ok []
  | rule :: rest => do
    if rule.isEnabled then
      if ← judge tools rule clock context name then return rule :: (← appliedRules tools clock context name rest)
      else appliedRules tools clock context name rest
    else appliedRules tools clock context name rest

theorem rulesFor_answers (steady : tools.engine.Steady) (clock : Nat) (context : Bindings) (name : String)
    (rules : List Rule) : Answers tools.engine c (rulesFor clock context name rules tools)
      (appliedRules tools clock context name rules) := by
  induction rules with
  | nil => exact .pure []
  | cons rule rest ih =>
    unfold rulesFor appliedRules
    cases rule.isEnabled with
    | false => exact Answers.report.bind fun _ _ => ih
    | true =>
      refine (applies_answers c steady rule clock context name).bind fun applied _ => ?_
      cases applied with
      | false => exact ih
      | true => exact Answers.report.bind fun _ _ => ih.bind fun _ _ => .pure _

/-- The candidates among templates, in order of registration. -/
def candidatesAmong (tools : Tools) (clock : Nat) (context : Bindings) (rules : List Rule) (order : Nat) :
    List (String × Template) → Except Failure (List Candidate)
  | [] => .ok []
  | (name, template) :: rest => do
    let applied ← appliedRules tools clock context name rules
    let others ← candidatesAmong tools clock context rules (order + 1) rest
    return (candidate? name template order applied).toList ++ others

theorem candidates_answers (steady : tools.engine.Steady) (clock : Nat) (context : Bindings) (rules : List Rule)
    (order : Nat) (templates : List (String × Template)) :
    Answers tools.engine c (candidates clock context rules order templates tools)
      (candidatesAmong tools clock context rules order templates) := by
  induction templates generalizing order with
  | nil => exact .pure []
  | cons entry rest ih =>
    obtain ⟨name, template⟩ := entry
    unfold candidates candidatesAmong
    exact (rulesFor_answers c steady clock context name rules).bind fun _ _ =>
      (ih (order + 1)).bind fun _ _ => .pure _

/-- The candidates of a composer, the best first. -/
def ranking (tools : Tools) (clock : Nat) (context : Bindings) : Except Failure (List Candidate) := do
  return (← candidatesAmong tools clock context c.rules 0 c.templates).mergeSort precedes

theorem applicable_answers (steady : tools.engine.Steady) (clock : Nat) (context : Bindings) :
    Answers tools.engine c (applicable clock context tools) (c.ranking tools clock context) := by
  refine .read fun c' twin => ?_
  rw [twin.rules, twin.templates]
  exact (candidates_answers c steady clock context c.rules 0 c.templates).bind fun _ _ => .pure _

/-- The outcome of composing with the best of several candidates. -/
def outcome (best : Candidate) (context : Bindings) (candidates : Nat) (output : String) : Composition.Outcome where
  template := best.name
  output := output
  rules := best.rules
  priority := best.priority
  context := context
  candidates := candidates

/-- What composing gives if the candidates are known: the first of them is rendered, with the count of calls of a
session. -/
def choose (context : Bindings) (s : Session) : List Candidate → Except Failure Composition.Outcome
  | [] => .error (.noApplicableTemplate c.templates.length c.rules.length)
  | best :: others => (result (best.template.render context) s).map (outcome best context (others.length + 1))

/-- What composing gives. -/
def composed (tools : Tools) (clock : Nat) (bindings : Bindings) (s : Session) :
    Except Failure Composition.Outcome := do
  c.choose (c.defaults.merge bindings) s (← c.ranking tools clock (c.defaults.merge bindings))

theorem ofRun_run {α : Type} (r : Run α) (c : Composer) (s : Session) :
    Composing.ofRun r c s = ((result r s, c), after r s) :=
  rfl

/-- Composing gives the same on every twin, and leaves a twin behind. -/
theorem compose_run (steady : tools.engine.Steady) {c c' : Composer} (twin : c.Twin tools.engine c') (clock : Nat)
    (bindings : Bindings) (s : Session) :
    ∃ c'' s', compose clock bindings tools c' s = ((c.composed tools clock bindings s, c''), s') ∧
      c.Twin tools.engine c'' := by
  have begins : compose clock bindings tools c' s = (applicable clock (c'.defaults.merge bindings) tools >>=
    fun found =>
      match found with
      | [] => throw (.noApplicableTemplate c'.templates.length c'.rules.length)
      | best :: _ => do
        let output ← Composing.ofRun (best.template.render (c'.defaults.merge bindings))
        Composing.report .info "template_composed" [
          ("template", .str best.name), ("priority", .int best.priority),
          ("applied_rules", .ofStrings best.rules), ("candidates", .int found.length)]
        return outcome best (c'.defaults.merge bindings) found.length output) c' s := rfl
  rw [twin.defaults, twin.templates, twin.rules] at begins
  obtain ⟨c₁, s₁, run, twin₁, calls⟩ := applicable_answers c steady clock (c.defaults.merge bindings) c' s twin
  rw [begins, bind_composing, run, composed]
  cases c.ranking tools clock (c.defaults.merge bindings) with
  | error e => exact ⟨c₁, s₁, rfl, twin₁⟩
  | ok found =>
    cases found with
    | nil => exact ⟨c₁, s₁, rfl, twin₁⟩
    | cons best others =>
      -- The selection has reported events, which the rendering does not look at.
      have same := (best.template.render_oblivious (c.defaults.merge bindings) s₁ s calls).1
      have chosen : (Except.ok (best :: others) >>= c.choose (c.defaults.merge bindings) s) =
          (result (best.template.render (c.defaults.merge bindings)) s).map
            (outcome best (c.defaults.merge bindings) (others.length + 1)) := rfl
      rw [chosen]
      simp only [bind_composing, ofRun_run, same]
      cases result (best.template.render (c.defaults.merge bindings)) s with
      | error e => exact ⟨c₁, _, rfl, twin₁⟩
      | ok output => exact ⟨c₁, _, rfl, twin₁⟩

theorem answer_compose (steady : tools.engine.Steady) {c c' : Composer} (twin : c.Twin tools.engine c') (clock : Nat)
    (bindings : Bindings) (s : Session) :
    (compose clock bindings tools).answer c' s = c.composed tools clock bindings s := by
  obtain ⟨c'', s', run, _⟩ := compose_run steady twin clock bindings s
  rw [Composing.answer, run]

end Composer

end Stencil
