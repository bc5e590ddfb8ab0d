import Stencil.Proofs.Composition.Answer

/-!
Composers and their history.

A composer arises from a new one by steps: templates are registered, rules are added, and it is asked to list or to
compose. Whatever was asked and whatever failed, it holds the templates and rules of those steps, and right
expressions (`Arises.twin`).
-/

namespace Stencil

open Stencil.Composition

namespace Composer

/-- A step in the life of a composer. -/
inductive Step where
  | register (name : String) (template : Template)
  | registerText (name source : String)
  | addRule (rule : Rule)
  | addRuleOf (fields : Schema.Fields)
  | applicable (clock : Nat) (context : Bindings)
  | compose (clock : Nat) (bindings : Bindings)

namespace Step

/-- Takes a step. -/
def run (tools : Tools) : Step → Composing Unit
  | register name template => Composer.register name template
  | registerText name source => Composer.registerText name source
  | addRule rule => Composer.addRule rule
  | addRuleOf fields => do let _ ← Composer.addRuleOf fields
  | applicable clock context => do let _ ← Composer.applicable clock context tools
  | compose clock bindings => do let _ ← Composer.compose clock bindings tools

/-- The template that a step registers, and its name. -/
def registration? : Step → Option (String × Template)
  | register name template => some (name, template)
  | registerText name source => some (name, { source, reports := false })
  | _ => none

/-- The rule that a step adds. Fields that describe no rule are rejected. -/
def rule? : Step → Option Rule
  | addRule rule => some rule
  | addRuleOf fields => (Rule.ofFields fields).toOption
  | _ => none

end Step

/-- What steps have registered, in order. -/
def registrations (steps : List Step) : List (String × Template) :=
  steps.filterMap Step.registration?

/-- The names that steps have registered, in the order in which they first came. -/
def registered (steps : List Step) : List String :=
  ((registrations steps).map Prod.fst).eraseDups

/-- The template that was last registered under a name. -/
def latest? (steps : List Step) (name : String) : Option Template :=
  Assoc.get? (registrations steps).reverse name

/-- The rules that steps have added, in order. -/
def rulesAdded (steps : List Step) : List Rule :=
  steps.filterMap Step.rule?

/-- The composers that arise from a new one by steps, each taken in some session. A step that fails is taken all the
same. -/
inductive Arises (tools : Tools) (defaults : Bindings) : List Step → Composer → Prop
  | start : Arises tools defaults [] { defaults }
  | step {steps c} : Arises tools defaults steps c → ∀ (step : Step) (s : Session),
      Arises tools defaults (steps ++ [step]) (step.run tools c s).1.2

/-- A composer that takes several steps, each in a session of its own. -/
def take (c : Composer) (steps : List Step) (tools : Tools := {}) : Composer :=
  steps.foldl (fun c step => (step.run tools c {}).1.2) c

theorem Arises.take {tools : Tools} {defaults : Bindings} {steps : List Step} {c : Composer}
    (arises : Arises tools defaults steps c) (more : List Step) :
    Arises tools defaults (steps ++ more) (c.take more tools) := by
  induction more generalizing steps c with
  | nil => rwa [List.append_nil]
  | cons step rest ih =>
    have further := ih (arises.step step {})
    rwa [List.append_assoc] at further

/-- A composer that holds what steps have registered and added, and has compiled nothing. -/
def tally (defaults : Bindings) (steps : List Step) : Composer where
  defaults
  templates := Assoc.ofPairs (registrations steps)
  rules := rulesAdded steps

section

variable {engine : Engine} {tools : Tools} {defaults : Bindings} {steps : List Step} {c : Composer}

theorem filterMap_concat {α β : Type} (f : α → Option β) (items : List α) (item : α) :
    (items ++ [item]).filterMap f = items.filterMap f ++ (f item).toList := by
  rw [List.filterMap_append, List.filterMap_cons]
  cases f item <;> rfl

theorem registrations_concat (steps : List Step) (step : Step) :
    registrations (steps ++ [step]) = registrations steps ++ step.registration?.toList :=
  filterMap_concat Step.registration? steps step

theorem rulesAdded_concat (steps : List Step) (step : Step) :
    rulesAdded (steps ++ [step]) = rulesAdded steps ++ step.rule?.toList :=
  filterMap_concat Step.rule? steps step

/-- A step that registers and adds nothing. -/
theorem tally_of_idle {step : Step} (nothing : step.registration? = none) (norule : step.rule? = none) :
    tally defaults (steps ++ [step]) = tally defaults steps := by
  simp only [tally, registrations_concat, rulesAdded_concat, nothing, norule, Option.toList_none, List.append_nil]

theorem register_twin (twin : (tally defaults steps).Twin engine c) {step : Step} {name : String} {template : Template}
    (registers : step.registration? = some (name, template)) (norule : step.rule? = none) :
    (tally defaults (steps ++ [step])).Twin engine { c with templates := c.templates.set name template } where
  defaults := twin.defaults
  templates := by
    simp only [tally, registrations_concat, registers, Option.toList_some, Assoc.ofPairs_concat, twin.templates]
  rules := by simp only [tally, rulesAdded_concat, norule, Option.toList_none, List.append_nil, twin.rules]
  sound := twin.sound

theorem addRule_twin (twin : (tally defaults steps).Twin engine c) {step : Step} {rule : Rule}
    (nothing : step.registration? = none) (adds : step.rule? = some rule) :
    (tally defaults (steps ++ [step])).Twin engine { c with rules := c.rules ++ [rule] } where
  defaults := twin.defaults
  templates := by simp only [tally, registrations_concat, nothing, Option.toList_none, List.append_nil, twin.templates]
  rules := by simp only [tally, rulesAdded_concat, adds, Option.toList_some, twin.rules]
  sound := twin.sound

theorem addRuleOf_added {fields : Schema.Fields} {rule : Rule} (read : Rule.ofFields fields = .ok rule) (c : Composer)
    (s : Session) : ((Step.addRuleOf fields).run tools c s).1.2 = { c with rules := c.rules ++ [rule] } := by
  simp only [Step.run, Composer.addRuleOf, read]
  rfl

/-- A rule that is rejected leaves no trace. -/
theorem addRuleOf_rejected {fields : Schema.Fields} {e : Failure} (read : Rule.ofFields fields = .error e)
    (c : Composer) (s : Session) : addRuleOf fields c s = ((.error e, c), s) := by
  simp only [addRuleOf, read]
  rfl

/-- Every step keeps a composer in line with its history. -/
theorem Step.run_twin (steady : tools.engine.Steady) (twin : (tally defaults steps).Twin tools.engine c) (step : Step)
    (s : Session) : (tally defaults (steps ++ [step])).Twin tools.engine (step.run tools c s).1.2 := by
  cases step with
  | register name template => exact register_twin twin rfl rfl
  | registerText name source => exact register_twin twin rfl rfl
  | addRule rule => exact addRule_twin twin rfl rfl
  | addRuleOf fields =>
    cases read : Rule.ofFields fields with
    | ok rule =>
      rw [addRuleOf_added read]
      exact addRule_twin twin rfl (by simp [Step.rule?, read, Except.toOption])
    | error e =>
      rw [tally_of_idle rfl (by simp [Step.rule?, read, Except.toOption]), Step.run, bind_composing,
        addRuleOf_rejected read]
      exact twin
  | applicable clock context =>
    obtain ⟨c', s', run, twin', _⟩ := applicable_answers (tally defaults steps) steady clock context c s twin
    rw [tally_of_idle rfl rfl, Step.run, bind_composing, run]
    cases (tally defaults steps).ranking tools clock context <;> exact twin'
  | compose clock bindings =>
    obtain ⟨c', s', run, twin'⟩ := compose_run steady twin clock bindings s
    rw [tally_of_idle rfl rfl, Step.run, bind_composing, run]
    cases (tally defaults steps).composed tools clock bindings s <;> exact twin'

/-- A composer holds what its history has registered and added, and right expressions. -/
theorem Arises.twin (steady : tools.engine.Steady) (arises : Arises tools defaults steps c) :
    (tally defaults steps).Twin tools.engine c := by
  induction arises with
  | start => exact ⟨rfl, rfl, rfl, fun _ _ found => nomatch found⟩
  | step _ step s ih => exact step.run_twin steady ih s

theorem Arises.self (steady : tools.engine.Steady) (arises : Arises tools defaults steps c) :
    c.Twin tools.engine c :=
  ⟨rfl, rfl, rfl, (arises.twin steady).sound⟩

theorem Arises.defaults_eq (steady : tools.engine.Steady) (arises : Arises tools defaults steps c) :
    c.defaults = defaults :=
  (arises.twin steady).defaults

theorem Arises.nodup (steady : tools.engine.Steady) (arises : Arises tools defaults steps c) :
    c.templates.keys.Nodup := by
  rw [(arises.twin steady).templates]
  exact Assoc.nodup_keys_ofPairs _

theorem keys_tally (defaults : Bindings) (steps : List Step) :
    (tally defaults steps).templates.keys = registered steps :=
  Assoc.keys_ofPairs _

theorem get?_tally (defaults : Bindings) (steps : List Step) (name : String) :
    (tally defaults steps).templates.get? name = latest? steps name :=
  Assoc.get?_ofPairs _ name

end

end Composer

end Stencil
