import Stencil.Proofs.Composition.Measure
import Stencil.Proofs.Composition.Selection
import Stencil.Proofs.Value.Text

/-!
When the demands of a rule cannot be judged.

A requirement fails where it needs the double of an integer that has none, the text of a value that has none (a map has
one where the writer of data gives it one), or a list or map as a key (`Requirement.holds_fails_iff`). A behavior fails
for the first reason only (`Behavior.holds_fails_iff`). A rule that fails keeps a composer from choosing any template at
all (`rules_judged_iff`).
-/

namespace Stencil

open Stencil.Composition

theorem Value.measure?_fails_iff {v : Value} : Failing v.measure? ↔ v.Oversized := by
  simp [Failing, measure?_eq_error_iff]

namespace Composition

/-- Values between which a relation cannot be decided. -/
inductive Relation.Clashes (dump : Value → Except Failure String) (v expected : Value) : Relation → Prop
  | order {relation comparison} : relation.comparison? = some comparison → v.Oversized ∨ expected.Oversized →
      Clashes dump v expected relation
  | key : v.kind = .map → expected.isKey = false → Clashes dump v expected .holding
  | text : v.kind ≠ .null → v.kind ≠ .list → v.kind ≠ .map → expected.Unwritable dump ∨ v.Unwritable dump →
      Clashes dump v expected .holding

/-- A requirement that cannot be decided in a context. -/
def Requirement.Clashes (r : Requirement) (context : Bindings) (dump : Value → Except Failure String) : Prop :=
  r.relation.Clashes dump ((Value.ofBindings context).field r.field) r.expected

section

variable {dump : Value → Except Failure String} {v expected : Value} {fields : Schema.Fields} {clock : Nat}
  {context : Bindings}

theorem clashes_holding_iff : Relation.Clashes dump v expected .holding ↔
    v.kind = .map ∧ expected.isKey = false ∨
      v.kind ≠ .null ∧ v.kind ≠ .list ∧ v.kind ≠ .map ∧ (expected.Unwritable dump ∨ v.Unwritable dump) := by
  constructor
  · rintro (⟨asks, _⟩ | ⟨isMap, noKey⟩ | ⟨some, noList, noMap, unwritable⟩)
    · cases asks
    · exact .inl ⟨isMap, noKey⟩
    · exact .inr ⟨some, noList, noMap, unwritable⟩
  · rintro (⟨isMap, noKey⟩ | ⟨some, noList, noMap, unwritable⟩)
    · exact .key isMap noKey
    · exact .text some noList noMap unwritable

theorem holds_fails_iff : Failing (v.holds expected dump) ↔ Relation.Clashes dump v expected .holding := by
  rw [clashes_holding_iff]
  have texts : Failing (do
      let part ← expected.toText dump
      let whole ← v.toText dump
      return Text.isPart part.toList whole.toList) ↔ expected.Unwritable dump ∨ v.Unwritable dump := by
    rw [failing_bind_iff fun _ _ => failing_return_iff, Value.toText_fails_iff, Value.toText_fails_iff]
  cases v with
  | null => simp [Value.holds, Value.kind]
  | list items => simp [Value.holds, Value.kind]
  | map entries =>
    cases key : expected.isKey <;> simp [Value.holds, Value.kind, key]
  | _ =>
    simp only [Value.kind, reduceCtorEq, not_false_eq_true, ne_eq, true_and, false_and, false_or]
    exact texts

theorem clashes_ordered_iff {relation : Relation} {comparison : Comparison}
    (asks : relation.comparison? = some comparison) :
    Relation.Clashes dump v expected relation ↔ v.Oversized ∨ expected.Oversized := by
  constructor
  · rintro (⟨_, large⟩ | _ | _)
    · exact large
    · cases asks
    · cases asks
  · exact .order asks

theorem ordered_fails_iff {comparison : Comparison} :
    Failing (ordered comparison v expected) ↔ v.Oversized ∨ expected.Oversized := by
  simp [Failing, ordered_eq_error_iff]

theorem Relation.holds_fails_iff {relation : Relation} :
    Failing (relation.holds v expected dump) ↔ relation.Clashes dump v expected := by
  cases asks : relation.comparison? with
  | some comparison => rw [Relation.holds_of_comparison asks, ordered_fails_iff, clashes_ordered_iff asks]
  | none =>
    cases relation with
    | greater | less | greaterOrEqual | lessOrEqual => cases asks
    | holding => exact Composition.holds_fails_iff
    | equal | different | present | among =>
      refine iff_of_false (not_failing_ok _) ?_
      rintro (⟨asks, _⟩)
      cases asks

theorem Requirement.holds_fails_iff {r : Requirement} : Failing (r.holds context dump) ↔ r.Clashes context dump :=
  Relation.holds_fails_iff

/-- The value of an entry of a history, missing if there is none. -/
def entry (fields : Schema.Fields) (name : String) : Value :=
  (Assoc.get? fields (.str name)).getD .null

/-- The score in a domain, if a history has scores. -/
def scores (fields : Schema.Fields) (domain : String) : List Value :=
  match fields.get? (.str "domain_expertise") with
  | some (.map domains) => [entry domains domain]
  | _ => []

/-- The values of a history that a behavior needs as doubles. -/
def Behavior.measured (b : Behavior) (context : Bindings) : List Value :=
  match b.trait with
  | .usageFrequency => [entry (history context) "usage_count"]
  | .successRate => [entry (history context) "successful_prompts", entry (history context) "total_prompts"]
  | .timeOfDay => []
  | .domainExpertise => scores (history context) (b.domain.getD "")

theorem count_fails_iff {name : String} : Failing (count fields name) ↔ (entry fields name).Oversized := by
  rw [count, failing_return_iff, Value.measure?_fails_iff]
  rfl

theorem expertise_fails_iff {domain : String} :
    Failing (expertise fields domain) ↔ ∃ v ∈ scores fields domain, v.Oversized := by
  unfold expertise scores
  cases fields.get? (.str "domain_expertise") with
  | none => simp
  | some held =>
    cases held with
    | map domains => simp [Value.measure?_fails_iff, entry]
    | _ => simp

theorem Behavior.holds_fails_iff {b : Behavior} :
    Failing (b.holds clock context) ↔ ∃ v ∈ b.measured context, v.Oversized := by
  unfold Behavior.holds Behavior.measured
  cases b.trait with
  | usageFrequency =>
    simp only [failing_return_iff, count_fails_iff, List.mem_singleton, exists_eq_left]
  | successRate =>
    rw [failing_bind_iff fun _ _ => failing_return_iff, count_fails_iff, count_fails_iff]
    simp only [List.mem_cons, List.not_mem_nil, or_false, exists_eq_or_imp, exists_eq_left]
  | timeOfDay =>
    cases b.hours <;> simp [pure, Except.pure]
  | domainExpertise =>
    have scored : Failing (expertise (history context) (b.domain.getD "")) ↔ _ := expertise_fails_iff
    refine (failing_bind_iff fun score? _ => iff_of_false ?_ id).trans ((or_false _).to_iff.trans scored)
    cases score? <;> exact not_failing_ok _

/-- A computation that tries several tests fails at the first that is not passed, if that fails. -/
theorem allHold_fails_iff {α : Type} {test : α → Except Failure Bool} {items : List α} :
    Failing (Composer.allHold test items) ↔
      ∃ before a after, items = before ++ a :: after ∧ (∀ b ∈ before, test b = .ok true) ∧ Failing (test a) := by
  induction items with
  | nil => simp [Composer.allHold]
  | cons first rest ih =>
    rw [Composer.allHold, failing_if_iff, ih]
    constructor
    · rintro (fails | ⟨passed, before, a, after, rfl, earlier, fails⟩)
      · exact ⟨[], first, rest, rfl, fun _ member => absurd member List.not_mem_nil, fails⟩
      · exact ⟨first :: before, a, after, rfl, List.forall_mem_cons.mpr ⟨passed, earlier⟩, fails⟩
    · rintro ⟨before, a, after, split, earlier, fails⟩
      cases before with
      | nil =>
        cases split
        exact .inl fails
      | cons other before =>
        cases split
        obtain ⟨passed, earlier⟩ := List.forall_mem_cons.mp earlier
        exact .inr ⟨passed, before, a, after, rfl, earlier, fails⟩

/-- A rule that cannot be judged in a context: the first of its demands that is not met cannot be decided. -/
inductive Rule.Breaks (dump : Value → Except Failure String) (rule : Rule) (clock : Nat) (context : Bindings) : Prop
  | requirement {before r after} : rule.requirements = before ++ r :: after →
      (∀ earlier ∈ before, earlier.holds context dump = .ok true) → r.Clashes context dump →
      Breaks dump rule clock context
  | behavior {before b after} : (∀ r ∈ rule.requirements, r.holds context dump = .ok true) →
      rule.behaviors = before ++ b :: after → (∀ earlier ∈ before, earlier.holds clock context = .ok true) →
      (∃ v ∈ b.measured context, v.Oversized) → Breaks dump rule clock context

theorem meetsDemands_fails_iff {rule : Rule} :
    Failing (Composer.meetsDemands rule clock context dump) ↔ rule.Breaks dump clock context := by
  rw [Composer.meetsDemands, failing_if_iff, allHold_fails_iff, Composer.allHold_eq_true, allHold_fails_iff]
  constructor
  · rintro (⟨before, r, after, split, earlier, fails⟩ | ⟨met, before, b, after, split, earlier, fails⟩)
    · exact .requirement split earlier (Requirement.holds_fails_iff.mp fails)
    · exact .behavior met split earlier (Behavior.holds_fails_iff.mp fails)
  · rintro (⟨split, earlier, clashes⟩ | ⟨met, split, earlier, oversized⟩)
    · exact .inl ⟨_, _, _, split, earlier, Requirement.holds_fails_iff.mpr clashes⟩
    · exact .inr ⟨met, _, _, _, split, earlier, Behavior.holds_fails_iff.mpr oversized⟩

end

/-- Rules of which one cannot be judged in a context. It is tried if it is switched on and fits one of several names. -/
def Breaking (dump : Value → Except Failure String) (rules : List Rule) (names : List String) (clock : Nat)
    (context : Bindings) : Prop :=
  ∃ rule ∈ rules, rule.isEnabled = true ∧ (∃ name ∈ names, rule.fits name = true) ∧ rule.Breaks dump clock context

/-- Rules whose expressions fail on an engine as expressions do. -/
def Lenient (engine : Engine) (rules : List Rule) (context : Bindings) : Prop :=
  ∀ rule ∈ rules, ∀ e, engine.valueOf rule.expression context = .error e → ∃ stage text, e = .ruleExpression stage text

variable {tools : Tools} {rules : List Rule} {names : List String} {clock : Nat} {context : Bindings}

theorem quiet_of_not_breaking (lenient : Lenient tools.engine rules context)
    (judged : ¬ Breaking tools.dump rules names clock context) : Quiet tools rules names clock context := by
  intro rule added enabled name listed fits
  refine ⟨not_failing_iff.mp fun fails => judged ?_, fun _ => lenient rule added⟩
  exact ⟨rule, added, enabled, ⟨name, listed, fits⟩, meetsDemands_fails_iff.mp fails⟩

end Composition

namespace Composer

variable {tools : Tools} {rules : List Rule} {clock : Nat} {context : Bindings} {name : String}

theorem judge_fails {rule : Rule} (fits : rule.fits name = true) (breaks : rule.Breaks tools.dump clock context) :
    Failing (judge tools rule clock context name) := by
  rw [judge, if_pos fits, failing_if_iff]
  exact .inl (meetsDemands_fails_iff.mpr breaks)

/-- A rule that cannot be judged fails whatever rules come before it. -/
theorem appliedRules_fails {rule : Rule} (added : rule ∈ rules) (enabled : rule.isEnabled = true)
    (fits : rule.fits name = true) (breaks : rule.Breaks tools.dump clock context) :
    Failing (appliedRules tools clock context name rules) := by
  induction rules with
  | nil => cases added
  | cons first rest ih =>
    rw [appliedRules]
    rcases List.mem_cons.mp added with rfl | later
    · rw [if_pos enabled]
      exact (judge_fails fits breaks).bind
    · cases first.isEnabled with
      | false => exact ih later
      | true =>
        refine .bind_next fun applied => ?_
        cases applied with
        | false => exact ih later
        | true => exact (ih later).bind

theorem candidatesAmong_fails {templates : List (String × Template)} (order : Nat)
    (breaking : Breaking tools.dump rules (templates.map Prod.fst) clock context) :
    Failing (candidatesAmong tools clock context rules order templates) := by
  obtain ⟨rule, added, enabled, ⟨name, listed, fits⟩, breaks⟩ := breaking
  induction templates generalizing order with
  | nil => cases listed
  | cons entry rest ih =>
    obtain ⟨first, template⟩ := entry
    rw [candidatesAmong]
    rcases List.mem_cons.mp listed with rfl | later
    · exact (appliedRules_fails added enabled fits breaks).bind
    · exact .bind_next fun _ => (ih (order + 1) later).bind

variable {c : Composer}

theorem ranking_fails_iff (lenient : Lenient tools.engine c.rules context) :
    Failing (c.ranking tools clock context) ↔ Breaking tools.dump c.rules c.templates.keys clock context := by
  constructor
  · intro fails
    by_contra judged
    obtain ⟨e, fails⟩ := fails
    rw [ranking_of_quiet (quiet_of_not_breaking lenient judged)] at fails
    cases fails
  · intro breaking
    rw [ranking, failing_return_iff]
    exact candidatesAmong_fails 0 breaking

/-- Composing with the candidates among which one is chosen fails for want of one, or as the chosen template does. -/
theorem choose_eq_error {found : List Candidate} {s : Session} {e : Failure}
    (failed : c.choose context s found = .error e) :
    found = [] ∧ e = .noApplicableTemplate c.templates.length c.rules.length ∨
      ∃ best ∈ found, result (best.template.render context) s = .error e := by
  cases found with
  | nil =>
    cases failed
    exact .inl ⟨rfl, rfl⟩
  | cons best others =>
    refine .inr ⟨best, List.mem_cons_self .., ?_⟩
    cases run : result (best.template.render context) s with
    | ok output =>
      rw [choose, run] at failed
      cases failed
    | error e' =>
      rw [choose, run] at failed
      cases failed
      rfl

theorem composed_fails {bindings : Bindings} (merged : c.defaults.merge bindings = context)
    (breaking : Breaking tools.dump c.rules c.templates.keys clock context) (s : Session) :
    Failing (c.composed tools clock bindings s) := by
  rw [composed, merged, ranking]
  exact (candidatesAmong_fails 0 breaking).bind.bind

/-- Expressions are judged by a steady engine, and maps are written by any writer of data. In every composer that
arises, and in every context in which expressions fail only as expressions do: a requirement or a behavior fails where
it clashes or measures an oversized value, and has an answer everywhere else. What is applicable is answered unless some
rule breaks that is switched on and fits a registered name; then composing fails too, whatever the other rules say. If
no such rule breaks, composing fails only where no rule holds for any name, or as one of the templates does for which
some rule holds. -/
theorem rules_judged_iff (steady : tools.engine.Steady) {defaults : Bindings} {steps : List Step}
    (arises : Arises tools defaults steps c) (lenient : Lenient tools.engine (rulesAdded steps) context) :
    (∀ r : Requirement, Failing (r.holds context tools.dump) ↔ r.Clashes context tools.dump) ∧
    (∀ b : Behavior, Failing (b.holds clock context) ↔ ∃ v ∈ b.measured context, v.Oversized) ∧
    (∀ s, Failing ((applicable clock context tools).answer c s) ↔
      Breaking tools.dump (rulesAdded steps) (registered steps) clock context) ∧
    ∀ bindings s, defaults.merge bindings = context →
      (Breaking tools.dump (rulesAdded steps) (registered steps) clock context →
        Failing ((compose clock bindings tools).answer c s)) ∧
      (¬ Breaking tools.dump (rulesAdded steps) (registered steps) clock context →
        ∀ e, (compose clock bindings tools).answer c s = .error e →
          (e = .noApplicableTemplate (registered steps).length (rulesAdded steps).length ∧
            ∀ name ∈ registered steps, ∀ rule ∈ rulesAdded steps, ¬ rule.Holds tools clock context name) ∨
          ∃ name ∈ registered steps, (∃ rule ∈ rulesAdded steps, rule.Holds tools clock context name) ∧
            ∃ template, latest? steps name = some template ∧ result (template.render context) s = .error e) := by
  have twin := arises.twin steady
  have names : (tally defaults steps).templates.keys = registered steps := keys_tally defaults steps
  have distinct : (tally defaults steps).templates.keys.Nodup := Assoc.nodup_keys_ofPairs _
  refine ⟨fun _ => Requirement.holds_fails_iff, fun _ => Behavior.holds_fails_iff, fun s => ?_,
    fun bindings s merged => ⟨fun breaking => ?_, fun judged e failed => ?_⟩⟩
  · rw [(applicable_answers (tally defaults steps) steady clock context).answer twin, ← names]
    exact ranking_fails_iff lenient
  · rw [← names] at breaking
    rw [answer_compose steady twin]
    exact composed_fails merged breaking s
  · rw [← names] at judged
    have quiet : Quiet tools (tally defaults steps).rules (tally defaults steps).templates.keys clock context :=
      quiet_of_not_breaking lenient judged
    have selects : Selects tools (tally defaults steps).templates.keys (tally defaults steps).templates.get?
        (rulesAdded steps) clock context
        (ranked tools (rulesAdded steps) clock context (tally defaults steps).templates) := selects_ranked distinct
    rw [names, funext (get?_tally defaults steps)] at selects
    rw [answer_compose_of_quiet steady twin quiet merged] at failed
    rcases choose_eq_error failed with ⟨none, rfl⟩ | ⟨best, member, rendered⟩
    · refine .inl ⟨?_, fun name listed rule added holds => ?_⟩
      · rw [← names, Assoc.keys, List.length_map]
        rfl
      · have found := (selects.listed name).mpr ⟨listed, rule, added, holds⟩
        have nothing : ranked tools (rulesAdded steps) clock context (tally defaults steps).templates = [] := none
        rw [nothing] at found
        cases found
    · obtain ⟨listed, holds⟩ := (selects.listed best.name).mp (List.mem_map_of_mem member)
      exact .inr ⟨best.name, listed, holds, best.template, selects.template best member, rendered⟩

/-- A rule for small orders, as data. -/
def smallFields : Schema.Fields :=
  [(.str "name", .str "small"),
    (.str "conditions", .list [.ofBindings [("field", .str "n"), ("operator", .str "<"), ("value", .int 100)]])]

def small : Rule where
  name := "small"
  requirements := [⟨"n", .less, .int 100⟩]

/-- A counter with a rule that always holds and one for small orders. -/
def counterSteps : List Step :=
  [.register "memo" { source := "text" }, .addRule { name := "any" }, .addRuleOf smallFields]

theorem rulesAdded_counter : rulesAdded counterSteps = [{ name := "any" }, small] :=
  rfl

theorem counter_lenient (context : Bindings) : Lenient Formula.engine (rulesAdded counterSteps) context := by
  have plain : Formula.engine.valueOf "" context = .ok true := rfl
  intro rule added e failed
  rw [rulesAdded_counter] at added
  simp only [List.mem_cons, List.not_mem_nil, or_false] at added
  rcases added with rfl | rfl <;> cases plain.symm.trans failed

theorem counter_judged :
    Arises {} [] counterSteps (take {} counterSteps) ∧
      Lenient Formula.engine (rulesAdded counterSteps) [("n", .int 3)] ∧
      ∀ s, ¬ Failing ((applicable 0 [("n", .int 3)]).answer (take {} counterSteps) s) := by
  have arises : Arises {} [] counterSteps (take {} counterSteps) := Arises.start.take counterSteps
  have lenient := counter_lenient [("n", .int 3)]
  refine ⟨arises, lenient, fun s fails => ?_⟩
  obtain ⟨rule, added, _, _, breaks⟩ := ((rules_judged_iff Formula.steady arises lenient).2.2.1 s).mp fails
  have fails := meetsDemands_fails_iff.mpr breaks
  rw [rulesAdded_counter] at added
  simp only [List.mem_cons, List.not_mem_nil, or_false] at added
  rcases added with rfl | rfl
  · exact not_failing_ok _ fails
  · exact not_failing_ok true fails

/-- An order of more pieces than any double counts is not small, and yet the rule for small orders keeps everything else
from being chosen. A list is not looked for in a map. -/
theorem counter_broken :
    Rule.ofFields smallFields = .ok small ∧ Arises {} [] counterSteps (take {} counterSteps) ∧
      Lenient Formula.engine (rulesAdded counterSteps) [("n", .int (10 ^ 400))] ∧
      (∀ r ∈ small.requirements, r.holds [("n", .int (10 ^ 400))] = .error (.arithmetic .overflow)) ∧
      Composition.Rule.Holds {} { name := "any" } 0 [("n", .int (10 ^ 400))] "memo" ∧
      (∀ s, Failing ((applicable 0 [("n", .int (10 ^ 400))]).answer (take {} counterSteps) s)) ∧
      (∀ s, Failing ((compose 0 [("n", .int (10 ^ 400))]).answer (take {} counterSteps) s)) ∧
      (Requirement.mk "x" .holding (.list [.str "a"])).holds [("x", .map [(.str "a", .int 1)])] =
        .error .unhashable := by
  have arises : Arises {} [] counterSteps (take {} counterSteps) := Arises.start.take counterSteps
  have lenient := counter_lenient [("n", .int (10 ^ 400))]
  have vast : Number.Vast (10 ^ 400) := by decide +kernel
  have large : (Value.int (10 ^ 400)).Oversized := Value.oversized_int_iff.mpr vast
  have first : small.requirements = [] ++ ⟨"n", .less, .int 100⟩ :: [] := rfl
  have breaks : small.Breaks Value.compact 0 [("n", .int (10 ^ 400))] :=
    .requirement first nofun (.order rfl (.inl large))
  have breaking : Breaking Value.compact (tally [] counterSteps).rules (tally [] counterSteps).templates.keys 0
      [("n", .int (10 ^ 400))] :=
    ⟨small, List.mem_cons_of_mem _ (List.mem_cons_self ..), rfl, ⟨"memo", List.mem_cons_self .., rfl⟩, breaks⟩
  refine ⟨rfl, arises, lenient, ?_, ?_, fun s => ?_, fun s => ?_, rfl⟩
  · intro r demanded
    rw [List.mem_singleton.mp demanded]
    exact ordered_eq_error_iff.mpr ⟨.inl large, rfl⟩
  · exact ⟨rfl, rfl, nofun, nofun, rfl⟩
  · rw [(applicable_answers (tally [] counterSteps) Formula.steady 0 _).answer (arises.twin Formula.steady)]
    exact (ranking_fails_iff lenient).mpr breaking
  · rw [answer_compose Formula.steady (arises.twin Formula.steady)]
    exact composed_fails rfl breaking s

end Composer

end Stencil
