import Stencil.Proofs.Template.Coverage
import Stencil.Proofs.Template.Site

/-!
What analysis says of conditionals and loops is what a rendering does with them.

Analysis and rendering walk the same tree. Wherever a rendering comes, analysis has been, and has left its
report at the position that the site in the tree gives (`ReachesAt.analyzed`). Where no local name takes
part, both look the same things up, so the reports hold in every iteration (`Template.analyze_foretells`).
-/

namespace Stencil

namespace Analysis

open Markup (Census Site censusOf)

/-- An analysis has grown by the reports on some conditionals and loops. -/
structure Adds (a : Analysis) (c : Census) (b : Analysis) : Prop where
  conditionals : ∃ more, b.conditionals = a.conditionals ++ more ∧ more.length = c.conditionals
  loops : ∃ more, b.loops = a.loops ++ more ∧ more.length = c.loops

/-- An analysis that has grown, if at all, by names alone. -/
theorem adds_of_eq {a b : Analysis} (conditionals : b.conditionals = a.conditionals) (loops : b.loops = a.loops) :
    Adds a {} b :=
  ⟨⟨[], by rw [conditionals, List.append_nil], rfl⟩, ⟨[], by rw [loops, List.append_nil], rfl⟩⟩

theorem Adds.refl (a : Analysis) : Adds a {} a :=
  adds_of_eq rfl rfl

theorem Adds.trans {a b e : Analysis} {c d : Census} (first : Adds a c b) (second : Adds b d e) :
    Adds a (c + d) e := by
  obtain ⟨⟨more₁, split₁, length₁⟩, ⟨more₂, split₂, length₂⟩⟩ := first
  obtain ⟨⟨more₃, split₃, length₃⟩, ⟨more₄, split₄, length₄⟩⟩ := second
  refine ⟨⟨more₁ ++ more₃, by rw [split₃, split₁, List.append_assoc], ?_⟩,
    ⟨more₂ ++ more₄, by rw [split₄, split₂, List.append_assoc], ?_⟩⟩
  · rw [List.length_append, length₁, length₃, Census.add_conditionals]
  · rw [List.length_append, length₂, length₄, Census.add_loops]

theorem Adds.conditional_at {a b : Analysis} {c : Census} {i : Nat} {report : ConditionalReport} (adds : Adds a c b)
    (here : a.conditionals[i]? = some report) : b.conditionals[i]? = some report := by
  obtain ⟨⟨more, split, _⟩, _⟩ := adds
  obtain ⟨within, _⟩ := List.getElem?_eq_some_iff.mp here
  rw [split, List.getElem?_append_left within, here]

theorem Adds.loop_at {a b : Analysis} {c : Census} {i : Nat} {report : LoopReport} (adds : Adds a c b)
    (here : a.loops[i]? = some report) : b.loops[i]? = some report := by
  obtain ⟨_, ⟨more, split, _⟩⟩ := adds
  obtain ⟨within, _⟩ := List.getElem?_eq_some_iff.mp here
  rw [split, List.getElem?_append_left within, here]

variable {scope : Scope} {functions : Functions} {locals : List String} {a b : Analysis} {s : Session}

theorem addVariable_adds (a : Analysis) (locals : List String) (required : Bool) (path : String) :
    Adds a {} (a.addVariable locals required path) := by
  unfold addVariable
  split <;> exact adds_of_eq rfl rfl

theorem addPaths_adds (a : Analysis) (locals paths : List String) :
    Adds a {} (paths.foldl (fun a path => a.addVariable locals false path) a) := by
  induction paths generalizing a with
  | nil => exact .refl a
  | cons path paths ih => exact (addVariable_adds a locals false path).trans (ih _)

theorem addFunctions_adds (a : Analysis) (names : List String) : Adds a {} (names.foldl addFunction a) := by
  induction names generalizing a with
  | nil => exact .refl a
  | cons name names ih => exact (adds_of_eq rfl rfl : Adds a {} (a.addFunction name)).trans (ih _)

theorem addArguments_adds {texts : List String} (ok : addArguments scope locals a texts = .ok b) : Adds a {} b := by
  induction texts generalizing a with
  | nil =>
    cases ok
    exact .refl _
  | cons text texts ih =>
    simp only [addArguments] at ok
    split at ok
    · cases found : scope.contains text with
      | error e =>
        rw [found] at ok
        cases ok
      | ok bound =>
        rw [found] at ok
        have noted : Adds a {} (if bound then a.addVariable locals false text else a) := by
          cases bound with
          | true => exact addVariable_adds a locals false text
          | false => exact .refl a
        exact noted.trans (ih ok)
    · exact ih ok

theorem withNames_adds (a : Analysis) (locals : List String) (expression : String) :
    Adds a {} (a.withNames locals expression) := by
  unfold withNames
  cases Condition.compile expression with
  | error e => exact .refl a
  | ok condition => exact (addPaths_adds a locals condition.references).trans (addFunctions_adds _ _)

theorem addConditional_adds {a b : Analysis} (adds : Adds a {} b) (expression : String) (taken : Option Bool) :
    Adds a .conditional (b.addConditional expression taken) ∧
      (b.addConditional expression taken).conditionals[a.conditionals.length]? = some ⟨expression, taken⟩ := by
  obtain ⟨⟨more, split, length⟩, loops⟩ := adds
  cases List.eq_nil_of_length_eq_zero length
  rw [List.append_nil] at split
  refine ⟨⟨⟨[⟨expression, taken⟩], by rw [addConditional, split], rfl⟩, loops⟩, ?_⟩
  rw [addConditional, split, List.getElem?_concat_length]

/-- The report on a condition follows those that are there. -/
theorem addCondition_reports {expression : String}
    (ok : result (addCondition scope functions locals a expression) s = .ok b) :
    Adds a .conditional b ∧
      b.conditionals[a.conditionals.length]? =
        some ⟨expression, outcome scope functions locals s.calls expression⟩ := by
  rw [eq_of_addCondition ok]
  exact addConditional_adds (withNames_adds a locals expression) expression _

/-- The report on a loop follows those that are there. -/
theorem addLoop_reports (a : Analysis) (locals : List String) (array item : String) (count : Nat) :
    let noted := a.addVariable locals true array
    Adds a .loop { noted with loops := noted.loops ++ [⟨array, item, count⟩] } ∧
      (noted.loops ++ [⟨array, item, count⟩])[a.loops.length]? = some ⟨array, item, count⟩ := by
  obtain ⟨conditionals, ⟨more, split, length⟩⟩ := addVariable_adds a locals true array
  cases List.eq_nil_of_length_eq_zero length
  rw [List.append_nil] at split
  refine ⟨⟨conditionals, ⟨[⟨array, item, count⟩], by rw [split], rfl⟩⟩, ?_⟩
  rw [split, List.getElem?_concat_length]

mutual

theorem node_adds (n : Markup.Node) {a b : Analysis} {locals : List String} {s : Session}
    (ok : result (node scope functions locals a n) s = .ok b) : Adds a n.census b := by
  cases n with
  | text text =>
    cases ok
    exact .refl _
  | slot path spelling =>
    cases ok
    exact addVariable_adds a locals true path
  | call name texts spelling =>
    simp only [node, result_ofExcept] at ok
    exact (adds_of_eq rfl rfl : Adds a {} (a.addFunction name)).trans (addArguments_adds ok)
  | conditional expression accepted rejected =>
    simp only [node, result_bind_eq_ok] at ok
    obtain ⟨a₁, first, a₂, second, third⟩ := ok
    exact (addCondition_reports first).1.trans ((nodes_adds accepted second).trans (nodes_adds rejected third))
  | loop array item body =>
    simp only [node, result_bind_eq_ok] at ok
    obtain ⟨count, _, ok⟩ := ok
    exact (addLoop_reports a locals array item count).1.trans (nodes_adds body ok)
  | region kind name span body => exact nodes_adds body ok

/-- Analysis leaves one report on each conditional and each loop. -/
theorem nodes_adds (ns : List Markup.Node) {a b : Analysis} {locals : List String} {s : Session}
    (ok : result (nodes scope functions locals a ns) s = .ok b) : Adds a (censusOf ns) b := by
  cases ns with
  | nil =>
    cases ok
    exact .refl _
  | cons first rest =>
    simp only [nodes, result_bind_eq_ok] at ok
    obtain ⟨next, first', rest'⟩ := ok
    exact (node_adds first first').trans (nodes_adds rest rest')

end

/-- On its way from one analysis to another, analysis comes to a node at a site. -/
def ComesTo (scope : Scope) (functions : Functions) (p : Site) (a : Analysis) (q : Site) (n : Markup.Node)
    (b : Analysis) : Prop :=
  ∃ c a' s b' d, Adds a c a' ∧ q.before = p.before + c ∧ result (node scope functions q.locals a' n) s = .ok b' ∧
    Adds b' d b

theorem ComesTo.after {p q : Site} {n : Markup.Node} {a' : Analysis} {c : Census} (first : Adds a c a')
    (comes : ComesTo scope functions ⟨p.before + c, locals⟩ a' q n b) : ComesTo scope functions p a q n b := by
  obtain ⟨d, a'', s, b', e, adds, site, run, rest⟩ := comes
  exact ⟨c + d, a'', s, b', e, first.trans adds, by rw [site, Census.add_assoc], run, rest⟩

theorem ComesTo.before {p q : Site} {n : Markup.Node} {b' : Analysis} {c : Census}
    (comes : ComesTo scope functions p a q n b) (more : Adds b c b') : ComesTo scope functions p a q n b' := by
  obtain ⟨d, a', s, b'', e, adds, site, run, rest⟩ := comes
  exact ⟨d, a', s, b'', e + c, adds, site, run, rest.trans more⟩

end Analysis

namespace Render

open Markup (Site)
open Analysis (Adds ComesTo)

/-- Wherever a rendering comes, analysis comes too. -/
theorem ReachesAt.analyzed {setting : Setting} {p q : Site} {scope scope' base : Scope} {s s' t : Session}
    {ns : List Markup.Node} {n : Markup.Node} {functions : Functions} {a b : Analysis}
    (reaches : ReachesAt setting p scope s ns q scope' s' n)
    (run : result (Analysis.nodes base functions p.locals a ns) t = .ok b) :
    ComesTo base functions p a q n b := by
  -- On the way of the rendering, for all analyses: what comes before and after it there only adds reports.
  induction reaches generalizing a b t with
  | here =>
    simp only [Analysis.nodes, result_bind_eq_ok] at run
    obtain ⟨b', first, rest⟩ := run
    exact ⟨{}, a, t, b', _, .refl a, rfl, first, Analysis.nodes_adds _ rest⟩
  | later _ _ ih =>
    simp only [Analysis.nodes, result_bind_eq_ok] at run
    obtain ⟨b', first, rest⟩ := run
    exact .after (Analysis.node_adds _ first) (ih rest)
  | @branch p _ _ _ _ _ _ taken _ _ _ _ _ _ ih =>
    simp only [Analysis.nodes, Analysis.node, result_bind_eq_ok] at run
    obtain ⟨b', ⟨a₁, decided, a₂, accepted, rejected⟩, rest⟩ := run
    have report := (Analysis.addCondition_reports decided).1
    cases taken with
    | true =>
      exact .before (.after report (ih accepted))
        ((Analysis.nodes_adds _ rejected).trans (Analysis.nodes_adds _ rest))
    | false =>
      exact .before (.after (report.trans (Analysis.nodes_adds _ accepted)) (ih rejected))
        (Analysis.nodes_adds _ rest)
  | iteration _ _ _ _ ih =>
    simp only [Analysis.nodes, Analysis.node, result_bind_eq_ok] at run
    obtain ⟨b', ⟨count, _, body⟩, rest⟩ := run
    exact .before (.after (Analysis.addLoop_reports ..).1 (ih body)) (Analysis.nodes_adds _ rest)
  | region _ ih =>
    simp only [Analysis.nodes, Analysis.node, result_bind_eq_ok] at run
    obtain ⟨b', body, rest⟩ := run
    exact .before (ih body) (Analysis.nodes_adds _ rest)

variable {setting : Setting} {layers : List Bindings} {locals : List String} {base : Bindings} {s : Session}

theorem result_decide (scope : Scope) (expression : String) :
    result (decide setting scope expression) s =
      Condition.compile expression >>= fun c => result (c.evaluate scope setting.functions) s.calls := by
  unfold decide
  cases compiled : Condition.compile expression with
  | error e => rfl
  | ok c =>
    simp only [Run.ofExcept, pure_bind]
    have run := result_ofCall (c.evaluate scope setting.functions) s
    cases value : result (c.evaluate scope setting.functions) s.calls with
    | error e =>
      rw [value] at run
      exact (result_bind_of_error run _).trans value.symm
    | ok taken =>
      rw [value] at run
      exact (result_bind_of_ok run _).trans value.symm

/-- A condition without local names has the same value under the layers of loops as in the bindings alone. -/
theorem evaluate_of_free (steady : ∀ name f, setting.functions.get? name = some f → Function.Steady f)
    (binds : Binds layers locals) {c : Condition} (free : ∀ path ∈ c.references, Analysis.isLocal locals path = false)
    (calls calls' : Nat) :
    result (c.evaluate (Scope.ofBindings base) setting.functions) calls =
      result (c.evaluate ⟨layers ++ [base]⟩ setting.functions) calls' := by
  refine c.evaluate_sameResult steady ?_ calls calls'
  intro path member
  rw [Template.lookup_ofBindings, lookup_of_free binds (free path member)]

theorem decide_of_outcome (steady : ∀ name f, setting.functions.get? name = some f → Function.Steady f)
    (binds : Binds layers locals) {calls : Nat} {expression : String} {taken : Bool}
    (decided : Analysis.outcome (Scope.ofBindings base) setting.functions locals calls expression = some taken) :
    result (decide setting ⟨layers ++ [base]⟩ expression) s = .ok taken := by
  rw [result_decide]
  unfold Analysis.outcome at decided
  cases compiled : Condition.compile expression with
  | error e =>
    rw [compiled] at decided
    cases decided
  | ok c =>
    simp only [compiled, Option.ite_none_left_eq_some] at decided
    obtain ⟨free, decided⟩ := decided
    have free : ∀ path ∈ c.references, Analysis.isLocal locals path = false := by simpa using free
    rw [evaluate_of_free steady binds free calls s.calls] at decided
    cases value : result (c.evaluate ⟨layers ++ [base]⟩ setting.functions) s.calls with
    | error e =>
      rw [value] at decided
      cases decided
    | ok b =>
      rw [value] at decided
      cases decided
      exact value

theorem decide_of_no_outcome (steady : ∀ name f, setting.functions.get? name = some f → Function.Steady f)
    (binds : Binds layers locals) {calls : Nat} {expression : String}
    (undecided : Analysis.outcome (Scope.ofBindings base) setting.functions locals calls expression = none)
    (free : ∀ path ∈ Analysis.conditionPaths expression, Analysis.isLocal locals path = false) :
    ∃ e, result (decide setting ⟨layers ++ [base]⟩ expression) s = .error e := by
  rw [result_decide]
  unfold Analysis.outcome at undecided
  unfold Analysis.conditionPaths at free
  cases compiled : Condition.compile expression with
  | error e => exact ⟨e, rfl⟩
  | ok c =>
    simp only [compiled] at undecided free
    have untouched : c.references.any (Analysis.isLocal locals) = false := by simpa using free
    rw [untouched, if_neg Bool.false_ne_true, evaluate_of_free steady binds free calls s.calls] at undecided
    cases value : result (c.evaluate ⟨layers ++ [base]⟩ setting.functions) s.calls with
    | error e => exact ⟨e, value⟩
    | ok b =>
      rw [value] at undecided
      cases undecided

theorem items_eq_ok {scope : Scope} {array : String} {values : List Value} (found : items scope array = .ok values) :
    scope.lookup array = .ok (some (.list values)) := by
  unfold items at found
  cases looked : scope.lookup array with
  | error e =>
    rw [looked] at found
    cases found
  | ok value =>
    rw [looked] at found
    cases value with
    | none => cases found
    | some v =>
      cases v with
      | list items =>
        cases found
        rfl
      | _ => cases found

/-- A loop over a path that is not local runs as often in the bindings alone as under the layers of loops. -/
theorem length_of_iterations (binds : Binds layers locals) {array : String} {count : Nat}
    (counted : Analysis.iterations (Scope.ofBindings base) locals array = .ok count)
    (free : Analysis.isLocal locals array = false) {values : List Value}
    (found : items ⟨layers ++ [base]⟩ array = .ok values) : values.length = count := by
  have looked := items_eq_ok found
  rw [lookup_of_free binds free, ← Template.lookup_ofBindings] at looked
  simp only [Analysis.iterations, free, looked] at counted
  exact Except.ok.inj counted

/-- A rendering that comes to a conditional follows a report: it takes the branch that the report tells, and if
the report tells none although no local name takes part, then the decision fails. -/
def FollowsBranch (setting : Setting) (locals : List String) (scope : Scope) (s : Session)
    (report : ConditionalReport) : Prop :=
  (∀ taken, report.result = some taken → result (decide setting scope report.condition) s = .ok taken) ∧
    (report.result = none →
      (∀ path ∈ Analysis.conditionPaths report.condition, Analysis.isLocal locals path = false) →
      ∃ e, result (decide setting scope report.condition) s = .error e)

/-- A rendering that comes to a loop follows a report: unless the array starts with a local name or the items
cannot be had, there are as many iterations as the report says. -/
def FollowsCount (locals : List String) (scope : Scope) (report : LoopReport) : Prop :=
  Analysis.isLocal locals report.array = false →
    ∀ values, items scope report.array = .ok values → values.length = report.iterations

end Render

namespace Template

/-- What analysis reports is what a rendering does, at whatever conditional or loop it comes to and in whatever
iteration: the report is the one that belongs to the site of the node in the text. -/
theorem analyze_foretells (t : Template) {overrides : Bindings} {s : Session} {a : Analysis}
    (steady : ∀ entry ∈ t.functions, Function.Steady entry.2) (run : result (t.analyze overrides) s = .ok a) :
    ∃ ns, t.tree = .ok ns ∧ ∀ s₀ site scope s' n,
      Render.ReachesAt ⟨t.callable, t.escapesHtml⟩ {} (Scope.ofBindings (t.bindingsWith overrides)) s₀ ns
        site scope s' n →
      (∀ expression accepted rejected, n = .conditional expression accepted rejected →
        ∃ outcome, a.conditionals[site.before.conditionals]? = some ⟨expression, outcome⟩ ∧
          Render.FollowsBranch ⟨t.callable, t.escapesHtml⟩ site.locals scope s' ⟨expression, outcome⟩) ∧
      (∀ array item body, n = .loop array item body →
        ∃ count, a.loops[site.before.loops]? = some ⟨array, item, count⟩ ∧
          Render.FollowsCount site.locals scope ⟨array, item, count⟩) := by
  rw [analyze, result_reporting, result_bind_eq_ok] at run
  obtain ⟨ns, read, run⟩ := run
  have steady : ∀ name f, t.callable.get? name = some f → Function.Steady f := fun _ _ => callable_steady steady
  refine ⟨ns, (t.result_nodes s).symm.trans read, fun s₀ site scope s' n reaches => ?_⟩
  have unbound : Render.Binds [] ({} : Markup.Site).locals := .nil
  obtain ⟨layers, binds, rfl⟩ := reaches.binds unbound rfl
  obtain ⟨c, a', s₁, b, d, ⟨⟨_, split, length⟩, ⟨_, split', length'⟩⟩, here, noted, rest⟩ := reaches.analyzed run
  have atConditional : site.before.conditionals = a'.conditionals.length := by
    rw [here, split, List.length_append, length]
    rfl
  have atLoop : site.before.loops = a'.loops.length := by
    rw [here, split', List.length_append, length']
    rfl
  constructor
  · rintro expression accepted rejected rfl
    simp only [Analysis.node, result_bind_eq_ok] at noted
    obtain ⟨b₁, decided, b₂, first, second⟩ := noted
    have report := (Analysis.addCondition_reports decided).2
    rw [← atConditional] at report
    refine ⟨_, rest.conditional_at ((Analysis.nodes_adds _ second).conditional_at
      ((Analysis.nodes_adds _ first).conditional_at report)), ?_, ?_⟩
    · exact fun taken told => Render.decide_of_outcome steady binds told
    · exact fun untold free => Render.decide_of_no_outcome steady binds untold free
  · rintro array item body rfl
    simp only [Analysis.node, result_bind_eq_ok, result_ofExcept] at noted
    obtain ⟨count, counted, inside⟩ := noted
    have report := (Analysis.addLoop_reports a' site.locals array item count).2
    rw [← atLoop] at report
    refine ⟨count, rest.loop_at ((Analysis.nodes_adds _ inside).loop_at report), ?_⟩
    exact fun free values found => Render.length_of_iterations binds counted free found

/-- A list of wares that ends with a call of a function that does not exist. -/
def wares : Template where
  source := "\x7b\x7b#each goods as good\x7d\x7d\x7b\x7b#if limit > 2\x7d\x7d\x7bgood\x7d" ++
    "\x7b\x7b#if good_last\x7d\x7d.\x7b\x7b/if\x7d\x7d\x7b\x7b/if\x7d\x7d\x7b\x7b/each\x7d\x7d" ++
    "\x7b\x7b#if stock(goods)\x7d\x7d!\x7b\x7b/if\x7d\x7d"
  bindings := [("goods", .list [.str "ink", .str "pen"]), ("limit", .int 3)]
  functions := [("tick", Function.ofPure fun _ => .ok (.str "+"))]

/-- What analysis finds in the wares. -/
def waresAnalysis : Analysis where
  references := ["goods", "limit"]
  required := ["goods"]
  conditionals := [⟨"limit > 2", some true⟩, ⟨"good_last", none⟩, ⟨"stock(goods)", none⟩]
  loops := [⟨"goods", "good", 2⟩]
  functions := ["stock"]

theorem wares_foretold :
    result (wares.analyze []) {} = .ok waresAnalysis ∧
      result (wares.render []) {} = .error (.unknownFunction "stock") ∧
      ∃ ns, wares.tree = .ok ns ∧ ∀ s₀ site scope s' expression accepted rejected,
        Render.ReachesAt ⟨wares.callable, false⟩ {} (Scope.ofBindings wares.bindings) s₀ ns site scope s'
          (.conditional expression accepted rejected) →
        ∃ outcome, waresAnalysis.conditionals[site.before.conditionals]? = some ⟨expression, outcome⟩ ∧
          Render.FollowsBranch ⟨wares.callable, false⟩ site.locals scope s' ⟨expression, outcome⟩ := by
  have run : result (wares.analyze []) {} = .ok waresAnalysis := by decide +kernel
  have failed : result (wares.render []) {} = .error (.unknownFunction "stock") := by decide +kernel
  have steady : ∀ entry ∈ wares.functions, Function.Steady entry.2 :=
    List.forall_mem_singleton.mpr (Function.steady_ofPure _)
  obtain ⟨ns, tree, follows⟩ := wares.analyze_foretells steady run
  refine ⟨run, failed, ns, tree, fun s₀ site scope s' expression accepted rejected reaches => ?_⟩
  exact (follows s₀ site scope s' _ reaches).1 expression accepted rejected rfl

end Template

end Stencil
