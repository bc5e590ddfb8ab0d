import Stencil.Proofs.Template.Layers
import Stencil.Proofs.Template.Mention

/-!
A rendering depends on nothing that analysis does not list.

Two renderings of a tree go the same way if every path that they may look up leads to the same value under
both sets of bindings (`Render.nodes_sameResult`). What analysis lists for both is enough to know that
(`Template.render_eq_of_analyze`).
-/

namespace Stencil

namespace Condition

theorem mem_foldl_insert {names kept : List String} {name : String} :
    name ∈ names.foldl Analysis.insert kept ↔ name ∈ kept ∨ name ∈ names := by
  induction names generalizing kept with
  | nil => simp
  | cons first rest ih => rw [List.foldl_cons, ih, Analysis.mem_insert, List.mem_cons, or_assoc]

theorem mem_distinct {names : List String} {name : String} : name ∈ distinct names ↔ name ∈ names := by
  have whole : distinct names = names.foldl Analysis.insert [] := rfl
  rw [whole, mem_foldl_insert]
  simp

theorem mem_referencesOf {operands : List Operand} {operand : Operand} {path : String} (member : operand ∈ operands)
    (refers : path ∈ operand.references) : path ∈ referencesOf operands := by
  induction operands with
  | nil => cases member
  | cons first rest ih =>
    rcases List.mem_cons.mp member with rfl | member
    · exact List.mem_append_left _ refers
    · exact List.mem_append_right _ (ih member)

/-- Two scopes in which paths lead to the same values. -/
def SameLookups (first second : Scope) (paths : List String) : Prop :=
  ∀ path ∈ paths, first.lookup path = second.lookup path

variable {first second : Scope} {functions : Functions}

theorem ofExcept_sameResult {α : Type} (r : Except Failure α) : SameResult (Call.ofExcept r) (Call.ofExcept r) := by
  intro s t
  cases r <;> rfl

mutual

theorem value_sameResult (steady : ∀ name f, functions.get? name = some f → Function.Steady f) (bareWord : Bool)
    (operand : Operand) (same : SameLookups first second operand.references) :
    SameResult (operand.value first functions bareWord) (operand.value second functions bareWord) := by
  cases operand with
  | literal v => exact .pure v
  | reference path =>
    simp only [Operand.value, same path (List.mem_singleton.mpr rfl)]
    refine (ofExcept_sameResult _).bind fun found => ?_
    cases found with
    | none => exact .pure _
    | some v => exact .pure v
  | call name arguments =>
    simp only [Operand.value]
    cases found : functions.get? name with
    | none => exact .throw _
    | some f => exact (valuesOf_sameResult steady arguments same).bind fun values => steady name f found values

theorem valuesOf_sameResult (steady : ∀ name f, functions.get? name = some f → Function.Steady f)
    (operands : List Operand) (same : SameLookups first second (referencesOf operands)) :
    SameResult (valuesOf first functions operands) (valuesOf second functions operands) := by
  cases operands with
  | nil => exact .pure []
  | cons operand rest =>
    simp only [valuesOf]
    have head := value_sameResult steady true operand fun path member => same path (List.mem_append_left _ member)
    have tail := valuesOf_sameResult steady rest fun path member => same path (List.mem_append_right _ member)
    exact head.bind fun v => tail.bind fun values => .pure (v :: values)

end

theorem evaluate_sameResult (steady : ∀ name f, functions.get? name = some f → Function.Steady f) (c : Condition)
    (same : SameLookups first second c.references) :
    SameResult (c.evaluate first functions) (c.evaluate second functions) := by
  have all (operand : Operand) (member : operand ∈ c.operands) (bareWord : Bool) :
      SameResult (operand.value first functions bareWord) (operand.value second functions bareWord) :=
    value_sameResult steady bareWord operand fun path refers =>
      same path (mem_distinct.mpr (mem_referencesOf member refers))
  unfold evaluate
  cases comparison : c.comparison with
  | none => exact (all c.left (List.mem_cons_self ..) false).bind fun v => .pure _
  | some pair =>
    obtain ⟨sign, operand⟩ := pair
    have right : operand ∈ c.operands := by simp [operands, comparison]
    exact (all c.left (List.mem_cons_self ..) true).bind fun v =>
      (all operand right true).bind fun w => ofExcept_sameResult _

end Condition

theorem resolveArgument_congr {text : String} {first second : Scope}
    (same : Analysis.canName text = true → first.lookup text = second.lookup text) :
    resolveArgument text first = resolveArgument text second := by
  unfold resolveArgument
  unfold Analysis.canName at same
  cases spelled : text.toList with
  | nil => rfl
  | cons c rest =>
    cases quoted : isQuote c with
    | true => simp [quoted]
    | false =>
      simp only [spelled, quoted, Bool.not_false, forall_const] at same
      simp [quoted, same]

/-- A path that leads to the same value under both bindings, or into the layers of loops. -/
def Analysis.Mention.Agrees (first second : Bindings) (m : Mention) : Prop :=
  isLocal m.locals m.path = true ∨ first.resolve m.path = second.resolve m.path

namespace Render

open Analysis (Mention)

variable {first second : Bindings} {layers : List Bindings} {setting : Setting}

theorem lookup_congr {use : Analysis.Use} {locals : List String} {path : String}
    (agrees : (Mention.mk use locals path).Agrees first second) (binds : Binds layers locals) :
    (Scope.mk (layers ++ [first])).lookup path = (Scope.mk (layers ++ [second])).lookup path := by
  cases here : Analysis.isLocal locals path with
  | true => rw [lookup_of_local binds here, lookup_of_local binds here]
  | false =>
    rw [lookup_of_free binds here, lookup_of_free binds here]
    exact agrees.resolve_left (by rw [here]; exact Bool.false_ne_true)

theorem arguments_congr {first second : Scope} {texts : List String}
    (same : ∀ text ∈ texts, Analysis.canName text = true → first.lookup text = second.lookup text) :
    arguments first texts = arguments second texts := by
  induction texts with
  | nil => rfl
  | cons text rest ih =>
    obtain ⟨head, tail⟩ := List.forall_mem_cons.mp same
    rw [arguments, arguments, resolveArgument_congr head, ih tail]

theorem call_sameResult {first second : Scope} {name : String} {texts : List String}
    (steady : ∀ name f, setting.functions.get? name = some f → Function.Steady f)
    (same : ∀ text ∈ texts, Analysis.canName text = true → first.lookup text = second.lookup text) :
    SameResult (call setting first name texts) (call setting second name texts) := by
  unfold call
  cases found : setting.functions.get? name with
  | none => exact .throw _
  | some f =>
    rw [arguments_congr same]
    exact (SameResult.ofExcept rfl).bind fun values => SameResult.report.bind fun _ =>
      (SameResult.ofCall (steady name f found values)).bind fun v => .ofExcept rfl

theorem decide_sameResult {first second : Scope} {expression : String}
    (steady : ∀ name f, setting.functions.get? name = some f → Function.Steady f)
    (same : ∀ path ∈ Analysis.conditionPaths expression, first.lookup path = second.lookup path) :
    SameResult (decide setting first expression) (decide setting second expression) := by
  unfold decide
  unfold Analysis.conditionPaths at same
  cases compiled : Condition.compile expression with
  | error e => exact fun _ _ => rfl
  | ok condition =>
    simp only [compiled] at same
    simp only [Run.ofExcept, pure_bind]
    exact (SameResult.ofCall (condition.evaluate_sameResult steady same)).bind fun taken =>
      SameResult.report.bind fun _ => .pure taken

mutual

theorem node_sameResult (steady : ∀ name f, setting.functions.get? name = some f → Function.Steady f)
    {layers : List Bindings} {locals : List String} (binds : Binds layers locals) (n : Markup.Node)
    (agrees : ∀ m ∈ Mention.ofNode locals n, m.Agrees first second) :
    SameResult (node setting ⟨layers ++ [first]⟩ n) (node setting ⟨layers ++ [second]⟩ n) := by
  cases n with
  | text s =>
    simp only [node]
    exact .pure s
  | slot path spelling =>
    have same := lookup_congr (agrees _ Mention.mem_slot) binds
    have written : slot setting ⟨layers ++ [first]⟩ path = slot setting ⟨layers ++ [second]⟩ path := by
      rw [slot, slot, same]
    simp only [node, written]
    exact .ofExcept rfl
  | call name texts spelling =>
    simp only [node]
    exact call_sameResult steady fun text member named => lookup_congr (agrees _ (Mention.mem_call member named)) binds
  | conditional expression accepted rejected =>
    have yes := nodes_sameResult steady binds accepted fun m member => agrees m (Mention.mem_branch true member)
    have no := nodes_sameResult steady binds rejected fun m member => agrees m (Mention.mem_branch false member)
    have test := decide_sameResult steady fun path (member : path ∈ Analysis.conditionPaths expression) =>
      lookup_congr (agrees _ (Mention.mem_condition member)) binds
    simp only [node]
    refine test.bind fun taken => ?_
    cases taken with
    | true => exact yes
    | false => exact no
  | loop array item body =>
    have same := lookup_congr (agrees _ Mention.mem_array) binds
    have looped : items ⟨layers ++ [first]⟩ array = items ⟨layers ++ [second]⟩ array := by
      rw [items, items, same]
    simp only [node, looped]
    refine (SameResult.ofExcept rfl).bind fun values => ?_
    refine SameResult.bind (.mapM _ fun entry _ => ?_) fun parts => .pure _
    exact nodes_sameResult steady (binds.child item values.length entry.2 entry.1) body fun m member =>
      agrees m (Mention.mem_body member)
  | region kind name span body =>
    simp only [node]
    exact nodes_sameResult steady binds body fun m member => agrees m (Mention.mem_region member)

/-- Renderings go the same way under bindings that agree on everything that can be looked up. -/
theorem nodes_sameResult (steady : ∀ name f, setting.functions.get? name = some f → Function.Steady f)
    {layers : List Bindings} {locals : List String} (binds : Binds layers locals) (ns : List Markup.Node)
    (agrees : ∀ m ∈ Mention.ofNodes locals ns, m.Agrees first second) :
    SameResult (nodes setting ⟨layers ++ [first]⟩ ns) (nodes setting ⟨layers ++ [second]⟩ ns) := by
  cases ns with
  | nil =>
    simp only [nodes]
    exact .pure ""
  | cons n rest =>
    have head := node_sameResult steady binds n fun m member => agrees m (Mention.mem_ofNodes_cons.mpr (.inl member))
    have tail := nodes_sameResult steady binds rest fun m member =>
      agrees m (Mention.mem_ofNodes_cons.mpr (.inr member))
    simp only [nodes]
    exact head.bind fun text => tail.bind fun texts => .pure (text ++ texts)

end

end Render

namespace Template

/-- The names that arguments of calls start with which analysis takes for literals, since they are no dotted
paths, but which a rendering looks up all the same. -/
def looseNames (t : Template) : List String :=
  match t.tree with
  | .ok ns =>
    ((Analysis.Mention.paths .passed ns).filter fun text => !Markup.isPath text.toList).map Value.pathRoot
  | .error _ => []

theorem lookup_ofBindings (bindings : Bindings) (path : String) :
    (Scope.ofBindings bindings).lookup path = bindings.resolve path :=
  Render.lookup_of_free .nil rfl bindings

/-- A rendering reads nothing but what analysis lists: if two sets of bindings agree on the names that are
listed for either of them, and on those that arguments of calls start with although they are no paths, the
output is the same for both, or the error. -/
theorem render_eq_of_analyze (t : Template) {overrides overrides' : Bindings} {s s' : Session} {a a' : Analysis}
    (steady : ∀ entry ∈ t.functions, Function.Steady entry.2)
    (run : result (t.analyze overrides) s = .ok a) (run' : result (t.analyze overrides') s' = .ok a')
    (agree : ∀ name ∈ a.references ++ a'.references ++ t.looseNames,
      Assoc.get? (t.bindingsWith overrides) name = Assoc.get? (t.bindingsWith overrides') name) :
    SameResult (t.render overrides) (t.render overrides') := by
  obtain ⟨ns, tree, notes⟩ := notes_of_analyze run
  obtain ⟨ns', tree', notes'⟩ := notes_of_analyze run'
  cases Except.ok.inj (tree.symm.trans tree')
  have agrees : ∀ m ∈ Analysis.Mention.ofNodes [] ns,
      m.Agrees (t.bindingsWith overrides) (t.bindingsWith overrides') := by
    intro m member
    have loose : ∀ text ∈ Analysis.Mention.paths .passed ns, Markup.isPath text.toList = false →
        Value.pathRoot text ∈ t.looseNames := by
      intro text given noPath
      rw [looseNames, tree]
      exact List.mem_map.mpr ⟨text, List.mem_filter.mpr ⟨given, by simp [noPath]⟩, rfl⟩
    rw [List.forall_mem_append, List.forall_mem_append] at agree
    obtain ⟨⟨listed, listed'⟩, others⟩ := agree
    cases here : Analysis.isLocal m.locals m.path with
    | true => exact .inl here
    | false =>
      have noted := (notes.noted m member).resolve_left (by simp [here])
      have noted' := (notes'.noted m member).resolve_left (by simp [here])
      refine .inr ?_
      obtain ⟨use, locals, path⟩ := m
      cases use with
      | required => exact Value.resolveWith_congr (listed _ noted.1)
      | tested => exact Value.resolveWith_congr (listed _ noted)
      | passed =>
        cases shape : Markup.isPath path.toList with
        | false => exact Value.resolveWith_congr (others _ (loose path (Analysis.Mention.mem_paths member) shape))
        | true =>
          -- A path that leads nowhere is listed by neither analysis; then it leads nowhere in both renderings.
          rcases noted shape with found | nowhere
          · exact Value.resolveWith_congr (listed _ found)
          rcases noted' shape with found | nowhere'
          · exact Value.resolveWith_congr (listed' _ found)
          rw [lookup_ofBindings] at nowhere nowhere'
          exact nowhere.trans nowhere'.symm
  refine SameResult.reporting (t.nodes_sameResult.bind_of_ok fun s₀ ns₀ read => ?_)
  cases Except.ok.inj (tree.symm.trans ((t.result_nodes s₀).symm.trans read))
  have same : SameResult
      (Render.nodes ⟨t.callable, t.escapesHtml⟩ (Scope.ofBindings (t.bindingsWith overrides)) ns)
      (Render.nodes ⟨t.callable, t.escapesHtml⟩ (Scope.ofBindings (t.bindingsWith overrides')) ns) :=
    Render.nodes_sameResult (fun _ _ => callable_steady steady) .nil ns agrees
  exact same.bind fun output => SameResult.report.bind fun _ => .pure _

/-- A bill whose lines are written in a loop by a function of its own. One argument is no path. -/
def bill : Template where
  source := "\x7b\x7b#each lines as line\x7d\x7d\x7b\x7btick(line, no note)\x7d\x7d" ++
    "\x7b\x7b#if line_last\x7d\x7d\x7btotal\x7d\x7b\x7b/if\x7d\x7d\x7b\x7b/each\x7d\x7d"
  bindings := [("lines", .list [.str "ink", .str "pen"]), ("total", .int 3)]
  functions := [("tick", Function.ofPure fun arguments => .ok (.list (.str "+" :: arguments)))]

/-- What analysis finds in the bill. -/
def billAnalysis : Analysis where
  references := ["lines", "total"]
  required := ["lines", "total"]
  conditionals := [⟨"line_last", none⟩]
  loops := [⟨"lines", "line", 2⟩]
  functions := ["tick"]

theorem bill_ignores_others :
    result (bill.analyze [("due", .int 1)]) {} = .ok billAnalysis ∧
      result (bill.analyze [("due", .str "soon"), ("paid", .bool false)]) {} = .ok billAnalysis ∧
      SameResult (bill.render [("due", .int 1)]) (bill.render [("due", .str "soon"), ("paid", .bool false)]) := by
  have run : result (bill.analyze [("due", .int 1)]) {} = .ok billAnalysis := by decide +kernel
  have run' : result (bill.analyze [("due", .str "soon"), ("paid", .bool false)]) {} = .ok billAnalysis := by
    decide +kernel
  have loose : bill.looseNames = ["no note"] := by decide +kernel
  have steady : ∀ entry ∈ bill.functions, Function.Steady entry.2 :=
    List.forall_mem_singleton.mpr (Function.steady_ofPure _)
  refine ⟨run, run', bill.render_eq_of_analyze steady run run' ?_⟩
  rw [loose]
  intro name member
  simp only [billAnalysis, List.cons_append, List.nil_append, List.mem_cons, List.not_mem_nil, or_false] at member
  rcases member with rfl | rfl | rfl | rfl | rfl <;> rfl

end Template

end Stencil
