import Stencil.Proofs.Composition.Selection
import Stencil.Proofs.Template.Coverage

/-!
Selection and the order of set-up.

Rules may be added in any order: it shows in the order of the applied rules alone. Templates may be registered in any
order too: it shows in the order of what is found applicable, and decides between the best only where there are several
(`order_free`).
-/

namespace Stencil

open Stencil.Composition

/-- A rendering with functions that keep no count has the same output whenever it is made. -/
theorem Template.render_steady {t : Template} (steady : ∀ entry ∈ t.functions, Function.Steady entry.2)
    (overrides : Bindings) : SameResult (t.render overrides) (t.render overrides) := by
  refine SameResult.reporting (t.nodes_sameResult.bind fun ns => ?_)
  have same : SameResult (Render.nodes ⟨t.callable, t.escapesHtml⟩ (Scope.ofBindings (t.bindingsWith overrides)) ns)
      (Render.nodes ⟨t.callable, t.escapesHtml⟩ (Scope.ofBindings (t.bindingsWith overrides)) ns) :=
    Render.nodes_sameResult (fun _ _ => callable_steady steady) .nil ns fun _ _ => .inr rfl
  exact same.bind fun _ => SameResult.report.bind fun _ => .pure _

/-- A candidate without the names of its rules. -/
def Candidate.bare (a : Candidate) : Candidate :=
  { a with rules := [] }

/-- A candidate without its place in the order of registration. -/
def Candidate.unplaced (a : Candidate) : Candidate :=
  { a with order := 0 }

theorem Candidate.of_unplaced_eq {a b : Candidate} (same : a.unplaced = b.unplaced) :
    a.name = b.name ∧ a.template = b.template ∧ a.priority = b.priority ∧ a.rules = b.rules := by
  simp only [unplaced, Candidate.mk.injEq, and_true] at same
  exact same

/-- Answers to composing that differ in the order of the applied rules at most. -/
inductive Composition.Alike : Except Failure Outcome → Except Failure Outcome → Prop
  | ok {a : Outcome} {rules : List String} : a.rules.Perm rules → Alike (.ok a) (.ok { a with rules })
  | error (e : Failure) : Alike (.error e) (.error e)

/-- Sessions in which the functions of templates do the same: as many calls are counted, or none of the functions
depends on that. -/
def SameStart (templates : Assoc String Template) (s s' : Session) : Prop :=
  s.calls = s'.calls ∨ ∀ entry ∈ templates, ∀ f ∈ entry.2.functions, Function.Steady f.2

theorem SameStart.result_render {templates : Assoc String Template} {s s' : Session} (start : SameStart templates s s')
    {name : String} {t : Template} (member : (name, t) ∈ templates) (overrides : Bindings) :
    result (t.render overrides) s = result (t.render overrides) s' := by
  rcases start with calls | steady
  · exact (t.render_oblivious overrides s s' calls).1
  · exact Template.render_steady (steady _ member) overrides s s'

theorem Composition.Quiet.congr {tools : Tools} {rules rules' : List Rule} {names names' : List String} {clock : Nat}
    {context : Bindings} (quiet : Quiet tools rules names clock context) (sameRules : ∀ rule ∈ rules', rule ∈ rules)
    (sameNames : ∀ name ∈ names', name ∈ names) : Quiet tools rules' names' clock context :=
  fun rule added enabled name listed => quiet rule (sameRules rule added) enabled name (sameNames name listed)

namespace Composer

variable {tools : Tools} {rules rules' : List Rule} {clock : Nat} {context : Bindings}
  {templates templates' : Assoc String Template}

/-- The priority of a candidate does not depend on the order of the rules. -/
theorem bare_candidate? {applied applied' : List Rule} (perm : applied.Perm applied') (name : String)
    (template : Template) (order : Nat) :
    (candidate? name template order applied).map Candidate.bare =
      (candidate? name template order applied').map Candidate.bare := by
  cases applied with
  | nil => rw [List.nil_perm.mp perm]
  | cons first others =>
    cases applied' with
    | nil => cases List.perm_nil.mp perm
    | cons first' others' =>
      have a := nominates_of_candidate? (rfl : candidate? name template order (first :: others) = some _)
      have b := nominates_of_candidate? (rfl : candidate? name template order (first' :: others') = some _)
      have same : highest first.priority others = highest first'.priority others' := by
        obtain ⟨rule, member, most⟩ := a.attained
        obtain ⟨rule', member', most'⟩ := b.attained
        have below := b.bound rule (perm.mem_iff.mp member)
        have above := a.bound rule' (perm.mem_iff.mpr member')
        rw [most] at below
        rw [most'] at above
        exact Int.le_antisymm below above
      simp only [candidate?, Option.map_some, Candidate.bare, same]

theorem holding_perm (perm : rules.Perm rules') (name : String) :
    (holding tools rules clock context name).Perm (holding tools rules' clock context name) :=
  perm.filter _

theorem bare_ranked (perm : rules.Perm rules') (templates : Assoc String Template) :
    (ranked tools rules clock context templates).map Candidate.bare =
      (ranked tools rules' clock context templates).map Candidate.bare := by
  have listed : (listing tools rules clock context 0 templates).map Candidate.bare =
      (listing tools rules' clock context 0 templates).map Candidate.bare := by
    simp only [listing, List.map_filterMap]
    exact congrArg (List.filterMap · _) (funext fun _ => bare_candidate? (holding_perm perm _) ..)
  have keeps (a b : Candidate) : precedes a b = precedes a.bare b.bare := rfl
  rw [ranked, ranked, List.map_mergeSort fun a _ b _ => keeps a b, List.map_mergeSort fun a _ b _ => keeps a b, listed]

theorem unplaced_listing (order : Nat) :
    (listing tools rules clock context order templates).map Candidate.unplaced =
      templates.filterMap fun entry => candidate? entry.1 entry.2 0 (holding tools rules clock context entry.1) := by
  induction templates generalizing order with
  | nil => rfl
  | cons entry rest ih =>
    obtain ⟨name, template⟩ := entry
    rw [listing_cons, List.map_append, ih]
    cases held : holding tools rules clock context name <;> simp [candidate?, Candidate.unplaced, held]

theorem unplaced_ranked (perm : templates.Perm templates') :
    ((ranked tools rules clock context templates).map Candidate.unplaced).Perm
      ((ranked tools rules clock context templates').map Candidate.unplaced) := by
  have listed : ((listing tools rules clock context 0 templates).map Candidate.unplaced).Perm
      ((listing tools rules clock context 0 templates').map Candidate.unplaced) := by
    rw [unplaced_listing, unplaced_listing]
    exact perm.filterMap _
  exact (ranked_perm.map _).trans (listed.trans (ranked_perm.map _).symm)

/-- What is found in one order of registration is found in every other. -/
theorem ranked_counterpart (perm : templates.Perm templates') {a : Candidate}
    (member : a ∈ ranked tools rules clock context templates) :
    ∃ b ∈ ranked tools rules clock context templates',
      b.name = a.name ∧ b.template = a.template ∧ b.priority = a.priority ∧ b.rules = a.rules := by
  have listed : a.unplaced ∈ (ranked tools rules clock context templates').map Candidate.unplaced :=
    (unplaced_ranked perm).mem_iff.mp (List.mem_map_of_mem member)
  obtain ⟨b, member', same⟩ := List.mem_map.mp listed
  exact ⟨b, member', Candidate.of_unplaced_eq same⟩

/-- A candidate above all others comes first. -/
theorem ranked_of_top (distinct : templates.keys.Nodup) {best : Candidate}
    (member : best ∈ ranked tools rules clock context templates)
    (top : ∀ other ∈ ranked tools rules clock context templates,
      other.name ≠ best.name → other.priority < best.priority) :
    ∃ others, ranked tools rules clock context templates = best :: others := by
  have selects : Selects tools templates.keys templates.get? rules clock context
      (ranked tools rules clock context templates) := selects_ranked distinct
  have sorted := selects.sorted
  have once := selects.once
  cases found : ranked tools rules clock context templates with
  | nil => simp [found] at member
  | cons first others =>
    rw [found] at member sorted once top
    rcases List.mem_cons.mp member with rfl | later
    · exact ⟨others, rfl⟩
    · have fresh := (List.nodup_cons.mp once).1
      have differ : first.name ≠ best.name := fun same => fresh (List.mem_map.mpr ⟨best, later, same.symm⟩)
      have below := top first (List.mem_cons_self ..) differ
      have above := (List.pairwise_cons.mp sorted).1 best later
      omega

theorem mem_templates_of_ranked (distinct : templates.keys.Nodup) {a : Candidate}
    (member : a ∈ ranked tools rules clock context templates) : (a.name, a.template) ∈ templates :=
  (Assoc.get?_eq_some_iff distinct).mp ((selects_ranked distinct).template a member)

/-- The order of the rules shows in the order of the applied rules alone. -/
theorem choose_alike {c c' : Composer} {s s' : Session} (same : c.templates = c'.templates)
    (perm : c.rules.Perm c'.rules) (distinct : c.templates.keys.Nodup) (start : SameStart c.templates s s') :
    Alike (c.choose context s (ranked tools c.rules clock context c.templates))
      (c'.choose context s' (ranked tools c'.rules clock context c'.templates)) := by
  have bare : (ranked tools c.rules clock context c.templates).map Candidate.bare =
      (ranked tools c'.rules clock context c.templates).map Candidate.bare := bare_ranked perm c.templates
  rw [← same]
  cases found : ranked tools c.rules clock context c.templates with
  | nil =>
    rw [found, List.map_nil, eq_comm, List.map_eq_nil_iff] at bare
    rw [bare, choose, choose, same, perm.length_eq]
    exact .error _
  | cons best others =>
    cases found' : ranked tools c'.rules clock context c.templates with
    | nil => simp [found, found'] at bare
    | cons best' others' =>
      have member : best ∈ ranked tools c.rules clock context c.templates := found ▸ List.mem_cons_self ..
      have member' : best' ∈ ranked tools c'.rules clock context c.templates := found' ▸ List.mem_cons_self ..
      rw [found, found', List.map_cons, List.map_cons, List.cons.injEq] at bare
      have name : best'.name = best.name := (congrArg Candidate.name bare.1).symm
      have template : best'.template = best.template := (congrArg Candidate.template bare.1).symm
      have priority : best'.priority = best.priority := (congrArg Candidate.priority bare.1).symm
      have count : others'.length = others.length := by
        rw [← List.length_map, ← bare.2, List.length_map]
      have applied : best.rules.Perm best'.rules := by
        rw [(selects_ranked distinct).rules best member, (selects_ranked distinct).rules best' member', name]
        exact (holding_perm perm _).map _
      have rendered := start.result_render (mem_templates_of_ranked distinct member) context
      have chosen (output : String) : outcome best' context (others'.length + 1) output =
          { outcome best context (others.length + 1) output with rules := best'.rules } := by
        simp only [outcome, name, priority, count]
      rw [choose, choose, template, ← rendered]
      cases result (best.template.render context) s with
      | error e => exact .error e
      | ok output =>
        rw [Except.map, Except.map, chosen]
        exact .ok applied

/-- The order of registration does not show in the outcome if one candidate is above all others. -/
theorem choose_of_top {c c' : Composer} {s s' : Session} (perm : c.templates.Perm c'.templates)
    (same : c.rules = c'.rules) (distinct : c.templates.keys.Nodup) (distinct' : c'.templates.keys.Nodup)
    (start : SameStart c.templates s s') {best : Candidate}
    (member : best ∈ ranked tools c.rules clock context c.templates)
    (top : ∀ other ∈ ranked tools c.rules clock context c.templates,
      other.name ≠ best.name → other.priority < best.priority) :
    c.choose context s (ranked tools c.rules clock context c.templates) = (result (best.template.render context) s).map
        (outcome best context (ranked tools c.rules clock context c.templates).length) ∧
      c'.choose context s' (ranked tools c'.rules clock context c'.templates) =
        c.choose context s (ranked tools c.rules clock context c.templates) := by
  rw [← same]
  obtain ⟨best', member', name, template, priority, applied⟩ := ranked_counterpart perm member
  -- Whatever else is found in the second order is found in the first too, below the best.
  have top' : ∀ other ∈ ranked tools c.rules clock context c'.templates,
      other.name ≠ best'.name → other.priority < best'.priority := by
    intro other' listed differ
    obtain ⟨other, listed, name', _, priority', _⟩ := ranked_counterpart perm.symm listed
    rw [← priority', priority]
    exact top other listed (by rwa [name', ← name])
  have counts : ((ranked tools c.rules clock context c.templates).map Candidate.unplaced).length =
      ((ranked tools c.rules clock context c'.templates).map Candidate.unplaced).length :=
    (unplaced_ranked perm).length_eq
  obtain ⟨others, found⟩ := ranked_of_top distinct member top
  obtain ⟨others', found'⟩ := ranked_of_top distinct' member' top'
  rw [List.length_map, List.length_map, found, found'] at counts
  rw [found, found', choose, choose, template, ← start.result_render (mem_templates_of_ranked distinct member)]
  refine ⟨rfl, ?_⟩
  have chosen : outcome best' context (others'.length + 1) = outcome best context (others.length + 1) := by
    funext output
    simp only [outcome, name, priority, applied, Nat.succ.inj counts]
  rw [chosen]

/-- Expressions are judged by a steady engine, and two composers are set up in different orders. If they hold the same
templates in the same order, and the same rules in any order, then composing selects the same template and has the same
output, and the applied rules differ in their order at most. If they hold the same template under each name, registered
in any order, and the same rules, then the same is found applicable but for its order, and composing has the same
outcome if one template is above all others. -/
theorem order_free (steady : tools.engine.Steady) {defaults defaults' : Bindings} {steps steps' : List Step}
    {c c' : Composer} (arises : Arises tools defaults steps c) (arises' : Arises tools defaults' steps' c')
    {clock : Nat} {context bindings bindings' : Bindings} (merged : defaults.merge bindings = context)
    (merged' : defaults'.merge bindings' = context) (quiet : Quiet tools c.rules c.templates.keys clock context)
    {s s' : Session} (start : SameStart c.templates s s') :
    (c.templates = c'.templates → c.rules.Perm c'.rules →
      Alike ((compose clock bindings tools).answer c s) ((compose clock bindings' tools).answer c' s')) ∧
    ((∀ name, c.templates.get? name = c'.templates.get? name) → c.rules = c'.rules →
      ∃ found found', (applicable clock context tools).answer c s = .ok found ∧
        (applicable clock context tools).answer c' s' = .ok found' ∧
        (found.map Candidate.unplaced).Perm (found'.map Candidate.unplaced) ∧
        ∀ best ∈ found, (∀ other ∈ found, other.name ≠ best.name → other.priority < best.priority) →
          (compose clock bindings tools).answer c s =
            (result (best.template.render context) s).map (outcome best context found.length) ∧
          (compose clock bindings' tools).answer c' s' = (compose clock bindings tools).answer c s) := by
  rw [← arises.defaults_eq steady] at merged
  rw [← arises'.defaults_eq steady] at merged'
  have composes := answer_compose_of_quiet steady (arises.self steady) quiet merged s
  refine ⟨fun same perm => ?_, fun same rules => ?_⟩
  · have quiet' : Quiet tools c'.rules c'.templates.keys clock context :=
      quiet.congr (fun _ => perm.mem_iff.mpr) (fun _ listed => same ▸ listed)
    have composes' := answer_compose_of_quiet steady (arises'.self steady) quiet' merged' s'
    rw [composes, composes']
    exact choose_alike same perm (arises.nodup steady) start
  · have perm : c.templates.Perm c'.templates := Assoc.perm_of_get? (arises.nodup steady) (arises'.nodup steady) same
    have quiet' : Quiet tools c'.rules c'.templates.keys clock context :=
      quiet.congr (fun _ added => rules ▸ added) (fun _ => (perm.map Prod.fst).mem_iff.mpr)
    have composes' := answer_compose_of_quiet steady (arises'.self steady) quiet' merged' s'
    refine ⟨_, _, answer_applicable_of_quiet steady (arises.self steady) quiet s,
      answer_applicable_of_quiet steady (arises'.self steady) quiet' s', ?_, fun best member top => ?_⟩
    · rw [← rules]
      exact unplaced_ranked perm
    · rw [composes, composes']
      exact choose_of_top perm rules (arises.nodup steady) (arises'.nodup steady) start member top

/-- A rule for every template, and one that prefers those with an m in their name. -/
def trayRules : List Rule :=
  [{ name := "any" },
    { name := "m", pattern := some ⟨"m", .one ⟨[.range 109 109], false, false, false⟩⟩, priority := 1 }]

/-- A tray with two templates. -/
def tray (rules : List Rule) : Composer :=
  take {} ([.registerText "memo" "new", .registerText "note" "text"] ++ rules.map .addRule)

/-- The tray with the templates registered the other way round. -/
def turnedTray : Composer :=
  take {} ([.registerText "note" "text", .registerText "memo" "new"] ++ trayRules.map .addRule)

def trayMemo : Candidate where
  name := "memo"
  template := { source := "new", reports := false }
  priority := 1
  rules := ["any", "m"]
  order := 0

def trayNote : Candidate where
  name := "note"
  template := { source := "text", reports := false }
  priority := 0
  rules := ["any"]
  order := 1

theorem tray_ranked : ranked {} (tray trayRules).rules 0 [] (tray trayRules).templates = [trayMemo, trayNote] := by
  have listed : listing {} (tray trayRules).rules 0 [] 0 (tray trayRules).templates = [trayMemo, trayNote] := rfl
  have sorted : [trayMemo, trayNote].Pairwise fun a b => precedes a b = true := by decide
  rw [ranked, listed, List.mergeSort_of_pairwise sorted]

theorem tray_order_free :
    Alike ((compose 0 []).answer (tray trayRules) {}) ((compose 0 []).answer (tray trayRules.reverse) {}) ∧
      (compose 0 []).answer (tray trayRules) {} = .ok (outcome trayMemo [] 2 "new") ∧
      (compose 0 []).answer turnedTray {} = (compose 0 []).answer (tray trayRules) {} := by
  have plain : Formula.engine.valueOf "" [] = .ok true := by decide +kernel
  have quiet : Quiet {} (tray trayRules).rules (tray trayRules).templates.keys 0 [] := by
    intro rule added _ _ _ _
    have added : rule ∈ trayRules := added
    simp only [trayRules, List.mem_cons, List.not_mem_nil, or_false] at added
    rcases added with rfl | rfl <;> exact ⟨⟨true, rfl⟩, fun _ e failed => nomatch plain.symm.trans failed⟩
  have arises : Arises {} [] _ (tray trayRules) := Arises.start.take _
  have swapped : Arises {} [] _ (tray trayRules.reverse) := Arises.start.take _
  have turned : Arises {} [] _ turnedTray := Arises.start.take _
  have start : SameStart (tray trayRules).templates {} {} := .inl rfl
  have same (name : String) : (tray trayRules).templates.get? name = turnedTray.templates.get? name := by
    have left : (tray trayRules).templates =
        [("memo", trayMemo.template), ("note", trayNote.template)] := rfl
    have right : turnedTray.templates = [("note", trayNote.template), ("memo", trayMemo.template)] := rfl
    rw [left, right]
    by_cases memo : name = "memo"
    · subst memo
      rfl
    · simp [Assoc.get?, Ne.symm memo]
  have merged : Assoc.merge ([] : Bindings) [] = [] := rfl
  have reordered := (order_free Formula.steady arises swapped merged merged quiet start).1 rfl
    (List.reverse_perm trayRules).symm
  obtain ⟨found, _, answered, _, _, composed⟩ :=
    (order_free Formula.steady arises turned merged merged quiet start).2 same rfl
  have known := answer_applicable_of_quiet Formula.steady (arises.self Formula.steady) quiet {}
  have found_eq : found = [trayMemo, trayNote] := (Except.ok.inj (answered.symm.trans known)).trans tray_ranked
  have top : ∀ other ∈ found, other.name ≠ trayMemo.name → other.priority < trayMemo.priority := by
    rw [found_eq]
    decide
  obtain ⟨chosen, alike⟩ := composed trayMemo (found_eq ▸ List.mem_cons_self ..) top
  have rendered : result (trayMemo.template.render []) {} = .ok "new" := by decide +kernel
  rw [found_eq, rendered] at chosen
  exact ⟨reordered, chosen, alike⟩

end Composer

end Stencil
