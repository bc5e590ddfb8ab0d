import Stencil.Proofs.Composition.Composite
import Stencil.Proofs.Template.Extensional

/-!
Composing a template and making a composite of it.

A composite has the switches that templates have by default, and the static bindings of its parts lie over the defaults
of the composer, while composing puts the defaults over the static bindings. Where neither makes a difference, and the
text of the template can be put in a block, both render it in the same way (`composite_agrees`). Each of these
conditions is needed (`composite_differs`).
-/

namespace Stencil

open Stencil.Composition Stencil.Markup

/-- Defaults and static bindings that give the names that are bound by both the same values, unless the bindings of
the call hide them. -/
structure Layers (defaults static bindings : Bindings) : Prop where
  defaults_once : defaults.keys.Nodup
  static_once : static.keys.Nodup
  bindings_once : bindings.keys.Nodup
  agree : ∀ name v w, defaults.get? name = some v → static.get? name = some w → bindings.get? name = none → v = w

theorem Layers.get?_merge {defaults static bindings : Bindings} (layers : Layers defaults static bindings)
    (name : String) :
    Assoc.get? ((defaults.merge static).merge bindings) name = Assoc.get? (static.merge (defaults.merge bindings)) name := by
  have once := Assoc.nodup_keys_merge layers.defaults_once bindings
  rw [Assoc.get?_merge layers.bindings_once, Assoc.get?_merge layers.static_once, Assoc.get?_merge once,
    Assoc.get?_merge layers.bindings_once]
  cases bound : bindings.get? name with
  | some v => rfl
  | none =>
    cases lower : defaults.get? name with
    | none => simp
    | some v =>
      cases upper : static.get? name with
      | none => rfl
      | some w => simp [layers.agree name v w lower upper bound]

/-- Functions that have been gathered in a table of their own are the same functions over others. -/
theorem get?_merge_gathered (below functions : Functions) (name : String) :
    Assoc.get? (below.merge (Assoc.merge [] functions)) name = Assoc.get? (below.merge functions) name := by
  have once : Assoc.keys (Assoc.merge [] functions) |>.Nodup := Assoc.nodup_keys_ofPairs functions
  have gathered : Assoc.get? (Assoc.merge [] functions) name = _ := Assoc.get?_ofPairs functions name
  rw [Assoc.get?_merge once, gathered, Assoc.get?_merge_last]

theorem Layers.sameNames {defaults static bindings : Bindings} (layers : Layers defaults static bindings)
    (functions : Functions) :
    SameNames (Function.builtins.merge (Assoc.merge [] functions)) (Function.builtins.merge functions)
      (.ofBindings ((defaults.merge static).merge bindings)) (.ofBindings (static.merge (defaults.merge bindings))) where
  values name := by
    have single (table : Bindings) : (Scope.ofBindings table).get? name = table.get? name := by
      simp [Scope.get?, Scope.ofBindings]
    rw [single, single, layers.get?_merge]
  functions name := get?_merge_gathered _ _ name

namespace Composer

variable {tools : Tools} {c : Composer}

theorem except_bind_eq_ok {α β : Type} {r : Except Failure α} {f : α → Except Failure β} {b : β} :
    r >>= f = .ok b ↔ ∃ a, r = .ok a ∧ f a = .ok b := by
  cases r with
  | error e => simp [bind, Except.bind]
  | ok a => simp [bind, Except.bind]

/-- A candidate is one of the templates. -/
theorem mem_templates_of_candidatesAmong {clock : Nat} {context : Bindings} {rules : List Rule} {order : Nat}
    {templates : List (String × Template)} {found : List Candidate}
    (ok : candidatesAmong tools clock context rules order templates = .ok found) {a : Candidate} (member : a ∈ found) :
    (a.name, a.template) ∈ templates := by
  induction templates generalizing order found with
  | nil =>
    cases ok
    cases member
  | cons entry rest ih =>
    obtain ⟨name, template⟩ := entry
    rw [candidatesAmong] at ok
    obtain ⟨applied, _, ok⟩ := except_bind_eq_ok.mp ok
    obtain ⟨others, among, ok⟩ := except_bind_eq_ok.mp ok
    cases ok
    rcases List.mem_append.mp member with member | member
    · have nominates := nominates_of_candidate? (Option.mem_toList.mp member)
      rw [nominates.name, nominates.template]
      exact List.mem_cons_self ..
    · exact List.mem_cons_of_mem _ (ih among member)

theorem ranking_of_selected (steady : tools.engine.Steady) {defaults : Bindings} {steps : List Step}
    (arises : Arises tools defaults steps c) {clock : Nat} {context : Bindings} {s : Session} {found : List Candidate}
    (selected : (applicable clock context tools).answer c s = .ok found) :
    c.ranking tools clock context = .ok found :=
  ((applicable_answers c steady clock context).answer (arises.self steady) s).symm.trans selected

/-- The template that is selected is registered under its name. -/
theorem get?_of_selected (steady : tools.engine.Steady) {defaults : Bindings} {steps : List Step}
    (arises : Arises tools defaults steps c) {clock : Nat} {context : Bindings} {s : Session} {best : Candidate}
    {others : List Candidate} (selected : (applicable clock context tools).answer c s = .ok (best :: others)) :
    c.templates.get? best.name = some best.template := by
  obtain ⟨found, among, sorted⟩ := except_bind_eq_ok.mp (ranking_of_selected steady arises selected)
  have first : best ∈ found.mergeSort precedes := by
    rw [Except.ok.inj sorted]
    exact List.mem_cons_self ..
  exact Assoc.get?_of_mem (arises.nodup steady) (mem_templates_of_candidatesAmong among (List.mem_mergeSort.mp first))

/-- A template whose text can be made a block of a composite without being rendered differently. -/
structure Blockable (t : Template) (name source : String) : Prop where
  features : parse t.features source = parse {} source
  unescaped : t.escapesHtml = false
  keeps : t.keepsWhitespace = true
  effective : t.effective = .ok source
  named : isRegionName name.toList = true
  alone : Parses source
  inside : Parses (spellRegion .block name source)

/-- Whatever steady engine judges expressions: where the options of a template are those of a composite, its text can be
put in a block, and the defaults of the composer and the static bindings do not contradict each other, the composite of
the template that composing selects renders to what composing answers. -/
theorem composite_agrees (steady : tools.engine.Steady) {defaults : Bindings} {steps : List Step}
    (arises : Arises tools defaults steps c) {clock : Nat} {bindings : Bindings} {s s' : Session} {best : Candidate}
    {others : List Candidate} {source : String}
    (selected : (applicable clock (c.defaults.merge bindings) tools).answer c s = .ok (best :: others))
    (blockable : Blockable best.template best.name source)
    (layers : Layers c.defaults best.template.bindings bindings)
    (start : s.calls = s'.calls ∨ ∀ entry ∈ best.template.functions, Function.Steady entry.2) (separator : String) :
    ∃ made, (∀ s, result (c.composite [best.name] separator) s = .ok made) ∧
      ((compose clock bindings tools).answer c s).map (·.output) = result (made.render bindings) s' := by
  have ranking := ranking_of_selected steady arises selected
  have answer : ((compose clock bindings tools).answer c s).map (·.output) =
      result (best.template.render (c.defaults.merge bindings)) s := by
    rw [answer_compose steady (arises.self steady), composed, ranking]
    cases run : result (best.template.render (c.defaults.merge bindings)) s with
    | error e => simp [bind, Except.bind, choose, run, Except.map]
    | ok output => simp [bind, Except.bind, choose, run, Except.map, outcome]
  let t := best.template
  let made : Template := {
    source := separator.intercalate [wrap best.name source]
    bindings := c.defaults.merge t.bindings
    functions := Assoc.merge [] t.functions }
  have found : c.templates.get? best.name = some t := get?_of_selected steady arises selected
  have parts : ∀ s, result (c.parts [best.name]) s = .ok [(t, wrap best.name source)] :=
    result_parts_cons found blockable.effective fun _ => rfl
  have makes (s : Session) : result (c.composite [best.name] separator) s = .ok made := by
    rw [composite, result_bind_of_ok (parts s)]
    rfl
  have whole : made.source = spellRegion .block best.name source := by
    simp only [made, String.intercalate_singleton, wrap, blockable.named, if_true]
  have names := layers.sameNames t.functions
  have same : Render.text ⟨made.callable, false⟩ (.ofBindings (made.bindingsWith bindings)) made.source =
      Render.text ⟨t.callable, false⟩ (.ofBindings (t.bindingsWith (c.defaults.merge bindings))) source := by
    rw [whole, Render.text_spellRegion (isRegionName_iff.mp blockable.named) blockable.alone blockable.inside]
    exact Render.text_congr names false source
  have wrapped : Matches (made.render bindings) _ := Template.render_matches rfl rfl rfl bindings
  have directly := Template.render_matches blockable.effective blockable.features blockable.keeps
    (c.defaults.merge bindings)
  rw [blockable.unescaped, ← same] at directly
  have both := directly.trans wrapped.symm
  refine ⟨made, makes, answer.trans ?_⟩
  rcases start with calls | still
  · exact (both s s' calls).1
  · rw [Template.render_steady still _ s s']
    exact (both s' s' rfl).1

/-- The steps that make a composer of one template, to which a rule applies everywhere. -/
def soloSteps (t : Template) : List Step :=
  [.register "card" t, .addRule { name := "any" }]

def solo (t : Template) : Composer :=
  take { defaults := [("to", .str "all")] } (soloSteps t)

theorem solo_arises (t : Template) : Arises {} [("to", .str "all")] (soloSteps t) (solo t) :=
  Arises.start.take _

/-- A card with static bindings, of which one is a default, too, and the other is hidden in the context. -/
def soloCard : Template where
  source := "\x7b\x7b#block body\x7d\x7dfor {to}\x7b\x7b/block\x7d\x7d"
  bindings := [("to", .str "all"), ("from", .str "me")]
  base := some "\x7b\x7bupper(from)\x7d\x7d \x7b\x7b#block body\x7d\x7d\x7b\x7b/block\x7d\x7d \x7b\x7b"

def soloText : String :=
  "\x7b\x7bupper(from)\x7d\x7d \x7b\x7b#block body\x7d\x7dfor {to}\x7b\x7b/block\x7d\x7d \x7b\x7b"

theorem solo_layers : Layers [("to", .str "all")] soloCard.bindings [("from", .str "us")] where
  defaults_once := by decide
  static_once := by decide
  bindings_once := by decide
  agree name v w lower upper unbound := by
    by_cases default : "to" = name
    · subst default
      cases lower
      cases upper
      rfl
    · simp [Assoc.get?, default] at lower

theorem solo_agrees : ∃ made, result ((solo soloCard).composite ["card"] "") {} = .ok made ∧
    result (made.render [("from", .str "us")]) {} = .ok "US for all \x7b\x7b" := by
  have names : ((applicable 0 ((solo soloCard).defaults.merge [("from", .str "us")])).answer (solo soloCard) {}).map
      (List.map Candidate.name) = .ok ["card"] := by decide +kernel
  cases answer : (applicable 0 ((solo soloCard).defaults.merge [("from", .str "us")])).answer (solo soloCard) {} with
  | error e =>
    rw [answer] at names
    cases names
  | ok listed =>
    rw [answer] at names
    obtain ⟨best, rfl, name⟩ := List.map_eq_singleton_iff.mp (Except.ok.inj names)
    have found := get?_of_selected Formula.steady (solo_arises soloCard) answer
    rw [name] at found
    have template : best.template = soloCard := (Option.some.inj found).symm
    have blockable : Blockable best.template best.name soloText := by
      rw [template, name]
      exact ⟨rfl, rfl, rfl, by decide +kernel, by decide, by decide +kernel, by decide +kernel⟩
    have layers : Layers (solo soloCard).defaults best.template.bindings [("from", .str "us")] := by
      rw [template]
      exact solo_layers
    obtain ⟨made, makes, same⟩ :=
      composite_agrees Formula.steady (solo_arises soloCard) answer blockable layers (.inl rfl) ""
    rw [name] at makes
    have composes : ((compose 0 [("from", .str "us")]).answer (solo soloCard) {}).map (·.output) =
        .ok "US for all \x7b\x7b" := by decide +kernel
    exact ⟨made, makes {}, same.symm.trans composes⟩

/-- A template that is selected under a name that can name a block, and has a text that is read, but of which composing
has one result and the composite another. -/
structure Differs (t : Template) (bindings : Bindings) (direct wrapped : Except Failure String) : Prop where
  arises : Arises {} [("to", .str "all")] (soloSteps t) (solo t)
  selected : ((applicable 0 ((solo t).defaults.merge bindings)).answer (solo t) {}).map (List.map Candidate.name) =
    .ok ["card"]
  named : isRegionName "card".toList = true
  effective : t.effective = .ok t.source
  parses : Parses t.source
  composes : ((compose 0 bindings).answer (solo t) {}).map (·.output) = direct
  renders : (do
    let made ← result ((solo t).composite ["card"] "\n\n") {}
    result (made.render bindings) {}) = wrapped
  apart : direct ≠ wrapped

/-- Each condition is needed. Static bindings lie over the defaults in a composite and under them when composing; a
composite does not know the switches for conditionals and loops, for escaping, and for white space; and an unfinished
marker at the end of a text takes in the closing marker of the block. -/
theorem composite_differs :
    Differs { source := "{to}", bindings := [("to", .str "you")] } [] (.ok "all") (.ok "you") ∧
    Differs { source := "\x7b\x7b#if to\x7d\x7d!\x7b\x7b/if\x7d\x7d", flags := { conditionals := false } } []
      (.ok "\x7b\x7b#if to\x7d\x7d!\x7b\x7b/if\x7d\x7d") (.ok "!") ∧
    Differs { source := "\x7b\x7b#each to as t\x7d\x7d\x7b\x7b/each\x7d\x7d", flags := { loops := false } } []
      (.ok "\x7b\x7b#each to as t\x7d\x7d\x7b\x7b/each\x7d\x7d") (.error (.notIterable "to")) ∧
    Differs { source := "{to}", escapesHtml := true } [("to", .str "<b>")] (.ok "&lt;b&gt;") (.ok "<b>") ∧
    Differs { source := " {to}", keepsWhitespace := false } [] (.ok "all") (.ok " all") ∧
    Differs { source := "\x7b\x7b#if x" } [] (.ok "\x7b\x7b#if x")
      (.error (.markup ⟨.unclosed ⟨.conditional, 15⟩, 15⟩)) := by
  refine ⟨?_, ?_, ?_, ?_, ?_, ?_⟩
  all_goals
    constructor
    · exact solo_arises _
    · decide +kernel
    · decide
    · rfl
    · decide +kernel
    · decide +kernel
    · decide +kernel
    · decide

end Composer

end Stencil
