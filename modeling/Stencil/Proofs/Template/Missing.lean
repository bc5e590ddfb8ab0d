import Stencil.Proofs.Template.Reach
import Stencil.Proofs.Template.Spares

/-!
Validation keeps renderings from missing a variable.

Only a variable that is written and an array that is looped over can be missed (`Render.Fails.requires`). If
validation finds no name missing, then the first segment of what is missed is bound where it is looked up,
and it is a later segment that is missed (`Template.missing_sound`).
-/

namespace Stencil

/-- A node that cannot do without the value of a path: a variable, or a loop over an array. -/
inductive Markup.Node.Requires : Markup.Node → String → Prop
  | slot {path spelling} : Requires (.slot path spelling) path
  | loop {array item body} : Requires (.loop array item body) array

open Analysis (Mention)

theorem Markup.Node.Requires.mention {n : Markup.Node} {path : String} (requires : n.Requires path)
    (locals : List String) : ⟨.required, locals, path⟩ ∈ Mention.ofNode locals n := by
  cases requires with
  | slot => exact Mention.mem_slot
  | loop => exact Mention.mem_array

namespace Render

variable {setting : Setting} {scope : Scope} {s : Session} {path : String}

theorem slot_missing {written : String} (failed : slot setting scope written = .error (.missingVariable path)) :
    written = path ∧ scope.lookup path = .ok none := by
  unfold slot at failed
  cases found : scope.lookup written with
  | error e =>
    rw [found] at failed
    cases failed
    exact absurd (.missing (.intro path)) (scope.lookup_spares written _ found)
  | ok value =>
    rw [found] at failed
    cases value with
    | none =>
      cases failed
      exact ⟨rfl, found⟩
    | some v => exact absurd (.missing (.intro path)) (output_spares v _ failed)

theorem items_missing {array : String} (failed : items scope array = .error (.missingVariable path)) :
    array = path ∧ scope.lookup path = .ok none := by
  unfold items at failed
  cases found : scope.lookup array with
  | error e =>
    rw [found] at failed
    cases failed
    exact absurd (.missing (.intro path)) (scope.lookup_spares array _ found)
  | ok value =>
    rw [found] at failed
    cases value with
    | none =>
      cases failed
      exact ⟨rfl, found⟩
    | some v => cases v <;> cases failed

/-- What is missed is required by the node at hand and leads nowhere. -/
theorem Fails.requires (own : ∀ name f, setting.functions.get? name = some f → Function.NeverMisses f)
    {n : Markup.Node} (fails : Fails setting scope s (.missingVariable path) n) :
    n.Requires path ∧ scope.lookup path = .ok none := by
  cases n with
  | text text => exact fails.elim
  | slot written spelling =>
    obtain ⟨rfl, nothing⟩ := slot_missing fails
    exact ⟨.slot, nothing⟩
  | call name texts spelling => exact absurd (.intro path) (call_spares own scope name texts s _ fails)
  | conditional expression accepted rejected =>
    exact absurd (.intro path) (decide_spares own scope expression s _ fails)
  | loop array item body =>
    obtain ⟨rfl, nothing⟩ := items_missing fails
    exact ⟨.loop, nothing⟩
  | region kind name span body => exact fails.elim

end Render

theorem filterAuxM_keeps {α : Type} {test : α → Except Failure Bool} {items kept found : List α}
    (run : items.filterAuxM test kept = .ok found) :
    (∀ item ∈ kept, item ∈ found) ∧ ∀ item ∈ items, test item = .ok true → item ∈ found := by
  induction items generalizing kept with
  | nil =>
    cases run
    exact ⟨fun _ => id, fun _ member => absurd member List.not_mem_nil⟩
  | cons first rest ih =>
    cases outcome : test first with
    | error e => simp [List.filterAuxM, outcome, bind, Except.bind] at run
    | ok passes =>
      simp only [List.filterAuxM, outcome, bind, Except.bind] at run
      obtain ⟨old, new⟩ := ih run
      refine ⟨fun item member => old item ?_, fun item member passed => ?_⟩
      · cases passes with
        | true => exact List.mem_cons_of_mem _ member
        | false => exact member
      · rcases List.mem_cons.mp member with rfl | member
        · cases Except.ok.inj (outcome.symm.trans passed)
          exact old _ (List.mem_cons_self ..)
        · exact new item member passed

theorem filterM_keeps {α : Type} {test : α → Except Failure Bool} {items found : List α}
    (run : items.filterM test = .ok found) {item : α} (member : item ∈ items) (passed : test item = .ok true) :
    item ∈ found := by
  unfold List.filterM at run
  cases outcome : items.filterAuxM test [] with
  | error e => simp [outcome, bind, Except.bind] at run
  | ok kept =>
    simp only [outcome, bind, Except.bind, pure, Except.pure, Except.ok.injEq] at run
    rw [← run, List.mem_reverse]
    exact (filterAuxM_keeps outcome).2 item member passed

namespace Template

/-- Every required name of a valid template is bound. -/
theorem bound_of_valid {t : Template} {overrides : Bindings} {s : Session}
    (valid : result (t.missing overrides) s = .ok []) :
    ∃ ns a, t.tree = .ok ns ∧
      Analysis.Notes (Scope.ofBindings (t.bindingsWith overrides)) {} (Mention.ofNodes [] ns) a ∧
      ∀ path, Value.pathRoot path ∈ a.required →
        (Assoc.get? (t.bindingsWith overrides) (Value.pathRoot path)).isSome := by
  rw [missing, result_bind_eq_ok] at valid
  obtain ⟨a, run, checked⟩ := valid
  obtain ⟨ns, tree, notes⟩ := notes_of_analyze run
  refine ⟨ns, a, tree, notes, fun path member => ?_⟩
  simp only [result_ofExcept] at checked
  cases bound : Assoc.get? (t.bindingsWith overrides) (Value.pathRoot path) with
  | some v => rfl
  | none =>
    have unbound : (Scope.ofBindings (t.bindingsWith overrides)).contains (Value.pathRoot path) = .ok false := by
      rw [Scope.contains_of_free (Value.pathRoot_free path)]
      simp [Scope.ofBindings, Scope.get?, bound]
    have kept := filterM_keeps checked member (by rw [unbound]; rfl)
    cases kept

/-- A rendering that misses a variable comes to a node that requires it. -/
theorem missing_origin {t : Template} {overrides : Bindings} {ns : List Markup.Node} {s : Session} {path : String}
    (own : ∀ entry ∈ t.functions, Function.NeverMisses entry.2) (tree : t.tree = .ok ns)
    (raised : result (t.render overrides) s = .error (.missingVariable path)) :
    ∃ scope s' n,
      Render.Reaches ⟨t.callable, t.escapesHtml⟩ (Scope.ofBindings (t.bindingsWith overrides)) (after t.nodes s) ns
        scope s' n ∧
      n.Requires path ∧ scope.lookup path = .ok none := by
  rw [render, result_reporting, result_bind_of_ok ((t.result_nodes s).trans tree)] at raised
  rcases result_bind_eq_error.mp raised with failed | ⟨output, _, failed⟩
  · obtain ⟨scope, s', n, reaches, fails⟩ := Render.nodes_failure ns failed
    exact ⟨scope, s', n, reaches, fails.requires fun _ _ => callable_never own⟩
  · rcases result_bind_eq_error.mp failed with failed | ⟨_, _, failed⟩ <;> cases failed

/-- Where a rendering comes to a node that requires a path, the first segment of the path is bound: by a loop
around the node, or by the bindings of the template if analysis requires it of them. -/
theorem bound_of_reaches {setting : Render.Setting} {base : Bindings} {ns : List Markup.Node} {a : Analysis}
    {scope : Scope} {s s' : Session} {n : Markup.Node} {path : String}
    (notes : Analysis.Notes (Scope.ofBindings base) {} (Mention.ofNodes [] ns) a)
    (bound : ∀ path, Value.pathRoot path ∈ a.required → (Assoc.get? base (Value.pathRoot path)).isSome)
    (reaches : Render.Reaches setting (Scope.ofBindings base) s ns scope s' n) (requires : n.Requires path) :
    (scope.get? (Value.pathRoot path)).isSome ∧ path ∈ Mention.paths .required ns := by
  obtain ⟨layers, locals, binds, rfl, inside⟩ := reaches.mentions .nil rfl
  have mentioned := inside _ (requires.mention locals)
  refine ⟨?_, Mention.mem_paths mentioned⟩
  rw [Scope.get?_append, Option.isSome_or]
  rcases notes.noted _ mentioned with here | ⟨_, required⟩
  · exact Bool.or_eq_true_iff.mpr (.inl ((binds _).trans here))
  · exact Bool.or_eq_true_iff.mpr (.inr (bound path required))

/-- If validation finds no name missing, a rendering misses nothing but a later segment of a dotted path whose
first segment is bound in the scope where the path is looked up, to be written or looped over. So nothing is
missed if all those paths are single names. -/
theorem missing_sound (t : Template) {overrides : Bindings} {s : Session}
    (own : ∀ entry ∈ t.functions, Function.NeverMisses entry.2) (valid : result (t.missing overrides) s = .ok []) :
    ∃ ns, t.tree = .ok ns ∧
      (∀ s' path, result (t.render overrides) s' = .error (.missingVariable path) → ∃ scope s'' n,
        Render.Reaches ⟨t.callable, t.escapesHtml⟩ (Scope.ofBindings (t.bindingsWith overrides)) (after t.nodes s') ns
          scope s'' n ∧
        n.Requires path ∧ scope.lookup path = .ok none ∧ (scope.get? (Value.pathRoot path)).isSome ∧
        '.' ∈ path.toList) ∧
      ((∀ path ∈ Mention.paths .required ns, '.' ∉ path.toList) → ∀ s' path,
        result (t.render overrides) s' ≠ .error (.missingVariable path)) := by
  obtain ⟨ns, a, tree, notes, bound⟩ := bound_of_valid valid
  refine ⟨ns, tree, fun s' path raised => ?_, fun undotted s' path raised => ?_⟩
  · obtain ⟨scope, s'', n, reaches, requires, nothing⟩ := missing_origin own tree raised
    have here := (bound_of_reaches notes bound reaches requires).1
    exact ⟨scope, s'', n, reaches, requires, nothing, here, Scope.dot_of_lookup_eq_none nothing here⟩
  · obtain ⟨scope, s'', n, reaches, requires, nothing⟩ := missing_origin own tree raised
    obtain ⟨here, listed⟩ := bound_of_reaches notes bound reaches requires
    exact undotted path listed (Scope.dot_of_lookup_eq_none nothing here)

/-- A list of prices, written by a loop over goods that have none. -/
def prices : Template where
  source := "\x7b\x7b#each goods as good\x7d\x7d\x7b\x7btick()\x7d\x7d\x7bgood.price\x7d\x7b\x7b/each\x7d\x7d"
  bindings := [("goods", .list [.map [(.str "name", .str "ink")]])]
  functions := [("tick", Function.ofPure fun _ => .ok (.str "+"))]

theorem prices_missing_sound :
    result (prices.missing []) {} = .ok [] ∧ result (prices.render []) {} = .error (.missingVariable "good.price") ∧
      ∃ scope : Scope, scope.lookup "good.price" = .ok none ∧ (scope.get? "good").isSome := by
  have valid : result (prices.missing []) {} = .ok [] := by decide +kernel
  have raised : result (prices.render []) {} = .error (.missingVariable "good.price") := by decide +kernel
  have own : ∀ entry ∈ prices.functions, Function.NeverMisses entry.2 :=
    List.forall_mem_singleton.mpr (Function.neverMisses_ofPure fun _ => .ok _)
  obtain ⟨ns, tree, sound, _⟩ := prices.missing_sound own valid
  obtain ⟨scope, s', n, _, _, nothing, bound, _⟩ := sound {} "good.price" raised
  exact ⟨valid, raised, scope, nothing, bound⟩

end Template

end Stencil
