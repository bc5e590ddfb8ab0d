import Stencil.Proofs.Template.Reach

/-!
What can miss a variable, or the rules for a template, or fail at markers.

Values, paths, conditions and the common functions fail in other ways, and so do calls and conditionals in a
template whose own functions do. Markers are failed at only while a template is read (`Template.tree_of_render`).
-/

namespace Stencil

/-- The failures that a name without a value leads to. -/
inductive Failure.IsMissing : Failure → Prop
  | intro path : IsMissing (.missingVariable path)

/-- The failures of a selection of templates among which no rule holds for any. -/
inductive Failure.IsUnselected : Failure → Prop
  | intro templates rules : IsUnselected (.noApplicableTemplate templates rules)

/-- The failures that neither values nor paths nor conditions lead to. -/
inductive Failure.IsForeign : Failure → Prop
  | missing {e} : e.IsMissing → IsForeign e
  | unselected {e} : e.IsUnselected → IsForeign e
  | markup {e} : e.IsMarkup → IsForeign e

/-- A kind of failures that neither values nor paths nor conditions lead to. -/
class Failure.Foreign (kind : Failure → Prop) : Prop where
  foreign : ∀ {e}, kind e → e.IsForeign

instance : Failure.Foreign Failure.IsForeign :=
  ⟨id⟩

instance : Failure.Foreign Failure.IsMissing :=
  ⟨.missing⟩

instance : Failure.Foreign Failure.IsUnselected :=
  ⟨.unselected⟩

instance : Failure.Foreign Failure.IsMarkup :=
  ⟨.markup⟩

/-- A result that is no failure of a foreign kind. -/
abbrev Spares {α : Type} (r : Except Failure α) : Prop :=
  Avoids Failure.IsForeign r

namespace Value

theorem integerText_spares (n : Int) : Spares (integerText n) := by
  simp only [integerText]
  split
  · exact .error nofun
  · exact .ok _

theorem jsonScalar_spares (v : Value) : Spares v.jsonScalar := by
  cases v with
  | int n =>
    simp only [jsonScalar]
    split
    · exact .ok _
    · exact .error nofun
  | list items => exact .error nofun
  | map entries => exact .error nofun
  | _ => exact .ok _

theorem jsonKey_spares (v : Value) : Spares v.jsonKey := by
  cases v with
  | str s => exact .ok _
  | _ => exact .error nofun

theorem checkNesting_spares (depth : Nat) : Spares (checkNesting depth) := by
  unfold checkNesting
  split
  · exact .ok _
  · exact .error nofun

mutual

theorem compactAt_spares (depth : Nat) (v : Value) : Spares (v.compactAt depth) := by
  cases v with
  | list items =>
    simp only [compactAt]
    exact (checkNesting_spares depth).bind fun _ => (compactItems_spares (depth + 1) items).bind fun parts => .ok _
  | map entries =>
    simp only [compactAt]
    exact (checkNesting_spares depth).bind fun _ =>
      (compactEntries_spares (depth + 1) entries).bind fun parts => .ok _
  | _ =>
    simp only [compactAt]
    exact jsonScalar_spares _

theorem compactItems_spares (depth : Nat) (items : List Value) : Spares (compactItems depth items) := by
  cases items with
  | nil =>
    simp only [compactItems]
    exact .ok _
  | cons item rest =>
    simp only [compactItems]
    exact (compactAt_spares depth item).bind fun head => (compactItems_spares depth rest).bind fun tail => .ok _

theorem compactEntries_spares (depth : Nat) (entries : List (Value × Value)) :
    Spares (compactEntries depth entries) := by
  cases entries with
  | nil =>
    simp only [compactEntries]
    exact .ok _
  | cons entry rest =>
    obtain ⟨key, value⟩ := entry
    simp only [compactEntries]
    exact (jsonKey_spares key).bind fun name => (compactAt_spares depth value).bind fun head =>
      (compactEntries_spares depth rest).bind fun tail => .ok _

end

mutual

theorem toText_spares (v : Value) : Spares v.toText := by
  cases v with
  | int n =>
    simp only [toText]
    exact integerText_spares n
  | list items =>
    simp only [toText]
    exact (itemTexts_spares items).bind fun parts => .ok _
  | map entries =>
    simp only [toText]
    exact compactAt_spares 0 _
  | _ =>
    simp only [toText]
    exact .ok _

theorem itemTexts_spares (items : List Value) : Spares (itemTexts items) := by
  cases items with
  | nil =>
    simp only [itemTexts]
    exact .ok _
  | cons item rest =>
    simp only [itemTexts]
    exact (toText_spares item).bind fun head => (itemTexts_spares rest).bind fun tail => .ok _

end

mutual

theorem inspect_spares (v : Value) : Spares v.inspect := by
  cases v with
  | int n =>
    simp only [inspect]
    exact integerText_spares n
  | list items =>
    simp only [inspect]
    exact (inspectItems_spares items).bind fun parts => .ok _
  | map entries =>
    simp only [inspect]
    exact (inspectEntries_spares entries).bind fun parts => .ok _
  | _ =>
    simp only [inspect]
    exact .ok _

theorem inspectItems_spares (items : List Value) : Spares (inspectItems items) := by
  cases items with
  | nil =>
    simp only [inspectItems]
    exact .ok _
  | cons item rest =>
    simp only [inspectItems]
    exact (inspect_spares item).bind fun head => (inspectItems_spares rest).bind fun tail => .ok _

theorem inspectEntries_spares (entries : List (Value × Value)) : Spares (inspectEntries entries) := by
  cases entries with
  | nil =>
    simp only [inspectEntries]
    exact .ok _
  | cons entry rest =>
    obtain ⟨key, value⟩ := entry
    simp only [inspectEntries]
    exact (inspect_spares key).bind fun name => (inspect_spares value).bind fun head =>
      (inspectEntries_spares rest).bind fun tail => .ok _

end

theorem position_spares (segment : String) : Spares (position segment) := by
  unfold position
  split
  · exact .error nofun
  · split
    · exact .ok _
    · exact .error nofun

theorem step_spares (v : Value) (segment : String) : Spares (v.step segment) := by
  unfold step
  split
  · exact .ok _
  · split
    · exact (position_spares segment).bind fun index => .ok _
    · exact .ok _
  · exact .ok _

theorem follow_spares (v : Value) (segments : List String) : Spares (v.follow segments) := by
  induction segments generalizing v with
  | nil => exact .ok _
  | cons segment rest ih =>
    refine (step_spares v segment).bind fun next => ?_
    cases next with
    | none => exact .ok _
    | some next => exact ih next

theorem resolveWith_spares (get : String → Option Value) (path : String) : Spares (resolveWith get path) := by
  unfold resolveWith
  split
  · exact .ok _
  · simp only
    split
    · exact .ok _
    · exact follow_spares _ _

theorem compare_spares (comparison : Comparison) (left right : Value) : Spares (compare comparison left right) := by
  unfold compare
  split
  · split <;> exact .ok _
  · split
    · exact (toText_spares left).bind fun l => (toText_spares right).bind fun r => .ok _
    · exact (toText_spares left).bind fun l => (toText_spares right).bind fun r => .ok _
    · exact .ok _

end Value

theorem Scope.lookup_spares (scope : Scope) (path : String) : Spares (scope.lookup path) :=
  Value.resolveWith_spares _ _

namespace Function

theorem fillPlaceholder_spares (arguments : List Value) (digits : List Char) :
    Spares (fillPlaceholder arguments digits) := by
  have number : Spares (placeholderNumber digits) := by
    unfold placeholderNumber
    split
    · exact .error nofun
    · exact .ok _
  refine number.bind fun index => ?_
  split
  · exact (Value.toText_spares _).bind fun text => .ok _
  · exact .ok _

theorem fill_spares (arguments : List Value) (pending : Option (List Char)) (s : List Char) :
    Spares (fill arguments pending s) := by
  induction s generalizing pending with
  | nil => exact .ok _
  | cons c rest ih =>
    unfold fill
    split
    · exact (ih _).bind fun filled => .ok _
    · split
      · exact (ih _).bind fun filled => .ok _
      · split
        · exact ih _
        · split
          · exact (fillPlaceholder_spares arguments _).bind fun filled => (ih _).bind fun more => .ok _
          · exact (ih _).bind fun more => .ok _

theorem unary_spares {f : Value → Except Failure Value} (spares : ∀ a, Spares (f a)) (arguments : List Value) :
    Spares (unary f arguments) := by
  unfold unary
  split
  · exact spares _
  · exact .error nofun

theorem binary_spares {f : Value → Value → Except Failure Value} (spares : ∀ a b, Spares (f a b))
    (arguments : List Value) : Spares (binary f arguments) := by
  unfold binary
  split
  · exact spares _ _
  · exact .error nofun

theorem onText_spares (f : List Char → List Char) (arguments : List Value) : Spares (onText f arguments) :=
  unary_spares (fun a => (Value.toText_spares a).bind fun _ => .ok _) arguments

theorem length_spares (a : Value) : Spares (length a) := by
  unfold length
  split
  · exact .ok _
  · exact .ok _
  · exact .ok _
  · exact (Value.toText_spares a).bind fun text => .ok _

theorem joinWith_spares (separator a : Value) : Spares (joinWith separator a) := by
  unfold joinWith
  split
  · exact (Value.toText_spares separator).bind fun between => (Value.itemTexts_spares _).bind fun texts => .ok _
  · exact (Value.toText_spares a).bind fun text => .ok _

theorem join_spares (arguments : List Value) : Spares (join arguments) := by
  unfold join
  split
  · exact joinWith_spares _ _
  · exact joinWith_spares _ _
  · exact .error nofun

theorem first_spares (a : Value) : Spares (first a) := by
  unfold first
  split <;> exact .ok _

theorem last_spares (a : Value) : Spares (last a) := by
  unfold last
  split <;> exact .ok _

theorem operand_spares (a : Value) : Spares (operand a) := by
  unfold operand
  split
  · exact .ok _
  · exact (Value.inspect_spares a).bind fun shown => .error nofun

theorem arithmetic_spares (f : Number.Numeric → Number.Numeric → Except Number.ArithmeticFault Number.Numeric)
    (a b : Value) : Spares (arithmetic f a b) := by
  refine (operand_spares a).bind fun x => (operand_spares b).bind fun y => ?_
  split
  · exact .ok _
  · exact .error nofun

theorem format_spares (arguments : List Value) : Spares (format arguments) := by
  cases arguments with
  | nil => exact .error nofun
  | cons pattern arguments =>
    exact (Value.toText_spares pattern).bind fun text => (fill_spares arguments none _).bind fun filled => .ok _

/-- A function that never misses a variable. -/
def NeverMisses (f : Function) : Prop :=
  ∀ arguments, AlwaysAvoids Failure.IsMissing (f arguments)

/-- A function that never fails in a way of a kind. -/
def Never (kind : Failure → Prop) (f : Function) : Prop :=
  ∀ arguments, AlwaysAvoids kind (f arguments)

theorem never_ofPure {f : List Value → Except Failure Value} (spares : ∀ arguments, Spares (f arguments)) :
    Never Failure.IsForeign (ofPure f) := by
  intro arguments s
  have same : result (ofPure f arguments) s = f arguments := by
    unfold ofPure
    cases f arguments <;> rfl
  rw [same]
  exact spares arguments

theorem neverMisses_ofPure {f : List Value → Except Failure Value} (spares : ∀ arguments, Spares (f arguments)) :
    NeverMisses (ofPure f) :=
  fun arguments s => (never_ofPure spares arguments s).mono .missing

theorem builtins_never : ∀ entry ∈ builtins, Never Failure.IsForeign entry.2 := by
  simp only [builtins, List.forall_mem_cons]
  exact ⟨never_ofPure (onText_spares _), never_ofPure (onText_spares _), never_ofPure (onText_spares _),
    never_ofPure (unary_spares length_spares), never_ofPure join_spares,
    never_ofPure (unary_spares first_spares), never_ofPure (unary_spares last_spares),
    never_ofPure (binary_spares (arithmetic_spares _)), never_ofPure (binary_spares (arithmetic_spares _)),
    never_ofPure (binary_spares (arithmetic_spares _)), never_ofPure (binary_spares (arithmetic_spares _)),
    never_ofPure (binary_spares fun a b => .ok _), never_ofPure format_spares,
    fun _ member => absurd member List.not_mem_nil⟩

end Function

variable {kind : Failure → Prop}

/-- The functions that a template can call never fail in a way of a foreign kind if its own do not. -/
theorem Template.callable_never [Failure.Foreign kind] {t : Template}
    (own : ∀ entry ∈ t.functions, Function.Never kind entry.2) {name : String} {f : Function}
    (found : t.callable.get? name = some f) : f.Never kind := by
  obtain ⟨entry, member, rfl⟩ := Assoc.mem_of_get? found
  have common : ∀ entry ∈ Function.builtins, Function.Never kind entry.2 := fun entry listed arguments s =>
    (Function.builtins_never entry listed arguments s).mono Failure.Foreign.foreign
  exact Assoc.forall_merge common own entry member

namespace Condition

theorem compile_spares (expression : String) : Spares (compile expression) := by
  unfold compile
  split
  · exact .ok _
  · exact .error nofun

theorem ofExcept_spares [Failure.Foreign kind] {α : Type} {r : Except Failure α} (spares : Spares r) :
    AlwaysAvoids kind (Call.ofExcept r) := by
  intro s
  cases r with
  | ok a => exact .ok a
  | error e => exact .error fun bad => spares e rfl (Failure.Foreign.foreign bad)

variable {functions : Functions}

mutual

theorem value_spares [Failure.Foreign kind] (own : ∀ name f, functions.get? name = some f → f.Never kind)
    (scope : Scope) (bareWord : Bool) (operand : Operand) :
    AlwaysAvoids kind (operand.value scope functions bareWord) := by
  cases operand with
  | literal v =>
    simp only [Operand.value]
    exact .pure v
  | reference path =>
    simp only [Operand.value]
    refine (ofExcept_spares (scope.lookup_spares path)).bind fun found => ?_
    cases found with
    | none => exact .pure _
    | some v => exact .pure v
  | call name arguments =>
    simp only [Operand.value]
    cases found : functions.get? name with
    | none => exact fun _ => .error fun bad => nomatch Failure.Foreign.foreign bad
    | some f => exact (valuesOf_spares own scope arguments).bind fun values => own name f found values

theorem valuesOf_spares [Failure.Foreign kind] (own : ∀ name f, functions.get? name = some f → f.Never kind)
    (scope : Scope) (operands : List Operand) : AlwaysAvoids kind (valuesOf scope functions operands) := by
  cases operands with
  | nil =>
    simp only [valuesOf]
    exact .pure []
  | cons operand rest =>
    simp only [valuesOf]
    exact (value_spares own scope true operand).bind fun v =>
      (valuesOf_spares own scope rest).bind fun values => .pure _

end

theorem evaluate_spares [Failure.Foreign kind] (own : ∀ name f, functions.get? name = some f → f.Never kind)
    (scope : Scope) (c : Condition) : AlwaysAvoids kind (c.evaluate scope functions) := by
  unfold evaluate
  split
  · exact (value_spares own scope false c.left).bind fun v => .pure _
  · exact (value_spares own scope true c.left).bind fun v => (value_spares own scope true _).bind fun w =>
      ofExcept_spares (Value.compare_spares _ v w)

end Condition

theorem resolveArgument_spares (text : String) (scope : Scope) : Spares (resolveArgument text scope) := by
  unfold resolveArgument
  split
  · exact .ok _
  · split
    · exact .ok _
    · refine (scope.lookup_spares text).bind fun found => ?_
      cases found with
      | none => exact .ok _
      | some v => exact .ok v

namespace Render

variable {setting : Setting}

theorem output_spares (v : Value) : Spares (output setting v) :=
  (Value.toText_spares v).bind fun _ => .ok _

theorem arguments_spares (scope : Scope) (texts : List String) : Spares (arguments scope texts) := by
  induction texts with
  | nil => exact .ok _
  | cons text rest ih => exact (resolveArgument_spares text scope).bind fun head => ih.bind fun tail => .ok _

theorem run_ofExcept_spares [Failure.Foreign kind] {α : Type} {r : Except Failure α} (spares : Spares r) :
    AlwaysAvoids kind (Run.ofExcept r) :=
  .ofExcept (spares.mono Failure.Foreign.foreign)

theorem run_ofCall_spares {α : Type} {c : Call α} (spares : AlwaysAvoids kind c) :
    AlwaysAvoids kind (Run.ofCall c) := by
  intro s
  rw [result_ofCall]
  exact spares _

theorem call_spares [Failure.Foreign kind] (own : ∀ name f, setting.functions.get? name = some f → f.Never kind)
    (scope : Scope) (name : String) (texts : List String) : AlwaysAvoids kind (call setting scope name texts) := by
  unfold call
  cases found : setting.functions.get? name with
  | none => exact fun _ => .error fun bad => nomatch Failure.Foreign.foreign bad
  | some f =>
    exact (run_ofExcept_spares (arguments_spares scope texts)).bind fun values =>
      AlwaysAvoids.bind (fun _ => .ok ()) fun _ => (run_ofCall_spares (own name f found values)).bind fun v =>
        run_ofExcept_spares (output_spares v)

theorem decide_spares [Failure.Foreign kind] (own : ∀ name f, setting.functions.get? name = some f → f.Never kind)
    (scope : Scope) (expression : String) : AlwaysAvoids kind (decide setting scope expression) :=
  (run_ofExcept_spares (Condition.compile_spares expression)).bind fun c =>
    (run_ofCall_spares (c.evaluate_spares own scope)).bind fun taken =>
      AlwaysAvoids.bind (fun _ => .ok ()) fun _ => .pure taken

section

variable [Failure.Foreign kind] (bound : ∀ path, ¬ kind (.missingVariable path))
include bound

theorem slot_spares (scope : Scope) (path : String) : Avoids kind (slot setting scope path) := by
  refine ((scope.lookup_spares path).mono Failure.Foreign.foreign).bind fun found => ?_
  cases found with
  | none => exact .error (bound path)
  | some v => exact (output_spares v).mono Failure.Foreign.foreign

theorem items_spares (scope : Scope) (array : String) : Avoids kind (items scope array) := by
  refine ((scope.lookup_spares array).mono Failure.Foreign.foreign).bind fun found => ?_
  cases found with
  | none => exact .error (bound array)
  | some v =>
    cases v with
    | list values => exact .ok values
    | _ => exact .error fun bad => nomatch Failure.Foreign.foreign bad

/-- What a rendering fails in at a node is of a foreign kind only if a function of the template leads to it, or a
variable is missed. -/
theorem Fails.spares (own : ∀ name f, setting.functions.get? name = some f → f.Never kind) {scope : Scope}
    {s : Session} {e : Failure} {n : Markup.Node} (fails : Fails setting scope s e n) : ¬ kind e := by
  cases n with
  | text text => exact fails.elim
  | slot path spelling => exact slot_spares bound scope path e fails
  | call name texts spelling => exact call_spares own scope name texts s e fails
  | conditional expression accepted rejected => exact decide_spares own scope expression s e fails
  | loop array item body => exact items_spares bound scope array e fails
  | region kind name span body => exact fails.elim

end

end Render

namespace Template

/-- Putting blocks into a base fails at markers only. -/
theorem markup_of_effectiveSource (t : Template) : AlwaysAvoids (fun e => ¬ e.IsMarkup) t.effectiveSource := by
  unfold effectiveSource
  split
  · intro s
    rw [result_reporting]
    refine AlwaysAvoids.bind (liftMarkup_failure _) (fun blocks => ?_) s
    refine AlwaysAvoids.bind (liftMarkup_failure _) fun (spliced, unmatched) => ?_
    cases unmatched with
    | nil => exact .pure spliced
    | cons name rest => exact AlwaysAvoids.bind (fun _ => .ok ()) fun _ => .pure spliced
  · exact .pure _

/-- Reading the tree of a template fails at markers only. -/
theorem markup_of_tree {t : Template} {e : Failure} (failed : t.tree = .error e) : e.IsMarkup :=
  not_not.mp (t.markup_of_effectiveSource.bind (fun _ => liftMarkup_failure _) {} e failed)

/-- A rendering fails in a foreign way other than by missing a variable only if the reading of the template does,
provided the template's own functions do not. -/
theorem tree_of_render [Failure.Foreign kind] (bound : ∀ path, ¬ kind (.missingVariable path)) {t : Template}
    (own : ∀ entry ∈ t.functions, Function.Never kind entry.2) {overrides : Bindings} {s : Session} {e : Failure}
    (failed : result (t.render overrides) s = .error e) (bad : kind e) : t.tree = .error e := by
  rw [render, result_reporting] at failed
  rcases result_bind_eq_error.mp failed with failed | ⟨ns, _, failed⟩
  · exact (t.result_nodes s).symm.trans failed
  rcases result_bind_eq_error.mp failed with failed | ⟨output, _, failed⟩
  · obtain ⟨scope, s', n, _, fails⟩ := Render.nodes_failure ns failed
    exact absurd bad (fails.spares bound fun _ _ => callable_never own)
  · rcases result_bind_eq_error.mp failed with failed | ⟨_, _, failed⟩ <;> cases failed

/-- A rendering does not fail as selections do, if the template's own functions do not. -/
theorem render_selected {t : Template} (own : ∀ entry ∈ t.functions, Function.Never Failure.IsUnselected entry.2)
    (overrides : Bindings) : AlwaysAvoids Failure.IsUnselected (t.render overrides) := by
  intro s e failed unselected
  have markup := markup_of_tree (tree_of_render nofun own failed unselected)
  cases unselected
  cases markup

end Template

end Stencil
