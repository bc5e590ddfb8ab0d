import Stencil.Proofs.Markup.Finished
import Stencil.Proofs.Template.Effect
import Stencil.Proofs.Text.Escape
import Stencil.Template.Render

/-!
Outputs of templates that escape values.

An output is made of literal text and of written values, one after the other. A kind of text that all of them are
of, and that is kept when texts are joined, is therefore the kind of the output (`Render.nodes_yields`). Values of
an escaping template are escaped wherever they are written, so special characters come from literal text alone
(`Template.render_escaped`).
-/

namespace Stencil

section

variable {σ α β : Type}

/-- The results of a computation are of a kind, if it has any. -/
def Yields (c : Effect σ α) (kind : α → Prop) : Prop :=
  ∀ s a, result c s = .ok a → kind a

theorem Yields.pure {kind : α → Prop} {a : α} (holds : kind a) : Yields (pure a : Effect σ α) kind := by
  intro s b run
  cases run
  exact holds

theorem Yields.throw {kind : α → Prop} (e : Failure) : Yields (throw e : Effect σ α) kind :=
  fun _ _ run => nomatch run

theorem Yields.bind_of_ok {c : Effect σ α} {f : α → Effect σ β} {kind : β → Prop}
    (next : ∀ s a, result c s = .ok a → Yields (f a) kind) : Yields (c >>= f) kind := by
  intro s b run
  obtain ⟨a, first, run⟩ := result_bind_eq_ok.mp run
  exact next s a first _ b run

theorem Yields.bind {c : Effect σ α} {f : α → Effect σ β} {kind : α → Prop} {kind' : β → Prop} (yields : Yields c kind)
    (next : ∀ a, kind a → Yields (f a) kind') : Yields (c >>= f) kind' :=
  .bind_of_ok fun s a run => next a (yields s a run)

theorem Yields.mapM {ι : Type} {f : ι → Effect σ β} {kind : β → Prop} (items : List ι)
    (each : ∀ item, Yields (f item) kind) : Yields (items.mapM f) fun bs => ∀ b ∈ bs, kind b := by
  induction items with
  | nil => exact .pure fun _ member => absurd member List.not_mem_nil
  | cons item items ih =>
    rw [List.mapM_cons]
    refine (each item).bind fun b here => ih.bind fun bs rest => .pure ?_
    exact List.forall_mem_cons.mpr ⟨here, rest⟩

end

theorem Yields.ofExcept {α : Type} {r : Except Failure α} {kind : α → Prop} (each : ∀ a, r = .ok a → kind a) :
    Yields (Run.ofExcept r) kind := by
  intro s a run
  rw [result_ofExcept] at run
  exact each a run

/-- A kind of text that is kept when texts are written one after the other. -/
structure Joins (kind : String → Prop) : Prop where
  empty : kind ""
  append : ∀ {first second}, kind first → kind second → kind (first ++ second)

theorem Joins.join {kind : String → Prop} (joins : Joins kind) {parts : List String} (each : ∀ part ∈ parts, kind part) :
    kind (String.join parts) := by
  induction parts with
  | nil => exact joins.empty
  | cons part parts ih =>
    obtain ⟨first, rest⟩ := List.forall_mem_cons.mp each
    rw [String.join_cons]
    exact joins.append first (ih rest)

theorem joins_free (c : Char) : Joins fun s => c ∉ s.toList := by
  refine ⟨List.not_mem_nil, fun first second member => ?_⟩
  rw [String.toList_append] at member
  rcases List.mem_append.mp member with member | member
  · exact first member
  · exact second member

theorem joins_referenced : Joins fun s => Text.Referenced s.toList := by
  refine ⟨Text.referenced_nil, fun first second => ?_⟩
  rw [String.toList_append]
  exact first.append second

namespace Render

variable {setting : Setting} {kind : String → Prop}

/-- Escaped values are of a kind if escaped text is. -/
theorem output_escaped (escapes : setting.escapesHtml = true) (escaped : ∀ s, kind (String.ofList (Text.escape s)))
    {v : Value} {text : String} (ok : output setting v = .ok text) : kind text := by
  unfold output at ok
  rw [escapes] at ok
  cases plain : v.toText with
  | error e =>
    rw [plain] at ok
    cases ok
  | ok s =>
    rw [plain] at ok
    cases ok
    exact escaped s.toList

theorem slot_escaped (escapes : setting.escapesHtml = true) (escaped : ∀ s, kind (String.ofList (Text.escape s)))
    {scope : Scope} {path text : String} (ok : slot setting scope path = .ok text) : kind text := by
  unfold slot at ok
  cases found : scope.lookup path with
  | error e =>
    rw [found] at ok
    cases ok
  | ok value =>
    rw [found] at ok
    cases value with
    | none => cases ok
    | some v => exact output_escaped escapes escaped ok

theorem call_yields (escapes : setting.escapesHtml = true) (escaped : ∀ s, kind (String.ofList (Text.escape s)))
    (scope : Scope) (name : String) (texts : List String) : Yields (call setting scope name texts) kind := by
  unfold call
  split
  · exact .throw _
  · refine .bind_of_ok fun _ _ _ => .bind_of_ok fun _ _ _ => .bind_of_ok fun _ v _ => .ofExcept ?_
    intro text ok
    exact output_escaped escapes escaped ok

mutual

theorem node_yields (joins : Joins kind) (escapes : setting.escapesHtml = true)
    (escaped : ∀ s, kind (String.ofList (Text.escape s))) (scope : Scope) (n : Markup.Node)
    (literal : ∀ s ∈ n.texts, kind s) : Yields (node setting scope n) kind := by
  cases n with
  | text s => exact .pure (literal s (List.mem_singleton_self s))
  | slot path spelling => exact .ofExcept fun text ok => slot_escaped escapes escaped ok
  | call name texts spelling => exact call_yields escapes escaped scope name texts
  | conditional condition accepted rejected =>
    obtain ⟨first, second⟩ := List.forall_mem_append.mp literal
    rw [node]
    refine .bind_of_ok fun _ taken _ => ?_
    cases taken with
    | true => exact nodes_yields joins escapes escaped scope accepted first
    | false => exact nodes_yields joins escapes escaped scope rejected second
  | loop array item body =>
    rw [node]
    refine .bind_of_ok fun _ values _ => ?_
    refine (Yields.mapM _ ?_).bind fun _ each => .pure (joins.join each)
    rintro ⟨v, index⟩
    exact nodes_yields joins escapes escaped _ body literal
  | region regionKind name span body =>
    rw [node]
    exact nodes_yields joins escapes escaped scope body literal

/-- What an escaping template writes is of a kind if its literal text is, and escaped text is. -/
theorem nodes_yields (joins : Joins kind) (escapes : setting.escapesHtml = true)
    (escaped : ∀ s, kind (String.ofList (Text.escape s))) (scope : Scope) (ns : List Markup.Node)
    (literal : ∀ s ∈ Markup.textsOf ns, kind s) : Yields (nodes setting scope ns) kind := by
  cases ns with
  | nil => exact .pure joins.empty
  | cons n rest =>
    obtain ⟨here, later⟩ := List.forall_mem_append.mp literal
    rw [nodes]
    refine (node_yields joins escapes escaped scope n here).bind fun head first => ?_
    refine (nodes_yields joins escapes escaped scope rest later).bind fun tail second => ?_
    exact .pure (joins.append first second)

end

end Render

namespace Template

/-- A rendering that succeeds writes the nodes of the template's tree, and collapses white space if it is not kept. -/
theorem written_of_render {t : Template} {overrides : Bindings} {s : Session} {output : String}
    (rendered : result (t.render overrides) s = .ok output) : ∃ ns s' text, t.tree = .ok ns ∧
      result (Render.nodes ⟨t.callable, t.escapesHtml⟩ (.ofBindings (t.bindingsWith overrides)) ns) s' = .ok text ∧
      output = if t.keepsWhitespace then text else String.ofList (Text.collapse text.toList) := by
  unfold render at rendered
  rw [result_reporting] at rendered
  obtain ⟨ns, read, rendered⟩ := result_bind_eq_ok.mp rendered
  obtain ⟨text, written, rendered⟩ := result_bind_eq_ok.mp rendered
  obtain ⟨_, _, rendered⟩ := result_bind_eq_ok.mp rendered
  rw [result_nodes] at read
  cases rendered
  exact ⟨ns, _, text, read, written, rfl⟩

/-- No value brings a special character into the output of a template that escapes: but for ampersands, those that the
output has are in literal text, and if literal text has no ampersand, all of the output begin entities. -/
theorem render_escaped {t : Template} (escapes : t.escapesHtml = true) {overrides : Bindings} {s : Session}
    {output : String} (rendered : result (t.render overrides) s = .ok output) : ∃ ns, t.tree = .ok ns ∧
      (∀ c ∈ Text.delimiters, (∀ text ∈ Markup.textsOf ns, c ∉ text.toList) → c ∉ output.toList) ∧
      ((∀ text ∈ Markup.textsOf ns, '&' ∉ text.toList) → Text.Referenced output.toList) := by
  obtain ⟨ns, s', text, read, written, rfl⟩ := written_of_render rendered
  have yields {kind : String → Prop} (joins : Joins kind) (escaped : ∀ s, kind (String.ofList (Text.escape s)))
      (literal : ∀ text ∈ Markup.textsOf ns, kind text) : kind text :=
    Render.nodes_yields joins escapes escaped _ ns literal s' text written
  refine ⟨ns, read, fun c special free member => ?_, fun free => ?_⟩
  · have absent : c ∉ text.toList := yields (joins_free c) (fun s => ?_) free
    · split at member
      · exact absent member
      · rw [String.toList_ofList] at member
        rcases Text.mem_collapse member with rfl | member
        · exact absurd special (by decide)
        · exact absent member
    · rw [String.toList_ofList]
      exact Text.not_mem_escape special s
  · have referenced : Text.Referenced text.toList := yields joins_referenced (fun s => ?_) fun text member =>
      Text.referenced_of_free (free text member)
    · split
      · exact referenced
      · rw [String.toList_ofList]
        exact referenced.collapse
    · rw [String.toList_ofList]
      exact Text.referenced_escape s

/-- A card that escapes values and collapses white space, with the markers of conditionals as literal text. -/
def card : Template where
  source := "\x7b\x7b#if on\x7d\x7d  [\x7b\x7bshout(title)\x7d\x7d]:\x7b\x7b#each notes as note\x7d\x7d {note}\x7b\x7b/each\x7d\x7d"
  functions := [("shout", .ofPure fun
    | [.str s] => .ok (.str (s ++ "!\""))
    | _ => .error .argumentCount)]
  flags := { conditionals := false }
  escapesHtml := true
  keepsWhitespace := false

/-- What is bound for a card: text with special characters. -/
def cardBindings : Bindings :=
  [("title", .str "<b> &lt;"), ("notes", .list [.str "'a'", .str "b & c"])]

/-- The output of the card for its bindings. -/
def cardOutput : String :=
  "\x7b\x7b#if on\x7d\x7d [&lt;b&gt; &amp;lt;!&quot;]: &#x27;a&#x27; b &amp; c"

theorem card_escaped : result (card.render cardBindings) {} = .ok cardOutput ∧
    (∀ c ∈ Text.delimiters, c ∉ cardOutput.toList) ∧ Text.Referenced cardOutput.toList := by
  have rendered : result (card.render cardBindings) {} = .ok cardOutput := by decide +kernel
  have texts : card.tree.map Markup.textsOf = .ok ["\x7b\x7b#if on\x7d\x7d  [", "]:", " "] := by decide +kernel
  obtain ⟨ns, read, free, referenced⟩ := render_escaped (t := card) rfl rendered
  rw [read] at texts
  rw [Except.ok.inj texts] at free referenced
  refine ⟨rendered, fun c special => free c special ?_, referenced (by decide)⟩
  simp only [Text.delimiters, List.mem_cons, List.not_mem_nil, or_false] at special
  rcases special with rfl | rfl | rfl | rfl <;> decide

end Template

end Stencil
