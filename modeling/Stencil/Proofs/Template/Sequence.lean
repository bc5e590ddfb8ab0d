import Stencil.Proofs.Markup.Seam
import Stencil.Proofs.Template.Oblivious

/-!
Rendering texts that are written one after the other.

Nodes are rendered in order, and where literal text is divided between them makes no difference. So finished texts
with separators between them render as they do one by one (`Render.text_intercalate`), and a text renders as it does
in a block of its own (`Render.text_spellRegion`). Templates that keep white space and leave all markers in force
render their text in this way (`Template.render_matches`).
-/

namespace Stencil

/-- Two runs one after the other, with their outputs joined. -/
def Run.append (r r' : Run String) : Run String := do
  let head ← r
  let tail ← r'
  return head ++ tail

namespace Run

theorem append_pure_empty (r : Run String) : r.append (pure "") = r := by
  simp only [append, pure_bind, String.append_empty, bind_pure]

theorem pure_empty_append (r : Run String) : append (pure "") r = r := by
  simp only [append, pure_bind, String.empty_append, bind_pure]

theorem append_pure_pure (s t : String) : append (pure s) (pure t) = pure (s ++ t) := by
  simp only [append, pure_bind]

theorem append_assoc (r r' r'' : Run String) : (r.append r').append r'' = r.append (r'.append r'') := by
  simp only [append, bind_assoc, pure_bind, String.append_assoc]

end Run

namespace Render

open Markup

variable {setting : Setting} {scope : Scope}

mutual

theorem node_bare (setting : Setting) (scope : Scope) (n : Node) : node setting scope n.bare = node setting scope n := by
  cases n with
  | text s => rfl
  | slot path spelling => rfl
  | call name texts spelling => rfl
  | conditional condition accepted rejected =>
    simp only [Node.bare, node, nodes_bare setting scope accepted, nodes_bare setting scope rejected]
  | loop array item body =>
    have same (v : Value) (count index : Nat) :=
      nodes_bare setting (scope.child (iteration item count index v)) body
    simp only [Node.bare, node, same]
  | region kind name span body => simp only [Node.bare, node, nodes_bare setting scope body]

/-- Where regions stand makes no difference. -/
theorem nodes_bare (setting : Setting) (scope : Scope) (ns : List Node) :
    nodes setting scope (bareNodes ns) = nodes setting scope ns := by
  cases ns with
  | nil => rfl
  | cons n rest => simp only [bareNodes, nodes, node_bare setting scope n, nodes_bare setting scope rest]

end

theorem nodes_cons (n : Node) (rest : List Node) :
    nodes setting scope (n :: rest) = (node setting scope n).append (nodes setting scope rest) := by
  rw [nodes, Run.append]

theorem nodes_singleton (n : Node) : nodes setting scope [n] = node setting scope n := by
  rw [nodes_cons, nodes, Run.append_pure_empty]

theorem nodes_append (first second : List Node) :
    nodes setting scope (first ++ second) = (nodes setting scope first).append (nodes setting scope second) := by
  induction first with
  | nil => rw [List.nil_append, nodes, Run.pure_empty_append]
  | cons n first ih => rw [List.cons_append, nodes_cons, nodes_cons, ih, Run.append_assoc]

/-- Literal text that is divided between nodes renders as it does whole. -/
theorem nodes_joined {first second whole : List Node} (joined : Joined first second whole) :
    nodes setting scope whole = (nodes setting scope first).append (nodes setting scope second) := by
  cases joined with
  | apart => exact nodes_append first second
  | @merged before after s t =>
    rw [nodes_append, nodes_append, nodes_singleton, nodes_cons, nodes_cons, Run.append_assoc,
      ← Run.append_assoc (node _ _ (.text s)), node, node, node, Run.append_pure_pure]

/-- Renders a text in which all markers are in force. -/
def text (setting : Setting) (scope : Scope) (source : String) : Run String := do
  nodes setting scope (← Run.ofExcept (liftMarkup (parse {} source)))

theorem text_of_read {source : String} {ns : List Node} (read : parse {} source = .ok ns) :
    text setting scope source = nodes setting scope ns := by
  rw [text, read]
  rfl

theorem text_append {first second : String} (finished : Finished first) (more : Finished second) :
    text setting scope (first ++ second) = (text setting scope first).append (text setting scope second) := by
  obtain ⟨ns, read⟩ := finished.parses
  obtain ⟨ns', read'⟩ := more.parses
  obtain ⟨whole, readWhole, joined⟩ := finished.parse_append more read read'
  have rendered : nodes setting scope (bareNodes whole) = _ := nodes_joined joined
  rw [nodes_bare, nodes_bare, nodes_bare] at rendered
  rw [text_of_read readWhole, text_of_read read, text_of_read read', rendered]

/-- Text without opening braces is literal text. -/
theorem text_of_free {source : String} (free : '{' ∉ source.toList) : text setting scope source = pure source := by
  by_cases empty : source.toList = []
  · have cut : scan source.toList = piecesOf [] := by rw [empty, scan_nil, piecesOf]
    rw [text_of_read (parse_of_parts cut), nodesFrom, nodes, String.toList_eq_nil_iff.mp empty]
  · have cut : scan source.toList = piecesOf [.text source.toList] := by
      have whole := scan_append_text empty (inert_of_free free) []
      rwa [List.append_nil, scan_nil] at whole
    rw [text_of_read (parse_of_parts cut), nodesFrom, nodesFrom, nodes_singleton, Concrete.node, node,
      String.ofList_toList]

/-- A text that can be the body of a block renders as the block does. -/
theorem text_spellRegion {name body : String} (named : IsRegionName name.toList) (read : Parses body)
    (whole : Parses (spellRegion .block name body)) :
    text setting scope (spellRegion .block name body) = text setting scope body := by
  obtain ⟨ns, read⟩ := read
  obtain ⟨span, inside, readWhole, same⟩ := parse_spellRegion named read whole
  rw [text_of_read readWhole, text_of_read read, nodes_singleton, node, ← nodes_bare, same, nodes_bare]

/-- Finished texts with separators between them render one by one. -/
theorem text_intercalate {sources : List String} {separator : String}
    (finished : ∀ source ∈ sources, Finished source) (free : '{' ∉ separator.toList) :
    text setting scope (separator.intercalate sources) = do
      let outputs ← sources.mapM (text setting scope)
      return separator.intercalate outputs := by
  have between := finished_of_free free
  induction sources with
  | nil => exact text_of_free List.not_mem_nil
  | cons source rest ih =>
    obtain ⟨here, later⟩ := List.forall_mem_cons.mp finished
    cases rest with
    | nil =>
      simp only [List.mapM_cons, List.mapM_nil, bind_assoc, pure_bind, String.intercalate_singleton, bind_pure]
    | cons next rest =>
      rw [intercalate_cons_cons, text_append (here.append between) (.intercalate later between),
        text_append here between, text_of_free free, ih later]
      simp only [Run.append, List.mapM_cons, bind_assoc, pure_bind, intercalate_cons_cons]

end Render

/-- Two runs that have the same result and count the same calls, if as many were counted before. -/
def Matches {α : Type} (r r' : Run α) : Prop :=
  ∀ s s', s.calls = s'.calls → result r s = result r' s' ∧ (after r s).calls = (after r' s').calls

section

variable {α β : Type} {r r' : Run α}

theorem Oblivious.matches (oblivious : Oblivious r) : Matches r r :=
  oblivious

theorem Matches.symm (same : Matches r r') : Matches r' r := by
  intro s s' calls
  obtain ⟨results, counts⟩ := same s' s calls.symm
  exact ⟨results.symm, counts.symm⟩

theorem Matches.trans {r'' : Run α} (same : Matches r r') (same' : Matches r' r'') : Matches r r'' := by
  intro s s' calls
  obtain ⟨results, counts⟩ := same s s rfl
  obtain ⟨results', counts'⟩ := same' s s' calls
  exact ⟨results.trans results', counts.trans counts'⟩

theorem Matches.bind {f f' : α → Run β} (same : Matches r r') (next : ∀ a, Matches (f a) (f' a)) :
    Matches (r >>= f) (r' >>= f') := by
  intro s s' calls
  obtain ⟨results, calls⟩ := same s s' calls
  cases run : result r s with
  | error e =>
    have run' := results.symm.trans run
    rw [result_bind_of_error run, result_bind_of_error run', after_bind_of_error run, after_bind_of_error run']
    exact ⟨rfl, calls⟩
  | ok a =>
    have run' := results.symm.trans run
    rw [result_bind_of_ok run, result_bind_of_ok run', after_bind_of_ok run, after_bind_of_ok run']
    exact next a _ _ calls

/-- A run after which nothing is done but what keeps its result. -/
theorem Matches.bind_of_kept {f : α → Run α} (oblivious : Oblivious r) (kept : ∀ a, Matches (f a) (pure a)) :
    Matches (r >>= f) r := by
  have whole := oblivious.matches.bind kept
  rwa [bind_pure] at whole

theorem Matches.mapM {ι : Type} {f f' : ι → Run β} {items : List ι}
    (each : ∀ item ∈ items, Matches (f item) (f' item)) : Matches (items.mapM f) (items.mapM f') := by
  induction items with
  | nil => exact (Oblivious.pure []).matches
  | cons item items ih =>
    obtain ⟨first, rest⟩ := List.forall_mem_cons.mp each
    rw [List.mapM_cons, List.mapM_cons]
    exact first.bind fun _ => (ih rest).bind fun _ => (Oblivious.pure _).matches

theorem Matches.reporting {t : Template} (same : Matches r r') : Matches (t.reporting r) r' := by
  unfold Template.reporting
  split
  · exact same
  · exact fun s s' calls => same s s' calls

/-- A run with the same result whatever was done before, which counts no calls. -/
def Idle (r : Run α) : Prop :=
  ∃ outcome, ∀ s, result r s = outcome ∧ (after r s).calls = s.calls

theorem Idle.ofExcept (outcome : Except Failure α) : Idle (Run.ofExcept outcome) := by
  refine ⟨outcome, fun s => ⟨result_ofExcept outcome s, ?_⟩⟩
  rw [after_ofExcept]

theorem Idle.bind {f : α → Run β} (idle : Idle r) (next : ∀ a, Idle (f a)) : Idle (r >>= f) := by
  obtain ⟨outcome, always⟩ := idle
  cases outcome with
  | error e =>
    refine ⟨.error e, fun s => ?_⟩
    obtain ⟨failed, calls⟩ := always s
    rw [result_bind_of_error failed, after_bind_of_error failed]
    exact ⟨rfl, calls⟩
  | ok a =>
    obtain ⟨outcome, later⟩ := next a
    refine ⟨outcome, fun s => ?_⟩
    obtain ⟨ok, calls⟩ := always s
    obtain ⟨same, calls'⟩ := later (after r s)
    rw [result_bind_of_ok ok, after_bind_of_ok ok]
    exact ⟨same, calls'.trans calls⟩

theorem Idle.report {severity : Severity} {name : String} {details : Bindings} :
    Idle (Run.report severity name details) :=
  ⟨.ok (), fun _ => ⟨rfl, rfl⟩⟩

theorem Idle.reporting {t : Template} (idle : Idle r) : Idle (t.reporting r) := by
  unfold Template.reporting
  split
  · exact idle
  · exact idle

theorem Idle.matches (idle : Idle r) {a : α} (ok : result r {} = .ok a) : Matches r (pure a) := by
  obtain ⟨outcome, always⟩ := idle
  intro s s' calls
  obtain ⟨same, calls'⟩ := always s
  obtain ⟨known, _⟩ := always {}
  exact ⟨same.trans (known.symm.trans ok), calls'.trans calls⟩

end

namespace Template

/-- The text that a template renders, if it has one. -/
def effective (t : Template) : Except Failure String :=
  result t.effectiveSource {}

theorem effectiveSource_idle (t : Template) : Idle t.effectiveSource := by
  unfold effectiveSource
  split
  · refine Idle.reporting ((Idle.ofExcept _).bind fun blocks => (Idle.ofExcept _).bind ?_)
    rintro ⟨spliced, unmatched⟩
    cases unmatched with
    | nil => exact .ofExcept (.ok spliced)
    | cons name rest => exact Idle.report.bind fun _ => .ofExcept (.ok spliced)
  · exact .ofExcept (.ok _)

/-- A template that keeps white space, and whose text has no markers that its flags switch off, renders this text. -/
theorem render_matches {t : Template} {source : String} (effective : t.effective = .ok source)
    (read : Markup.parse t.features source = Markup.parse {} source) (keeps : t.keepsWhitespace = true)
    (overrides : Bindings) :
    Matches (t.render overrides)
      (Render.text ⟨t.callable, t.escapesHtml⟩ (.ofBindings (t.bindingsWith overrides)) source) := by
  have whole : Matches t.nodes (Run.ofExcept (liftMarkup (Markup.parse {} source))) := by
    have steps := (t.effectiveSource_idle.matches effective).bind fun text =>
      (Oblivious.ofExcept (liftMarkup (Markup.parse t.features text))).matches
    rwa [pure_bind, read] at steps
  refine Matches.reporting (whole.bind fun ns => ?_)
  refine Matches.bind_of_kept (Render.nodes_oblivious _ _ ns) fun output => ?_
  simp only [keeps, if_true]
  exact Idle.matches (Idle.report.bind fun _ => .ofExcept (.ok output)) rfl

end Template

end Stencil
