import Stencil.Proofs.Template.Effect
import Stencil.Template.Render

/-!
Renderings and what was reported before.

Functions may count their calls, so the output of a rendering may depend on how many calls were counted before. It
depends on nothing else that happened: events and notices are only ever added to (`Template.render_oblivious`).
-/

namespace Stencil

/-- A run of which the result and the calls counted by its end depend on the calls counted before alone. -/
def Oblivious {α : Type} (r : Run α) : Prop :=
  ∀ s s', s.calls = s'.calls → result r s = result r s' ∧ (after r s).calls = (after r s').calls

section

variable {α β : Type} {r : Run α}

theorem Oblivious.pure (a : α) : Oblivious (pure a : Run α) :=
  fun _ _ same => ⟨rfl, same⟩

theorem Oblivious.throw (e : Failure) : Oblivious (throw e : Run α) :=
  fun _ _ same => ⟨rfl, same⟩

theorem Oblivious.bind {f : α → Run β} (oblivious : Oblivious r) (next : ∀ a, Oblivious (f a)) :
    Oblivious (r >>= f) := by
  intro s s' same
  obtain ⟨results, calls⟩ := oblivious s s' same
  cases run : result r s with
  | error e =>
    have run' := results.symm.trans run
    rw [result_bind_of_error run, result_bind_of_error run', after_bind_of_error run, after_bind_of_error run']
    exact ⟨rfl, calls⟩
  | ok a =>
    have run' := results.symm.trans run
    rw [result_bind_of_ok run, result_bind_of_ok run', after_bind_of_ok run, after_bind_of_ok run']
    exact next a _ _ calls

theorem Oblivious.report {severity : Severity} {name : String} {details : Bindings} :
    Oblivious (Run.report severity name details) :=
  fun _ _ same => ⟨rfl, same⟩

theorem Oblivious.ofExcept (r : Except Failure α) : Oblivious (Run.ofExcept r) := by
  cases r with
  | ok a => exact .pure a
  | error e => exact .throw e

theorem Oblivious.ofCall (c : Call α) : Oblivious (Run.ofCall c) := by
  intro s s' same
  have rest (t : Session) :
      after (Run.ofCall c) t = after (Run.ofExcept (c t.calls).1) { t with calls := (c t.calls).2 } := rfl
  rw [result_ofCall, result_ofCall, rest, rest, after_ofExcept, after_ofExcept, same]
  exact ⟨rfl, rfl⟩

theorem Oblivious.reporting {t : Template} (oblivious : Oblivious r) : Oblivious (t.reporting r) := by
  unfold Template.reporting
  split
  · exact oblivious
  · exact fun s s' same => oblivious s s' same

theorem Oblivious.mapM {ι : Type} {f : ι → Run β} (items : List ι) (each : ∀ item, Oblivious (f item)) :
    Oblivious (items.mapM f) := by
  induction items with
  | nil => exact .pure []
  | cons item items ih =>
    rw [List.mapM_cons]
    exact (each item).bind fun _ => ih.bind fun _ => .pure _

end

namespace Render

theorem call_oblivious (setting : Setting) (scope : Scope) (name : String) (texts : List String) :
    Oblivious (call setting scope name texts) := by
  unfold call
  split
  · exact .throw _
  · exact (Oblivious.ofExcept _).bind fun _ => Oblivious.report.bind fun _ => (Oblivious.ofCall _).bind fun _ =>
      .ofExcept _

theorem decide_oblivious (setting : Setting) (scope : Scope) (expression : String) :
    Oblivious (decide setting scope expression) :=
  (Oblivious.ofExcept _).bind fun _ => (Oblivious.ofCall _).bind fun _ => Oblivious.report.bind fun _ => .pure _

mutual

theorem node_oblivious (setting : Setting) (scope : Scope) (n : Markup.Node) : Oblivious (node setting scope n) := by
  cases n with
  | text s => exact .pure s
  | slot path spelling => exact .ofExcept _
  | call name texts spelling => exact call_oblivious setting scope name texts
  | conditional expression accepted rejected =>
    rw [node]
    refine (decide_oblivious setting scope expression).bind fun taken => ?_
    cases taken with
    | true => exact nodes_oblivious setting scope accepted
    | false => exact nodes_oblivious setting scope rejected
  | loop array item body =>
    rw [node]
    refine (Oblivious.ofExcept _).bind fun values => (Oblivious.mapM _ ?_).bind fun _ => .pure _
    rintro ⟨v, index⟩
    exact nodes_oblivious setting _ body
  | region kind name span body =>
    rw [node]
    exact nodes_oblivious setting scope body

theorem nodes_oblivious (setting : Setting) (scope : Scope) (ns : List Markup.Node) :
    Oblivious (nodes setting scope ns) := by
  cases ns with
  | nil => exact .pure ""
  | cons n rest =>
    rw [nodes]
    exact (node_oblivious setting scope n).bind fun _ => (nodes_oblivious setting scope rest).bind fun _ => .pure _

end

end Render

namespace Template

theorem effectiveSource_oblivious (t : Template) : Oblivious t.effectiveSource := by
  unfold effectiveSource
  split
  · refine Oblivious.reporting ((Oblivious.ofExcept _).bind fun blocks => (Oblivious.ofExcept _).bind ?_)
    rintro ⟨spliced, unmatched⟩
    cases unmatched with
    | nil => exact .pure spliced
    | cons name rest => exact Oblivious.report.bind fun _ => .pure spliced
  · exact .pure _

/-- The output of a rendering depends on the calls counted before it alone. -/
theorem render_oblivious (t : Template) (overrides : Bindings) : Oblivious (t.render overrides) := by
  have tree : Oblivious t.nodes := t.effectiveSource_oblivious.bind fun _ => .ofExcept _
  exact Oblivious.reporting (tree.bind fun ns => (Render.nodes_oblivious _ _ ns).bind fun _ =>
    Oblivious.report.bind fun _ => .pure _)

end Template

end Stencil
