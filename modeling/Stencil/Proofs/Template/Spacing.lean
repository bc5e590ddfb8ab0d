import Stencil.Proofs.Template.Effect
import Stencil.Proofs.Text.Spacing
import Stencil.Template.Render

/-!
White space in the output of templates.

A template that does not keep white space writes what it would write if it kept it, with the white space collapsed
(`result_render`). So its output is the words of that text, joined by single spaces (`render_spaced`).
-/

namespace Stencil.Template

/-- The template that keeps white space and is the same otherwise. -/
def keeping (t : Template) : Template :=
  { t with keepsWhitespace := true }

/-- What a template makes of the text that its tree is rendered as. -/
def finish (t : Template) (text : String) : String :=
  if t.keepsWhitespace then text else String.ofList (Text.collapse text.toList)

/-- The text that the tree of a template is rendered as. -/
def draft (t : Template) (overrides : Bindings) : Run String :=
  t.nodes >>= Render.nodes ⟨t.callable, t.escapesHtml⟩ (.ofBindings (t.bindingsWith overrides))

theorem result_render (t : Template) (overrides : Bindings) (s : Session) :
    result (t.render overrides) s = (result (t.draft overrides) s).map t.finish := by
  have returns (text : String) (s : Session) : result (do
      Run.report .debug "template_rendered" [("length", .int (t.finish text).length)]
      return t.finish text) s = .ok (t.finish text) := rfl
  have whole := result_bind_of_returns returns (t.draft overrides) s
  rw [draft, bind_assoc] at whole
  rw [render, result_reporting]
  exact whole

/-- Keeping white space or not makes no difference until the tree has been rendered. -/
theorem result_render_keeping (t : Template) (overrides : Bindings) (s : Session) :
    result (t.keeping.render overrides) s = result (t.draft overrides) s := by
  have same : t.keeping.draft overrides = t.draft overrides := rfl
  rw [result_render, same]
  cases result (t.draft overrides) s <;> rfl

/-- A template that does not keep white space writes the words of what it would write otherwise, with single spaces
between them and no other blanks. No character that is not blank is lost or moved, and there is nothing left to collapse.
It fails as it would otherwise. -/
theorem render_spaced {t : Template} (collapses : t.keepsWhitespace = false) (overrides : Bindings) (s : Session) :
    (∀ e, result (t.keeping.render overrides) s = .error e → result (t.render overrides) s = .error e) ∧
    ∀ text, result (t.keeping.render overrides) s = .ok text → ∃ output, result (t.render overrides) s = .ok output ∧
      output.toList = Text.unwords (Text.words text.toList) ∧ Text.Tidy output.toList ∧
      (output.toList.filter fun c => !Text.isBlank c) = (text.toList.filter fun c => !Text.isBlank c) ∧
      Text.collapse output.toList = output.toList := by
  rw [result_render_keeping, result_render]
  refine ⟨fun e failed => by rw [failed]; rfl, fun text written => ?_⟩
  have collapsed : (t.finish text).toList = Text.collapse text.toList := by
    rw [finish, collapses, if_neg Bool.false_ne_true, String.toList_ofList]
  refine ⟨t.finish text, by rw [written]; rfl, ?_⟩
  rw [collapsed]
  exact ⟨Text.collapse_eq_unwords _, Text.tidy_collapse _, Text.filter_collapse _, Text.collapse_collapse _⟩

/-- A list with white space around and in its items, which it does not keep. -/
def roster : Template where
  source := "\n \x7b\x7b#each names as name\x7d\x7d\x7bname\x7d,\u2003\x7b\x7b/each\x7d\x7d "
  keepsWhitespace := false

def rosterBindings : Bindings :=
  [("names", .list [.str "Ada\u00a0 L", .str "Alan"])]

/-- What the list is rendered as with its white space. -/
def rosterDraft : String :=
  "\n Ada\u00a0 L,\u2003Alan,\u2003 "

theorem roster_spaced : roster.keepsWhitespace = false ∧
    result (roster.keeping.render rosterBindings) {} = .ok rosterDraft ∧
    ∃ output, result (roster.render rosterBindings) {} = .ok output ∧ output = "Ada L, Alan," ∧
      Text.Tidy output.toList ∧ Text.collapse output.toList = output.toList := by
  have written : result (roster.keeping.render rosterBindings) {} = .ok rosterDraft := by decide +kernel
  obtain ⟨output, rendered, same, tidy, _, again⟩ := (render_spaced (t := roster) rfl rosterBindings {}).2 _ written
  have words : Text.unwords (Text.words rosterDraft.toList) = "Ada L, Alan,".toList := by decide +kernel
  exact ⟨rfl, written, output, rendered, String.toList_inj.mp (same.trans words), tidy, again⟩

end Stencil.Template
