import Stencil.Proofs.Composition.Order
import Stencil.Proofs.Template.Sequence

/-!
Composites and their parts.

A composite is made of the texts of its parts, some of them in blocks. If these texts are clean, it renders as its
parts do one by one (`composite_part_by_part`).
-/

namespace Stencil

open Stencil.Markup

namespace Composer

variable {c : Composer} {names sources : List String} {name source separator : String}

/-- A name under which a template is registered, and the text that this template renders. -/
def Provides (c : Composer) (name source : String) : Prop :=
  ∃ t, c.templates.get? name = some t ∧ t.effective = .ok source

theorem result_parts_cons {t : Template} {rest : List String} {parts : List (Template × String)}
    (found : c.templates.get? name = some t) (effective : t.effective = .ok source)
    (more : ∀ s, result (c.parts rest) s = .ok parts) (s : Session) :
    result (c.parts (name :: rest)) s = .ok ((t, wrap name source) :: parts) := by
  have known : c.template name = .ok t := by rw [template, found]
  obtain ⟨outcome, always⟩ := t.effectiveSource_idle
  have read (s : Session) : result t.effectiveSource s = .ok source :=
    (always s).1.trans ((always {}).1.symm.trans effective)
  rw [Composer.parts, known, result_bind_of_ok (result_ofExcept _ s), result_bind_of_ok (read _), result_bind_of_ok (more _)]
  rfl

theorem result_parts (provides : List.Forall₂ c.Provides names sources) :
    ∃ parts, parts.map Prod.snd = List.zipWith wrap names sources ∧ ∀ s, result (c.parts names) s = .ok parts := by
  induction provides with
  | nil => exact ⟨[], rfl, fun _ => rfl⟩
  | cons provided _ ih =>
    obtain ⟨t, found, effective⟩ := provided
    obtain ⟨parts, texts, more⟩ := ih
    refine ⟨_, ?_, result_parts_cons found effective more⟩
    rw [List.map_cons, texts, List.zipWith_cons_cons]

theorem finished_wrap (finished : Finished source) (name : String) : Finished (wrap name source) := by
  unfold wrap
  split
  · rename_i named
    exact finished.spellRegion .block (isRegionName_iff.mp named)
  · exact finished

theorem text_wrap {setting : Render.Setting} {scope : Scope} (finished : Finished source) (name : String) :
    Render.text setting scope (wrap name source) = Render.text setting scope source := by
  have whole := finished_wrap finished name
  unfold wrap at whole ⊢
  split
  · rename_i named
    rw [if_pos named] at whole
    exact Render.text_spellRegion (isRegionName_iff.mp named) finished.parses whole.parses
  · rfl

theorem finished_wraps (provides : List.Forall₂ c.Provides names sources)
    (finished : ∀ source ∈ sources, Finished source) : ∀ whole ∈ List.zipWith wrap names sources, Finished whole := by
  induction provides with
  | nil => exact fun _ member => absurd member List.not_mem_nil
  | @cons name _ _ _ _ _ ih =>
    obtain ⟨here, later⟩ := List.forall_mem_cons.mp finished
    exact List.forall_mem_cons.mpr ⟨finished_wrap here name, ih later⟩

theorem mapM_text_wraps (provides : List.Forall₂ c.Provides names sources)
    (finished : ∀ source ∈ sources, Finished source) (setting : Render.Setting) (scope : Scope) :
    (List.zipWith wrap names sources).mapM (Render.text setting scope) = sources.mapM (Render.text setting scope) := by
  induction provides with
  | nil => rfl
  | cons _ _ ih =>
    obtain ⟨here, later⟩ := List.forall_mem_cons.mp finished
    rw [List.zipWith_cons_cons, List.mapM_cons, List.mapM_cons, text_wrap here, ih later]

theorem result_composite (provides : List.Forall₂ c.Provides names sources) (separator : String) :
    ∃ bindings functions, ∀ s, result (c.composite names separator) s =
      .ok { source := separator.intercalate (List.zipWith wrap names sources), bindings, functions } := by
  obtain ⟨parts, texts, read⟩ := result_parts provides
  refine ⟨parts.foldl (fun all part => all.merge part.1.bindings) c.defaults,
    parts.foldl (fun all part => Assoc.merge all part.1.functions) [], fun s => ?_⟩
  rw [composite, result_bind_of_ok (read s), texts]
  rfl

/-- A composite of clean texts has a text that is read, and renders as its parts do one by one with the bindings and
functions of the composite, if functions do not look at what was done before or that is the same. -/
theorem composite_part_by_part (provides : List.Forall₂ c.Provides names sources)
    (clean : ∀ source ∈ sources, Clean source) (free : '{' ∉ separator.toList) :
    ∃ made, (∀ s, result (c.composite names separator) s = .ok made) ∧ Parses made.source ∧
      ∀ overrides s s', (s.calls = s'.calls ∨ ∀ entry ∈ made.functions, Function.Steady entry.2) →
        result (made.render overrides) s = result (do
          let outputs ← sources.mapM fun source =>
            Template.render { source, bindings := made.bindings, functions := made.functions } overrides
          return separator.intercalate outputs) s' := by
  have finished (source : String) (member : source ∈ sources) : Finished source := (clean source member).finished
  obtain ⟨bindings, functions, made⟩ := result_composite provides separator
  have whole := finished_wraps provides finished
  refine ⟨_, made, (Finished.intercalate whole (finished_of_free free)).parses, fun overrides s s' start => ?_⟩
  let setting : Render.Setting := ⟨Assoc.merge Function.builtins functions, false⟩
  let scope := Scope.ofBindings (Assoc.merge bindings overrides)
  have alone (source : String) : Matches (Template.render { source, bindings, functions } overrides)
      (Render.text setting scope source) := Template.render_matches rfl rfl rfl overrides
  have split : Render.text setting scope (separator.intercalate (List.zipWith wrap names sources)) = do
      let outputs ← sources.mapM (Render.text setting scope)
      return separator.intercalate outputs := by
    rw [Render.text_intercalate whole free, mapM_text_wraps provides finished]
  have parts : Matches (do
        let outputs ← sources.mapM fun source => Template.render { source, bindings, functions } overrides
        return separator.intercalate outputs) (do
        let outputs ← sources.mapM (Render.text setting scope)
        return separator.intercalate outputs) :=
    (Matches.mapM fun source _ => alone source).bind fun outputs => (Oblivious.pure _).matches
  have same := (split ▸ alone _).trans parts.symm
  rcases start with calls | steady
  · exact (same s s' calls).1
  · rw [Template.render_steady steady overrides s s']
    exact (same s' s' rfl).1

/-- A template with a base, and the text that it renders. -/
def letterBody : Template where
  source := "\x7b\x7b#block body\x7d\x7dnew, \x7b\x7bupper(to)\x7d\x7d\x7b\x7b/block\x7d\x7d"
  base := some "\x7b\x7b#block body\x7d\x7dold\x7b\x7b/block\x7d\x7d\x7b\x7b#if late\x7d\x7d!\x7b\x7b/if\x7d\x7d"

def letterBodyText : String :=
  "\x7b\x7b#block body\x7d\x7dnew, \x7b\x7bupper(to)\x7d\x7d\x7b\x7b/block\x7d\x7d\x7b\x7b#if late\x7d\x7d!\x7b\x7b/if\x7d\x7d"

/-- A folder of letters in which one name can name a block and the other cannot. -/
def folder : Composer where
  defaults := [("to", .str "all")]
  templates := [("head", { source := "Dear {to}:" }), ("2nd part!", letterBody)]

theorem folder_part_by_part : ∃ made,
    (∀ s, result (folder.composite ["head", "2nd part!", "head"] " / ") s = .ok made) ∧ Parses made.source ∧
      result (made.render [("late", .bool true)]) {} = .ok "Dear all: / new, ALL! / Dear all:" := by
  have effective : letterBody.effective = .ok letterBodyText := by decide +kernel
  have head : folder.Provides "head" "Dear {to}:" := ⟨_, rfl, rfl⟩
  have body : folder.Provides "2nd part!" letterBodyText := ⟨letterBody, rfl, effective⟩
  have clean : ∀ source ∈ ["Dear {to}:", letterBodyText, "Dear {to}:"], Clean source := by decide +kernel
  have free : '{' ∉ " / ".toList := by decide
  obtain ⟨made, composed, parses, renders⟩ :=
    composite_part_by_part (.cons head (.cons body (.cons head .nil))) clean free
  refine ⟨made, composed, parses, ?_⟩
  have last : ∀ s, result (folder.parts ["head"]) s = .ok [({ source := "Dear {to}:" }, wrap "head" "Dear {to}:")] :=
    fun _ => rfl
  have rest : ∀ s, result (folder.parts ["2nd part!", "head"]) s = .ok _ := result_parts_cons rfl effective last
  have parts : ∀ s, result (folder.parts ["head", "2nd part!", "head"]) s = .ok _ := result_parts_cons rfl rfl rest
  have known := (result_bind_of_ok (parts {}) _).symm.trans (composed {})
  cases Except.ok.inj known
  rw [renders _ {} {} (.inl rfl)]
  decide +kernel

end Composer

end Stencil
