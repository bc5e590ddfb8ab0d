import Stencil.Inheritance.Resolve
import Stencil.Proofs.Markup.Finished
import Stencil.Proofs.Markup.Frame
import Stencil.Proofs.Template.Effect

/-!
What a child leaves of its base.

Splicing touches only what it replaces, and a child that replaces nothing is resolved to the text of its base
(`splicing_frame`).
-/

namespace Stencil.Inheritance

open Markup

section Unchanged

variable {source : String} {nodes : List Node}

/-- Splicing that replaces nothing leaves the text as it is. -/
theorem replaceRegions_never (kind : RegionKind) (read : parse {} source = .ok nodes)
    (replace : Region → String → Option String) (never : ∀ r body, replace r body = none) :
    ∃ splicing, replaceRegions kind source replace = .ok splicing ∧ String.ofList splicing.text = source := by
  obtain ⟨splicing, places, spliced, faithful⟩ := replaceRegions_faithful kind read replace
  refine ⟨splicing, spliced, ?_⟩
  rw [faithful.unchanged, String.ofList_toList]
  intro p _ new made
  cases (never p.1 p.2).symm.trans made

theorem spliceBlocks_nil (read : parse {} source = .ok nodes) : spliceBlocks source [] = .ok (source, []) := by
  obtain ⟨splicing, spliced, same⟩ := replaceRegions_never .block read
    (fun r _ => Assoc.get? ([] : Assoc String String) r.name) fun _ _ => rfl
  simp only [spliceBlocks, spliced]
  exact congrArg (fun text => Except.ok (text, [])) same

theorem mergeSections_nil (read : parse {} source = .ok nodes) : mergeSections source [] = .ok (source, []) := by
  obtain ⟨splicing, spliced, same⟩ := replaceRegions_never .sect read
    (fun r body => (Assoc.get? ([] : Assoc String SectionChange) r.name).map (mergeSection body)) fun _ _ => rfl
  simp only [mergeSections, spliced]
  exact congrArg (fun text => Except.ok (text, [])) same

/-- A child that replaces nothing keeps the text of its base, and nothing is reported of it. -/
theorem applyChild_nil (read : parse {} source = .ok nodes) {child : Child} (blocks : child.blocks = [])
    (sections : child.sections = []) : applyChild source child = pure source := by
  unfold applyChild
  rw [blocks, sections, spliceBlocks_nil read]
  simp only [liftMarkup, Run.ofExcept, pure_bind, appendBlocks, List.foldl_nil, mergeSections_nil read]
  rfl

end Unchanged

/-- Splicing touches only what it replaces, as `Splicing.Faithful` has it. So it changes nothing if the new bodies are
the ones that were there, and a child without blocks and sections is resolved to the text of its base. -/
theorem splicing_frame {source : String} {nodes : List Node} (read : parse {} source = .ok nodes) :
    (∀ (kind : RegionKind) (replace : Region → String → Option String), ∃ splicing places,
      replaceRegions kind source replace = .ok splicing ∧ splicing.Faithful kind source nodes replace places ∧
      ((∀ p ∈ splicing.offered, ∀ new, replace p.1 p.2 = some new → new = p.2) → splicing.text = source.toList)) ∧
    ∀ (base : Base) (child : Child), base.source = source → child.blocks = [] → child.sections = [] →
      Returns (resolve base child) fun t => t.source = source := by
  constructor
  · intro kind replace
    obtain ⟨splicing, places, spliced, faithful⟩ := replaceRegions_faithful kind read replace
    exact ⟨splicing, places, spliced, faithful, faithful.unchanged⟩
  · rintro base child rfl blocks sections
    unfold resolve
    rw [applyChild_nil read blocks sections, pure_bind]
    exact .unless (neglected base child).isEmpty .report (Returns.report.bind fun _ _ => .pure rfl)

/-- Shelves with a label each, one of them in another one. -/
def shelves : String :=
  spellRegion .block "top" (spellRegion .block "label" "old") ++ "|" ++
    spellRegion .block "bottom" (spellRegion .block "label" "older")

def relabel (r : Region) (_ : String) : Option String :=
  if r.name == "label" then some "new" else if r.name == "bottom" then some "" else none

theorem shelves_framed :
    (∃ splicing, replaceRegions .block shelves relabel = .ok splicing ∧
      (∃ nodes places, splicing.Faithful .block shelves nodes relabel places) ∧
      splicing.offered.map (·.1.name) = ["top", "label", "bottom"] ∧ splicing.replaced = ["label", "bottom"] ∧
      String.ofList splicing.text = spellRegion .block "top" (spellRegion .block "label" "new") ++ "|" ++
        spellRegion .block "bottom" "") ∧
    Returns (resolve { name := "shelves", source := shelves } { name := "plain" }) fun t => t.source = shelves := by
  have run : (replaceRegions .block shelves relabel).toOption.map
      (fun s => (s.offered.map (·.1.name), s.replaced, String.ofList s.text)) =
        some (["top", "label", "bottom"], ["label", "bottom"],
          spellRegion .block "top" (spellRegion .block "label" "new") ++ "|" ++ spellRegion .block "bottom" "") := by
    decide +kernel
  obtain ⟨nodes, read⟩ : Parses shelves := by decide +kernel
  obtain ⟨frame, kept⟩ := splicing_frame read
  obtain ⟨splicing, places, spliced, faithful, _⟩ := frame .block relabel
  rw [spliced] at run
  obtain ⟨offered, names⟩ := Prod.ext_iff.mp (Option.some.inj run)
  obtain ⟨replaced, text⟩ := Prod.ext_iff.mp names
  exact ⟨⟨splicing, spliced, ⟨nodes, places, faithful⟩, offered, replaced, text⟩, kept _ _ rfl rfl rfl⟩

end Stencil.Inheritance
