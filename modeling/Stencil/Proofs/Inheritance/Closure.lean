import Stencil.Inheritance.Resolve
import Stencil.Proofs.Markup.Substitution
import Stencil.Proofs.Template.Effect

/-!
Inheritance makes template text out of template text.

Contents are put between markers as they are written, so contents that are read on their own can still break out
of their region: the beginning of a marker in them or in the base may be finished by what comes next
(`contents_break_out`). Without such beginnings nothing breaks out, whatever regions are replaced, extended or
appended (`inheritance_closed`).
-/

namespace Stencil

open Markup

theorem Markup.finished_newline : Finished "\n" :=
  finished_of_free (by decide)

/-- Splicing finished contents into a finished text. What is left over has names from the table. -/
theorem Markup.spliceBlocks_finished {source : String} {contents : Assoc String String} (finished : Finished source)
    (each : ∀ entry ∈ contents, Finished entry.2) :
    ∃ text lost, spliceBlocks source contents = .ok (text, lost) ∧ Finished text ∧
      ∀ name ∈ lost, name ∈ contents.keys := by
  obtain ⟨nodes, read⟩ := finished.parses
  have fresh : ∀ r ∈ regionsOf nodes, ∀ new,
      onlyFor .block (fun r _ => contents.get? r.name) r (r.body source.toList) = some new → Finished new := by
    intro r _ new made
    rw [onlyFor, Option.ite_none_right_eq_some] at made
    obtain ⟨entry, member, rfl⟩ := Assoc.mem_of_get? made.2
    exact each entry member
  obtain ⟨splicing, _, spliced, text, _⟩ := finished.splice read fresh
  refine ⟨_, contents.keys.filter fun name => !splicing.replaced.contains name, ?_, text, fun name member => ?_⟩
  · simp only [spliceBlocks, spliced]
    rfl
  · exact List.mem_of_mem_filter member

namespace Inheritance

theorem finished_mergeSection {body : String} {change : SectionChange} (finished : Finished body)
    (content : Finished change.content) : Finished (mergeSection body change) := by
  unfold mergeSection
  split
  · exact content
  · exact (content.append finished_newline).append finished
  · exact (finished.append finished_newline).append content

theorem mergeSections_finished {source : String} {sections : Assoc String SectionChange} (finished : Finished source)
    (each : ∀ entry ∈ sections, Finished entry.2.content) :
    ∃ text lost, mergeSections source sections = .ok (text, lost) ∧ Finished text := by
  obtain ⟨nodes, read⟩ := finished.parses
  have fresh : ∀ r ∈ regionsOf nodes, ∀ new,
      onlyFor .sect (fun r body => (sections.get? r.name).map (mergeSection body)) r (r.body source.toList) = some new →
        Finished new := by
    intro r member new made
    rw [onlyFor, Option.ite_none_right_eq_some, Option.map_eq_some_iff] at made
    obtain ⟨_, change, found, rfl⟩ := made
    obtain ⟨entry, inside, rfl⟩ := Assoc.mem_of_get? found
    exact finished_mergeSection (finished.body read r member) (each entry inside)
  obtain ⟨splicing, _, spliced, text, _⟩ := finished.splice read fresh
  refine ⟨_, sections.keys.filter fun name => !splicing.replaced.contains name, ?_, text⟩
  simp only [mergeSections, spliced]
  rfl

theorem finished_appendBlocks {source : String} {blocks : Assoc String String} {names : List String}
    (finished : Finished source) (each : ∀ entry ∈ blocks, Finished entry.2)
    (named : ∀ name ∈ names, IsRegionName name.toList) : Finished (appendBlocks source blocks names) := by
  unfold appendBlocks
  induction names generalizing source with
  | nil => exact finished
  | cons name names ih =>
    obtain ⟨first, named⟩ := List.forall_mem_cons.mp named
    have content : Finished ((blocks.get? name).getD "") := by
      cases found : blocks.get? name with
      | none => exact finished_of_free (by decide)
      | some content =>
        obtain ⟨entry, member, rfl⟩ := Assoc.mem_of_get? found
        exact each entry member
    exact ih ((finished.append finished_newline).append (content.spellRegion .block first)) named

end Inheritance

/-- A child whose contents are finished, and whose blocks have names as regions have. -/
structure Child.Finished (child : Child) : Prop where
  named : ∀ name ∈ child.blocks.keys, IsRegionName name.toList
  blocks : ∀ entry ∈ child.blocks, Markup.Finished entry.2
  sections : ∀ entry ∈ child.sections, Markup.Finished entry.2.content

namespace Inheritance

theorem reportUndeclared_returns (child name : String) : Returns (reportUndeclared child name) fun _ => True :=
  Returns.notify.bind fun _ _ => .report

theorem applyChild_returns {source : String} {child : Child} (finished : Finished source) (well : child.Finished) :
    Returns (applyChild source child) Finished := by
  obtain ⟨spliced, undeclared, splicing, first, kept⟩ := spliceBlocks_finished finished well.blocks
  have extended := finished_appendBlocks first well.blocks fun name member => well.named name (kept name member)
  obtain ⟨merged, unmatched, merging, final⟩ := mergeSections_finished extended well.sections
  refine (Returns.ofMarkup splicing (Eq.refl (spliced, undeclared))).bind ?_
  rintro _ rfl
  refine (Returns.forM undeclared (reportUndeclared_returns child.name)).bind fun _ _ => ?_
  refine (Returns.ofMarkup merging (Eq.refl (merged, unmatched))).bind ?_
  rintro _ rfl
  exact .unless unmatched.isEmpty .report (.pure final)

theorem resolve_returns {base : Base} {child : Child} (finished : Finished base.source) (well : child.Finished) :
    Returns (resolve base child) fun t => Finished t.source := by
  unfold resolve
  refine .unless (neglected base child).isEmpty .report ?_
  refine (applyChild_returns finished well).bind fun source final => ?_
  exact Returns.report.bind fun _ _ => .pure final

end Inheritance

/-- What a template writes into its base is read if the blocks that it takes from its own text are finished. -/
theorem Template.effectiveSource_returns {t : Template} (reads : Parses t.source)
    (bodies : ∀ blocks, extractBlocks t.source = .ok blocks → ∀ entry ∈ blocks, Finished entry.2)
    (based : ∀ base, t.base = some base → Finished base) : Returns t.effectiveSource Parses := by
  unfold Template.effectiveSource
  split
  · rename_i base _ named
    obtain ⟨nodes, read⟩ := reads
    obtain ⟨blocks, found⟩ : ∃ blocks, extractBlocks t.source = .ok blocks := by
      simp only [extractBlocks, findRegionsOf, findRegions, read]
      exact ⟨_, rfl⟩
    obtain ⟨spliced, unmatched, splicing, final, _⟩ := spliceBlocks_finished (based base named) (bodies blocks found)
    refine Returns.reporting ((Returns.ofMarkup found (Eq.refl blocks)).bind ?_)
    rintro _ rfl
    refine (Returns.ofMarkup splicing (Eq.refl (spliced, unmatched))).bind ?_
    rintro _ rfl
    exact .unless unmatched.isEmpty .report (.pure final.parses)
  · exact .pure reads

namespace Inheritance

/-- What a child makes of its base is read and finished like the base, if the contents of the child are finished
and its blocks are named as regions are. Likewise what a template makes of its base is read. -/
theorem inheritance_closed :
    (∀ (base : Base) (child : Child), Finished base.source → child.Finished →
      Returns (resolve base child) fun t => Finished t.source) ∧
    (∀ t : Template, Parses t.source →
      (∀ blocks, extractBlocks t.source = .ok blocks → ∀ entry ∈ blocks, Finished entry.2) →
      (∀ base, t.base = some base → Finished base) → Returns t.effectiveSource Parses) :=
  ⟨fun _ _ => resolve_returns, fun _ => Template.effectiveSource_returns⟩

/-- A base with a block in a section. -/
def memo : Base where
  name := "memo"
  source := spellRegion .sect "body" (spellRegion .block "topic" "?")

/-- A child with contents for the block, for the section and for a block that the base does not have. -/
def reply : Child where
  name := "reply"
  blocks := [("topic", spellSlot "subject"), ("sign.off", spellMarker "upper(me)")]
  sections := [("body", ⟨spellBlock .conditional "late" "Sorry.", .append⟩)]

/-- A template that has a block of the base. -/
def answer : Template where
  source := spellRegion .block "topic" (spellSlot "subject")
  base := some memo.source

theorem memo_answered :
    (∃ t, result (resolve memo reply) {} = .ok t ∧ Finished t.source) ∧
      ∃ source, result answer.effectiveSource {} = .ok source ∧ Parses source := by
  have base : Finished memo.source := Clean.finished (by decide +kernel)
  have contents : ∀ entry ∈ reply.blocks, Clean entry.2 := by decide +kernel
  have sections : ∀ entry ∈ reply.sections, Clean entry.2.content := by decide +kernel
  have child : reply.Finished := {
    named := by decide +kernel
    blocks := fun entry member => (contents entry member).finished
    sections := fun entry member => (sections entry member).finished }
  refine ⟨inheritance_closed.1 memo reply base child {}, inheritance_closed.2 answer (by decide +kernel) ?_ ?_ {}⟩
  · have found : extractBlocks answer.source = .ok [("topic", spellSlot "subject")] := by decide +kernel
    intro blocks found'
    cases found.symm.trans found'
    exact List.forall_mem_singleton.mpr (Clean.finished (by decide +kernel))
  · intro source named
    cases named
    exact base

/-- The beginning of a conditional. -/
def halfOpener : String :=
  "\x7b\x7b#if x"

/-- The beginning of a call. -/
def halfCall : String :=
  "\x7b\x7bf("

/-- That all texts are read does not suffice. The beginning of a marker in the contents of a block or a section
takes in the closing marker of the region, and so does one in the base that the contents finish, or one in the
contents that the base of a template finishes. A block that is named as no region is has no opening marker when it
is appended. -/
theorem contents_break_out :
    (Parses (spellRegion .block "a" "") ∧ Parses halfOpener ∧
      (result (resolve { name := "base", source := spellRegion .block "a" "" }
        { name := "child", blocks := [("a", halfOpener)] }) {}).isOk = false) ∧
    (Parses (spellRegion .sect "a" "") ∧ Parses halfOpener ∧
      (result (resolve { name := "base", source := spellRegion .sect "a" "" }
        { name := "child", sections := [("a", ⟨halfOpener, .replace⟩)] }) {}).toOption.map (·.source) =
        some (spellRegion .sect "a" halfOpener) ∧
      ¬ Parses (spellRegion .sect "a" halfOpener)) ∧
    (Parses (halfCall ++ spellRegion .block "a" "") ∧ Parses (spellMarker "g()") ∧
      (result (resolve { name := "base", source := halfCall ++ spellRegion .block "a" "" }
        { name := "child", blocks := [("a", spellMarker "g()")] }) {}).isOk = false) ∧
    (Parses (spellRegion .block "a" halfCall) ∧ Parses (spellRegion .block "a" "" ++ spellMarker "g()") ∧
      (result (Template.effectiveSource
        { source := spellRegion .block "a" halfCall
          base := some (spellRegion .block "a" "" ++ spellMarker "g()") }) {}).toOption =
        some (spellRegion .block "a" halfCall ++ spellMarker "g()") ∧
      ¬ Parses (spellRegion .block "a" halfCall ++ spellMarker "g()")) ∧
    Parses "text" ∧ (result (resolve { name := "base", source := "" }
      { name := "child", blocks := [("a b", "text")] }) {}).isOk = false := by
  decide +kernel

end Inheritance

end Stencil
