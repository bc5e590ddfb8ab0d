import Stencil.Inheritance.Resolve
import Stencil.Proofs.Markup.Finished
import Stencil.Proofs.Markup.Nesting
import Stencil.Proofs.Template.Effect

/-!
Which overrides of a child take effect.

Blocks and sections are replaced by name, from the outside in. A block of a child counts as undeclared if the base
has none of that name in the open; one that lies in another block that the child replaces is not seen there
(`undeclared_iff`). A section is merged exactly where no other section that the child changes is around it, whatever
the mode of that one (`merged_iff`).
-/

namespace Stencil

open Markup

theorem Markup.mem_leftover {names replaced : List String} {name : String} :
    name ∈ names.filter (fun name => !replaced.contains name) ↔ name ∈ names ∧ name ∉ replaced := by
  rw [List.mem_filter, Bool.not_eq_true', List.contains_eq_mem, decide_eq_false_iff_not]

/-- Splicing blocks leaves over the names that no block in the open has. -/
theorem Markup.spliceBlocks_lost {source : String} {nodes : List Node} (read : parse {} source = .ok nodes)
    (contents : Assoc String String) :
    ∃ text lost, spliceBlocks source contents = .ok (text, lost) ∧
      ∀ name, name ∈ lost ↔ name ∈ contents.keys ∧ ¬ Exposed .block contents.keys nodes name := by
  obtain ⟨splicing, _, spliced, _, _, replaced⟩ := replaceRegions_named .block read
    (fun r _ => contents.get? r.name) fun r _ => Assoc.isSome_get?_iff
  refine ⟨String.ofList splicing.text, contents.keys.filter fun name => !splicing.replaced.contains name, ?_,
    fun name => mem_leftover.trans (and_congr_right fun member => not_congr (replaced name member))⟩
  simp only [spliceBlocks, spliced]
  rfl

namespace Inheritance

/-- The new body of a region in a text, if the sections that a table names are merged. -/
def mergedBody (source : List Char) (sections : Assoc String SectionChange) : Region → List Char :=
  bodyAfter source fun r body => (sections.get? r.name).map (mergeSection body)

/-- Merging sections rewrites those that a table names and that lie in the open, and leaves over the names that no
section in the open has. -/
theorem mergeSections_places {source : String} {nodes : List Node} (read : parse {} source = .ok nodes)
    (sections : Assoc String SectionChange) :
    ∃ text lost places, mergeSections source sections = .ok (text, lost) ∧
      text.toList = rewritten source.toList (mergedBody source.toList sections) 0 places ∧
      (∀ r, r ∈ places ↔
        r ∈ regionsOfKind .sect nodes ∧ r.name ∈ sections.keys ∧ ¬ Covered .sect sections.keys nodes r) ∧
      ∀ name, name ∈ lost ↔ name ∈ sections.keys ∧ ¬ Exposed .sect sections.keys nodes name := by
  have by_name (r : Region) (body : String) :
      ((sections.get? r.name).map (mergeSection body)).isSome = true ↔ r.name ∈ sections.keys := by
    rw [Option.isSome_map, Assoc.isSome_get?_iff]
  obtain ⟨splicing, places, spliced, text, place, replaced⟩ := replaceRegions_named .sect read _ by_name
  refine ⟨String.ofList splicing.text, sections.keys.filter fun name => !splicing.replaced.contains name, places,
    ?_, ?_, place,
    fun name => mem_leftover.trans (and_congr_right fun member => not_congr (replaced name member))⟩
  · simp only [mergeSections, spliced]
    rfl
  · rw [String.toList_ofList, text]
    rfl

/-- The event that a child has a block that its base does not have. -/
def undeclaredEvent (child name : String) : Event :=
  ⟨.warning, "block_not_in_base", [("child", .str child), ("block", .str name)]⟩

/-- The event that a child has sections that are merged nowhere, if it has any. -/
def unmergedEvents (child : String) (names : List String) : List Event :=
  if names.isEmpty then []
  else [⟨.warning, "section_not_in_base", [("child", .str child), ("sections", .ofStrings names)]⟩]

theorem reportUndeclared_run (child name : String) (s : Session) :
    reportUndeclared child name s =
      (.ok (), { s with events := s.events ++ [undeclaredEvent child name]
                        notices := s.notices ++ [undeclaredNotice name] }) :=
  rfl

theorem forM_reportUndeclared_run (child : String) (names : List String) (s : Session) :
    names.forM (reportUndeclared child) s =
      (.ok (), { s with events := s.events ++ names.map (undeclaredEvent child)
                        notices := s.notices ++ names.map undeclaredNotice }) := by
  induction names generalizing s with
  | nil =>
    rw [List.map_nil, List.map_nil, List.append_nil, List.append_nil]
    rfl
  | cons name names ih =>
    have first : (name :: names).forM (reportUndeclared child) =
      reportUndeclared child name >>= fun _ => names.forM (reportUndeclared child) := rfl
    rw [first, bind_run, result, after, reportUndeclared_run]
    simp only [ih, List.map_cons, List.append_assoc, List.singleton_append]

/-- What a child makes of its base: the blocks are spliced, those left over are written at the end with a notice and
an event for each, and then the sections are merged, with an event for those left over. -/
theorem applyChild_run {source merged : String} {child : Child} {s : Session}
    (made : result (applyChild source child) s = .ok merged) :
    ∃ spliced undeclared unmerged,
      spliceBlocks source child.blocks = .ok (spliced, undeclared) ∧
      mergeSections (appendBlocks spliced child.blocks undeclared) child.sections = .ok (merged, unmerged) ∧
      after (applyChild source child) s =
        { s with
          events := s.events ++ undeclared.map (undeclaredEvent child.name) ++ unmergedEvents child.name unmerged
          notices := s.notices ++ undeclared.map undeclaredNotice } := by
  unfold applyChild at made ⊢
  cases splicing : spliceBlocks source child.blocks with
  | error e =>
    rw [splicing] at made
    cases made
  | ok first =>
    obtain ⟨spliced, undeclared⟩ := first
    cases merging : mergeSections (appendBlocks spliced child.blocks undeclared) child.sections with
    | error e =>
      simp only [splicing, merging, liftMarkup, Run.ofExcept, pure_bind] at made
      obtain ⟨_, _, failed⟩ := result_bind_eq_ok.mp made
      cases failed
    | ok second =>
      obtain ⟨text, unmerged⟩ := second
      -- The reports go through, and then it depends on what is left over whether there is one more.
      have ran := forM_reportUndeclared_run child.name undeclared s
      have reported : after (undeclared.forM (reportUndeclared child.name)) s = _ := congrArg Prod.snd ran
      simp only [splicing, merging, liftMarkup, Run.ofExcept, pure_bind] at made ⊢
      rw [result_bind_of_ok (congrArg Prod.fst ran)] at made
      rw [after_bind_of_ok (congrArg Prod.fst ran), reported]
      cases unmerged with
      | nil =>
        cases made
        refine ⟨spliced, undeclared, [], rfl, merging, ?_⟩
        have silent : unmergedEvents child.name [] = [] := rfl
        rw [silent, List.append_nil]
        rfl
      | cons name names =>
        cases made
        exact ⟨spliced, undeclared, name :: names, rfl, merging, rfl⟩

theorem parse_of_mergeSections {source merged : String} {sections : Assoc String SectionChange} {lost : List String}
    (merging : mergeSections source sections = .ok (merged, lost)) : ∃ nodes, parse {} source = .ok nodes := by
  unfold mergeSections replaceRegions findRegionsOf findRegions at merging
  cases read : parse {} source with
  | ok nodes => exact ⟨nodes, rfl⟩
  | error e =>
    rw [read] at merging
    cases merging

/-- A block of a child counts as undeclared, and is written at the end with a notice and an event, exactly if the
base has no block of that name in the open. Likewise for the names that splicing leaves over. So those are the names
that the base does not have, if and only if none that it has lies only in other blocks that are replaced. -/
theorem undeclared_iff {source : String} {nodes : List Node} (read : parse {} source = .ok nodes) :
    (∀ {child : Child} {s : Session} {merged : String}, result (applyChild source child) s = .ok merged →
      ∃ spliced undeclared unmerged,
        spliceBlocks source child.blocks = .ok (spliced, undeclared) ∧
        mergeSections (appendBlocks spliced child.blocks undeclared) child.sections = .ok (merged, unmerged) ∧
        after (applyChild source child) s =
          { s with
            events := s.events ++ undeclared.map (undeclaredEvent child.name) ++ unmergedEvents child.name unmerged
            notices := s.notices ++ undeclared.map undeclaredNotice } ∧
        (∀ name, name ∈ undeclared ↔
          name ∈ child.blocks.keys ∧ ¬ Exposed .block child.blocks.keys nodes name) ∧
        ((∀ name ∈ child.blocks.keys, name ∈ undeclared ↔ ¬ Declares .block nodes name) ↔
          AllExposed .block child.blocks.keys nodes)) ∧
    ∀ contents : Assoc String String, ∃ text lost, spliceBlocks source contents = .ok (text, lost) ∧
      (∀ name, name ∈ lost ↔ name ∈ contents.keys ∧ ¬ Exposed .block contents.keys nodes name) ∧
      ((∀ name ∈ contents.keys, name ∈ lost ↔ ¬ Declares .block nodes name) ↔
        AllExposed .block contents.keys nodes) := by
  constructor
  · intro child s merged made
    obtain ⟨spliced, undeclared, unmerged, splicing, merging, events⟩ := applyChild_run made
    obtain ⟨text, lost, splicing', leftover⟩ := spliceBlocks_lost read child.blocks
    cases Except.ok.inj (splicing.symm.trans splicing')
    exact ⟨spliced, undeclared, unmerged, splicing, merging, events, leftover, not_declares_iff_allExposed leftover⟩
  · intro contents
    obtain ⟨text, lost, splicing, leftover⟩ := spliceBlocks_lost read contents
    exact ⟨text, lost, splicing, leftover, not_declares_iff_allExposed leftover⟩

/-- A base with a block in a block, and the inner one once more. -/
def form : String :=
  spellRegion .block "frame" ("<" ++ spellRegion .block "label" "?" ++ ">") ++ spellRegion .block "label" "."

/-- Contents for both blocks, and for one that the base does not have. -/
def filling : Child where
  name := "filling"
  blocks := [("frame", "-"), ("label", "L"), ("seal", "S")]

theorem form_undeclared :
    ∃ nodes merged, parse {} form = .ok nodes ∧ result (applyChild form filling) {} = .ok merged ∧
      ∃ undeclared : List String, (∀ name, name ∈ undeclared ↔
        name ∈ filling.blocks.keys ∧ ¬ Exposed .block filling.blocks.keys nodes name) ∧
      (after (applyChild form filling) {}).notices = undeclared.map undeclaredNotice := by
  obtain ⟨nodes, read⟩ : Parses form := by decide +kernel
  have made : result (applyChild form filling) {} = .ok
      (spellRegion .block "frame" "-" ++ spellRegion .block "label" "L" ++ "\n" ++ spellRegion .block "seal" "S") := by
    decide +kernel
  obtain ⟨_, undeclared, _, _, _, run, leftover, _⟩ := (undeclared_iff read).1 made
  exact ⟨nodes, _, read, made, undeclared, leftover, by rw [run]; rfl⟩

/-- A base with a block in a block. -/
def box : String :=
  spellRegion .block "a" (spellRegion .block "b" "")

/-- Contents for both blocks of the box. -/
def boxFilling : Child where
  name := "child"
  blocks := [("a", "x"), ("b", "y")]

/-- The inner block of the box is declared, but counts as undeclared if both blocks are replaced. -/
theorem covered_block_undeclared :
    ∃ nodes ∈ (parse {} box).toOption, Declares .block nodes "b" ∧
      result (applyChild box boxFilling) {} =
        .ok (spellRegion .block "a" "x" ++ "\n" ++ spellRegion .block "b" "y") ∧
      (after (applyChild box boxFilling) {}).notices = [undeclaredNotice "b"] ∧
      (after (applyChild box boxFilling) {}).events.map (·.name) = ["block_not_in_base"] ∧
      spliceBlocks box boxFilling.blocks = .ok (spellRegion .block "a" "x", ["b"]) := by
  decide +kernel

/-- The names of the sections that are replaced, not extended. -/
def replacedNames (sections : Assoc String SectionChange) : List String :=
  sections.keys.filter fun name => (sections.get? name).any (·.mode == .replace)

/-- The sections of a child are merged into the text with the spliced blocks exactly where they lie in the open, and
those that lie nowhere in the open are reported. So every change takes effect wherever it is not inside of a section
that is replaced, if and only if changed sections lie in no others but such ones; and only names that the text does not
have are reported, if and only if it has each changed section in the open. -/
theorem merged_iff {source : String} {child : Child} {s : Session} {merged : String}
    (made : result (applyChild source child) s = .ok merged) :
    ∃ spliced undeclared unmerged nodes places,
      spliceBlocks source child.blocks = .ok (spliced, undeclared) ∧
      parse {} (appendBlocks spliced child.blocks undeclared) = .ok nodes ∧
      merged.toList = rewritten (appendBlocks spliced child.blocks undeclared).toList
        (mergedBody (appendBlocks spliced child.blocks undeclared).toList child.sections) 0 places ∧
      (∀ r, r ∈ places ↔ r ∈ regionsOfKind .sect nodes ∧ r.name ∈ child.sections.keys ∧
        ¬ Covered .sect child.sections.keys nodes r) ∧
      (after (applyChild source child) s).events =
        s.events ++ undeclared.map (undeclaredEvent child.name) ++ unmergedEvents child.name unmerged ∧
      (∀ name, name ∈ unmerged ↔
        name ∈ child.sections.keys ∧ ¬ Exposed .sect child.sections.keys nodes name) ∧
      ((∀ r ∈ regionsOfKind .sect nodes, r.name ∈ child.sections.keys →
          ¬ Covered .sect (replacedNames child.sections) nodes r → r ∈ places) ↔
        ∀ r ∈ regionsOfKind .sect nodes, r.name ∈ child.sections.keys →
          Covered .sect child.sections.keys nodes r → Covered .sect (replacedNames child.sections) nodes r) ∧
      ((∀ name ∈ unmerged, ¬ Declares .sect nodes name) ↔ AllExposed .sect child.sections.keys nodes) := by
  obtain ⟨spliced, undeclared, unmerged, splicing, merging, run⟩ := applyChild_run made
  obtain ⟨nodes, read⟩ := parse_of_mergeSections merging
  obtain ⟨text, lost, places, merging', rewrites, place, leftover⟩ := mergeSections_places read child.sections
  cases Except.ok.inj (merging.symm.trans merging')
  refine ⟨spliced, undeclared, unmerged, nodes, places, splicing, read, rewrites, place, by rw [run], leftover, ?_, ?_⟩
  · constructor
    · intro all r member named covered
      by_contra apart
      exact ((place r).mp (all r member named apart)).2.2 covered
    · intro only r member named apart
      exact (place r).mpr ⟨member, named, fun covered => apart (only r member named covered)⟩
  · rw [← not_declares_iff_allExposed leftover]
    constructor
    · intro missing name member
      refine ⟨missing name, fun absent => (leftover name).mpr ⟨member, fun exposed => absent exposed.declares⟩⟩
    · intro agree name member
      exact (agree name ((leftover name).mp member).1).mp member

/-- A base with a section in a section, and a block in the inner one. -/
def sheet : String :=
  spellRegion .sect "page" ("<" ++ spellRegion .sect "notes" (spellRegion .block "text" "?") ++ ">")

/-- New text with a section of its own, and changes for that section and one that nothing has. -/
def remark : Child where
  name := "remark"
  blocks := [("text", spellRegion .sect "quote" "q")]
  sections := [("quote", ⟨"Q", .append⟩), ("seal", ⟨"S", .replace⟩)]

theorem sheet_merged :
    ∃ merged, result (applyChild sheet remark) {} = .ok merged ∧
      ∃ nodes unmerged, (∀ name, name ∈ unmerged ↔
        name ∈ remark.sections.keys ∧ ¬ Exposed .sect remark.sections.keys nodes name) ∧
      (after (applyChild sheet remark) {}).events = unmergedEvents "remark" unmerged := by
  have made : result (applyChild sheet remark) {} = .ok (spellRegion .sect "page" ("<" ++ spellRegion .sect "notes"
      (spellRegion .block "text" (spellRegion .sect "quote" "q\nQ")) ++ ">")) := by
    decide +kernel
  obtain ⟨spliced, undeclared, unmerged, nodes, places, splicing, _, _, _, events, leftover, _⟩ := merged_iff made
  have all : spliceBlocks sheet remark.blocks = .ok (spellRegion .sect "page" ("<" ++ spellRegion .sect "notes"
      (spellRegion .block "text" (spellRegion .sect "quote" "q")) ++ ">"), []) := by
    decide +kernel
  cases Except.ok.inj (splicing.symm.trans all)
  exact ⟨_, made, nodes, unmerged, leftover, events⟩

/-- A base with a section in a section. -/
def card : String :=
  spellRegion .sect "a" ("x" ++ spellRegion .sect "b" "y")

/-- Changes for both sections of the card. The outer one is extended. -/
def cardChanges : Child where
  name := "child"
  sections := [("a", ⟨"1", .append⟩), ("b", ⟨"2", .replace⟩)]

/-- The change to the inner section of the card is lost, and reported as if there were no such section. -/
theorem covered_section_unmerged :
    ∃ nodes ∈ (parse {} card).toOption, Declares .sect nodes "b" ∧
      result (applyChild card cardChanges) {} =
        .ok (spellRegion .sect "a" ("x" ++ spellRegion .sect "b" "y" ++ "\n1")) ∧
      (after (applyChild card cardChanges) {}).events.map (·.name) = ["section_not_in_base"] := by
  decide +kernel

end Inheritance

end Stencil
