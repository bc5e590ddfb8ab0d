import Stencil.Proofs.Assoc
import Stencil.Proofs.Markup.Substitution

/-!
Splicing blocks twice.

What two tables of blocks make of a text, one after the other, the merged table makes of it at once
(`spliceBlocks_merge`). Splicing into substituted parts is splicing into the parts with either new body
(`splice_substituteParts`), whether a new body replaces a block that has new bodies inside or stands in one that
is replaced.
-/

namespace Stencil.Markup

/-- The new body that a table has for a region. -/
def blockText (contents : Assoc String String) (r : Region) : Option (List Char) :=
  if r.kind == .block then (contents.get? r.name).map String.toList else none

theorem newBody_blocks (source : List Char) (contents : Assoc String String) :
    newBody source (onlyFor .block fun r _ => contents.get? r.name) = blockText contents := by
  funext r
  unfold newBody onlyFor blockText
  split <;> rfl

/-- Splicing blocks writes the tree of the text with the contents of the table. -/
theorem spliceBlocks_eq {source : String} {parts : List Concrete} (cut : scan source.toList = piecesOf parts)
    (contents : Assoc String String) :
    ∃ lost, spliceBlocks source contents =
      .ok (String.ofList (spliceParts (blockText contents) 0 parts), lost) := by
  obtain ⟨splicing, spliced, text⟩ := replaceRegions_eq .block cut fun r _ => contents.get? r.name
  rw [newBody_blocks] at text
  refine ⟨contents.keys.filter fun name => !splicing.replaced.contains name, ?_⟩
  rw [← text]
  simp only [spliceBlocks, spliced]
  rfl

mutual

theorem Concrete.substitute_none (part : Concrete) (start : Nat) :
    part.substitute (fun _ => none) start = part := by
  cases part with
  | text s => rfl
  | leaf mark node stands => rfl
  | block opening opener closer opens closes inside =>
    simp only [Concrete.substitute, Option.bind_fun_none, Option.getD_none, substituteParts_none inside]
  | choice condition opener turn closer opens turns closes accepted rejected =>
    simp only [Concrete.substitute, substituteParts_none accepted, substituteParts_none rejected]

theorem substituteParts_none (parts : List Concrete) (start : Nat) :
    substituteParts (fun _ => none) start parts = parts := by
  cases parts with
  | nil => rfl
  | cons part rest => rw [substituteParts, part.substitute_none, substituteParts_none rest]

end

/-- New bodies that do not depend on where a region lies. -/
def IgnoresSpan (texts : Region → Option (List Char)) : Prop :=
  ∀ kind name span span', texts ⟨kind, name, span⟩ = texts ⟨kind, name, span'⟩

theorem blockText_ignoresSpan (contents : Assoc String String) : IgnoresSpan (blockText contents) :=
  fun _ _ _ _ => rfl

/-- What regions get at once, if they get bodies as parts first and bodies as texts then, which leave the parts
alone. -/
structure Composed (upper both : Region → Option (List Char)) (change : Region → Option (List Concrete))
    (rs : List Region) : Prop where
  same : ∀ r ∈ rs, both r = (upper r).or ((change r).map fun parts => written (piecesOf parts))
  alone : ∀ r ∈ rs, ∀ parts, change r = some parts → ∀ start, spliceParts upper start parts = written (piecesOf parts)

section Compose

variable {upper both : Region → Option (List Char)} {change : Region → Option (List Concrete)}

theorem Composed.left {first second : List Region} (composed : Composed upper both change (first ++ second)) :
    Composed upper both change first :=
  ⟨fun r member => composed.same r (List.mem_append_left _ member),
    fun r member => composed.alone r (List.mem_append_left _ member)⟩

theorem Composed.right {first second : List Region} (composed : Composed upper both change (first ++ second)) :
    Composed upper both change second :=
  ⟨fun r member => composed.same r (List.mem_append_right _ member),
    fun r member => composed.alone r (List.mem_append_right _ member)⟩

mutual

theorem Concrete.splice_substitute (free : IgnoresSpan upper) (part : Concrete) (start start' : Nat)
    (composed : Composed upper both change (part.node start).regions) :
    (part.substitute change start).splice upper start' = part.splice both start := by
  cases part with
  | text s => rfl
  | leaf mark node stands => rfl
  | block opening opener closer opens closes inside =>
    rw [Concrete.node, Opening.regions_node] at composed
    have ih := splice_substituteParts free inside _ (start' + opener.spelling.length) composed.right
    rw [Concrete.substitute, Concrete.splice, Concrete.splice]
    cases opening with
    | conditional condition => simp only [Opening.region?, Option.bind_none, Option.getD_none, ih]
    | loop array item => simp only [Opening.region?, Option.bind_none, Option.getD_none, ih]
    | region kind name =>
      have here := List.mem_singleton_self (⟨kind, name, spanFrom start opener closer (piecesOf inside)⟩ : Region)
      have made := composed.left.same _ here
      have alone := composed.left.alone _ here
      simp only [Opening.region?, Option.bind_some, made]
      rw [free kind name _ (spanFrom start opener closer (piecesOf inside))]
      -- The upper body wins, whether the lower one stands in its way or not.
      cases upper ⟨kind, name, spanFrom start opener closer (piecesOf inside)⟩ with
      | some text => rfl
      | none =>
        cases new : change ⟨kind, name, spanFrom start opener closer (piecesOf inside)⟩ with
        | none => simp only [Option.getD_none, Option.map_none, Option.or_none, ih]
        | some parts => simp [alone parts new]
  | choice condition opener turn closer opens turns closes accepted rejected =>
    rw [Concrete.node, Node.regions] at composed
    rw [Concrete.substitute, Concrete.splice, Concrete.splice,
      splice_substituteParts free accepted _ _ composed.left, splice_substituteParts free rejected _ _ composed.right]

/-- Splicing into parts with new parts is splicing into the parts. -/
theorem splice_substituteParts (free : IgnoresSpan upper) (parts : List Concrete) (start start' : Nat)
    (composed : Composed upper both change (regionsOf (nodesFrom start parts))) :
    spliceParts upper start' (substituteParts change start parts) = spliceParts both start parts := by
  cases parts with
  | nil => rfl
  | cons part rest =>
    rw [substituteParts, spliceParts, spliceParts, part.splice_substitute free start start' composed.left,
      splice_substituteParts free rest _ _ composed.right]

end

end Compose

/-- Splicing blocks leaves text alone that has none. -/
theorem splice_blockless {parts : List Concrete} (blockless : ∀ r ∈ regionsOf (nodesFrom 0 parts), r.kind ≠ .block)
    (contents : Assoc String String) (start : Nat) :
    spliceParts (blockText contents) start parts = written (piecesOf parts) := by
  have unchanged : SameTexts (blockText contents) (fun _ => none) (regionsOf (nodesFrom 0 parts)) := by
    intro r member
    rw [blockText, if_neg (mt beq_iff_eq.mp (blockless r member))]
    rfl
  have composed : Composed (blockText contents) (blockText contents) (fun _ => none) (regionsOf (nodesFrom 0 parts)) :=
    ⟨fun r _ => (Option.or_none).symm, fun _ _ _ new => nomatch new⟩
  have moved := splice_substituteParts (blockText_ignoresSpan contents) parts 0 start composed
  have same := written_substituteParts parts 0 unchanged
  rw [substituteParts_none] at moved same
  rw [moved, same]

theorem blockText_merge {m upper : Assoc String String} (distinct : upper.keys.Nodup) (r : Region) :
    blockText (m.merge upper) r = (blockText upper r).or (blockText m r) := by
  unfold blockText
  split
  · rw [Assoc.get?_merge distinct, Option.map_or]
  · rfl

theorem kind_ne_of_findRegionsOf {kind : RegionKind} {source : String} {nodes : List Node}
    (read : parse {} source = .ok nodes) (found : findRegionsOf kind source = .ok []) :
    ∀ r ∈ regionsOf nodes, r.kind ≠ kind := by
  simp only [findRegionsOf, findRegions, read] at found
  have empty : (regionsOf nodes).filter (·.kind == kind) = [] := Except.ok.inj found
  intro r member same
  exact List.filter_eq_nil_iff.mp empty r member (beq_iff_eq.mpr same)

theorem parse_of_toOption {source : String} {nodes : List Node} (read : (parse {} source).toOption = some nodes) :
    parse {} source = .ok nodes := by
  cases run : parse {} source with
  | error e => rw [run] at read; cases read
  | ok nodes' => rw [run] at read; cases read; rfl

/-- The contents of a table as parts: finished texts without blocks are left alone when blocks are spliced. -/
theorem exists_blocks {lower : Assoc String String}
    (contents : ∀ entry ∈ lower, Clean entry.2 ∧ findRegionsOf .block entry.2 = .ok []) (rs : List Region) :
    ∃ change, SameTexts (blockText lower) change rs ∧ LegibleBodies change rs ∧
      ∀ r ∈ rs, ∀ parts, change r = some parts → ∀ upper start,
        spliceParts (blockText upper) start parts = written (piecesOf parts) := by
  have named : ∀ r new, onlyFor .block (fun r _ => lower.get? r.name) r (r.body []) = some new →
      Clean new ∧ findRegionsOf .block new = .ok [] := by
    intro r new made
    rw [onlyFor, Option.ite_none_right_eq_some] at made
    obtain ⟨entry, member, rfl⟩ := Assoc.mem_of_get? made.2
    exact contents entry member
  obtain ⟨change, texts, trees, bodies⟩ := exists_bodies fun r (_ : r ∈ rs) new made => (named r new made).1.finished
  rw [newBody_blocks] at texts
  refine ⟨change, texts, bodies, fun r member parts changed => splice_blockless ?_⟩
  have tree := trees r member
  rw [changed, Option.map_some, newTree, Option.bind_eq_some_iff] at tree
  obtain ⟨new, made, read⟩ := tree
  exact kind_ne_of_findRegionsOf (parse_of_toOption read) (named r new made).2

/-- Splicing a table of blocks into a clean text and then another table gives the text that the merged table
gives, if the contents of the first are clean and have no blocks. -/
theorem spliceBlocks_merge {source : String} {lower upper : Assoc String String} (clean : Clean source)
    (contents : ∀ entry ∈ lower, Clean entry.2 ∧ findRegionsOf .block entry.2 = .ok [])
    (distinct : upper.keys.Nodup) :
    ∃ middle final lost lost' lost'', spliceBlocks source lower = .ok (middle, lost) ∧
      spliceBlocks middle upper = .ok (final, lost') ∧
      spliceBlocks source (lower.merge upper) = .ok (final, lost'') := by
  obtain ⟨parts, cut, legible⟩ := clean.finished.parts
  obtain ⟨change, texts, bodies, alone⟩ := exists_blocks contents (regionsOf (nodesFrom 0 parts))
  have composed : Composed (blockText upper) (blockText (lower.merge upper)) change
      (regionsOf (nodesFrom 0 parts)) := by
    refine ⟨fun r member => ?_, fun r member parts changed => alone r member parts changed upper⟩
    rw [blockText_merge distinct, texts r member]
  have cut' : scan (String.ofList (spliceParts (blockText lower) 0 parts)).toList =
      piecesOf (substituteParts change 0 parts) := by
    rw [String.toList_ofList, ← written_substituteParts parts 0 texts, (legible.substitute bodies).scan_written]
  obtain ⟨lost, first⟩ := spliceBlocks_eq cut lower
  obtain ⟨lost', second⟩ := spliceBlocks_eq cut' upper
  obtain ⟨lost'', whole⟩ := spliceBlocks_eq cut (lower.merge upper)
  rw [splice_substituteParts (blockText_ignoresSpan upper) parts 0 0 composed] at second
  exact ⟨_, _, lost, lost', lost'', first, second, whole⟩

/-- A page with a block in a block. -/
def page : String :=
  spellRegion .block "head" (spellRegion .block "logo" "*") ++ spellSlot "body" ++ spellRegion .block "foot" "-" ++
    spellRegion .block "logo" "+"

/-- Contents for blocks of the page. -/
def branded : Assoc String String :=
  [("logo", spellSlot "brand"), ("foot", "end")]

/-- Other contents, among them the beginning of a marker. -/
def covered : Assoc String String :=
  [("foot", "\x7b\x7b#if"), ("head", "top")]

theorem page_spliced :
    ∃ middle final lost lost' lost'', spliceBlocks page branded = .ok (middle, lost) ∧
      spliceBlocks middle covered = .ok (final, lost') ∧
      spliceBlocks page (branded.merge covered) = .ok (final, lost'') := by
  have contents : ∀ entry ∈ branded, Clean entry.2 ∧ findRegionsOf .block entry.2 = .ok [] := by decide +kernel
  exact spliceBlocks_merge (by decide +kernel) contents (by decide +kernel)

end Stencil.Markup
