import Stencil.Proofs.Inheritance.Closure
import Stencil.Proofs.Markup.Visit
import Stencil.Proofs.Template.Spares

/-!
Templates that switch conditionals and loops off.

The text that is rendered is read as the flags say. Where there is a base, two texts have been read before: the
template's own, for its blocks, and that of the base, for the places of the blocks. There every marker is in force,
whatever the flags say, so a stray marker that is switched off is still refused (`stray_closer_refused`).
`plain_refused_iff` says exactly when such templates are refused.
-/

namespace Stencil

open Markup

namespace Markup

theorem extractBlocks_returns_iff {source : String} :
    (∃ blocks, extractBlocks source = .ok blocks) ↔ Parses source := by
  unfold extractBlocks findRegionsOf findRegions Parses
  cases parse {} source <;> simp [bind, Except.bind, pure, Except.pure]

theorem spliceBlocks_returns_iff {source : String} {contents : Assoc String String} :
    (∃ outcome, spliceBlocks source contents = .ok outcome) ↔ Parses source := by
  unfold spliceBlocks replaceRegions findRegionsOf findRegions Parses
  cases parse {} source <;> simp [bind, Except.bind, pure, Except.pure]

end Markup

theorem liftMarkup_eq_ok {α : Type} {r : Except MarkupError α} {a : α} : liftMarkup r = .ok a ↔ r = .ok a := by
  cases r <;> simp [liftMarkup]

/-- A result that is a failure at markers. -/
def Refused {α : Type} (r : Except Failure α) : Prop :=
  ∃ error, r = .error (.markup error)

instance {α : Type} (r : Except Failure α) : Decidable (Refused r) :=
  decidable_of_iff ((match r with | .error (.markup _) => true | _ => false) = true) <| by
    unfold Refused
    split
    · simp
    · rename_i other
      simpa using other

theorem refused_iff_of_avoids {α : Type} {r : Except Failure α} (only : Avoids (fun e => ¬ e.IsMarkup) r) :
    Refused r ↔ ¬ ∃ a, r = .ok a := by
  cases r with
  | ok a => simp [Refused]
  | error e =>
    obtain ⟨error⟩ := not_not.mp (only e rfl)
    simp [Refused]

namespace Template

/-- The base that a template inherits from. There is none if inheritance is switched off. -/
def inherited (t : Template) : Option String :=
  if t.flags.inheritance then t.base else none

variable {t : Template} {base : String}

theorem inherited_eq_some_iff : t.inherited = some base ↔ t.flags.inheritance = true ∧ t.base = some base := by
  rw [inherited, Option.ite_none_right_eq_some]

theorem effectiveSource_of_inherited_eq_none (alone : t.inherited = none) : t.effectiveSource = pure t.source := by
  unfold effectiveSource
  split
  · rename_i source on named
    cases alone.symm.trans (inherited_eq_some_iff.mpr ⟨on, named⟩)
  · rfl

/-- A template with a base has a text to render exactly if its own text and that of the base can be read with every
marker in force. -/
theorem effectiveSource_returns_iff (inherits : t.inherited = some base) (s : Session) :
    (∃ text, result t.effectiveSource s = .ok text) ↔ Parses t.source ∧ Parses base := by
  obtain ⟨on, named⟩ := inherited_eq_some_iff.mp inherits
  unfold effectiveSource
  simp only [on, named, result_reporting]
  constructor
  · rintro ⟨text, ok⟩
    obtain ⟨blocks, found, ok⟩ := result_bind_eq_ok.mp ok
    obtain ⟨outcome, splicing, _⟩ := result_bind_eq_ok.mp ok
    rw [result_ofExcept, liftMarkup_eq_ok] at found splicing
    exact ⟨extractBlocks_returns_iff.mp ⟨blocks, found⟩, spliceBlocks_returns_iff.mp ⟨outcome, splicing⟩⟩
  · rintro ⟨own, other⟩
    obtain ⟨blocks, found⟩ := extractBlocks_returns_iff.mpr own
    obtain ⟨⟨spliced, unmatched⟩, splicing⟩ := spliceBlocks_returns_iff.mpr other
    rw [result_bind_of_ok ((result_ofExcept _ s).trans (liftMarkup_eq_ok.mpr found))]
    rw [result_bind_of_ok ((result_ofExcept _ _).trans (liftMarkup_eq_ok.mpr splicing))]
    cases unmatched with
    | nil => exact ⟨spliced, rfl⟩
    | cons name rest => exact ⟨spliced, rfl⟩

/-- The text that a template renders is refused exactly if the template inherits from a base and its own text or that
of the base cannot be read with every marker in force. -/
theorem effectiveSource_refused_iff (t : Template) (s : Session) :
    Refused (result t.effectiveSource s) ↔ ∃ base, t.inherited = some base ∧ ¬ (Parses t.source ∧ Parses base) := by
  rw [refused_iff_of_avoids (t.markup_of_effectiveSource s)]
  cases inherits : t.inherited with
  | none =>
    rw [effectiveSource_of_inherited_eq_none inherits]
    simp only [reduceCtorEq, false_and, exists_false, iff_false, not_not]
    exact ⟨t.source, rfl⟩
  | some base => simp [effectiveSource_returns_iff inherits]

/-- The tree of a template is read exactly if there is a text to render that is read as the flags say. -/
theorem tree_returns_iff (t : Template) (s : Session) :
    (∃ nodes, t.tree = .ok nodes) ↔
      ∃ text, result t.effectiveSource s = .ok text ∧ ∃ nodes, parse t.features text = .ok nodes := by
  rw [← t.result_nodes s, nodes]
  simp only [result_bind_eq_ok, result_ofExcept, liftMarkup_eq_ok]
  constructor
  · rintro ⟨nodes, text, ok, read⟩
    exact ⟨text, ok, nodes, read⟩
  · rintro ⟨text, ok, nodes, read⟩
    exact ⟨nodes, text, ok, read⟩

/-- A rendering is refused exactly if the tree of the template is, provided the template's own functions fail in other
ways. -/
theorem render_refused_iff (own : ∀ entry ∈ t.functions, Function.Never Failure.IsMarkup entry.2)
    (overrides : Bindings) (s : Session) : Refused (result (t.render overrides) s) ↔ Refused t.tree := by
  constructor
  · rintro ⟨error, failed⟩
    exact ⟨error, tree_of_render nofun own failed (.intro error)⟩
  · rintro ⟨error, failed⟩
    refine ⟨error, ?_⟩
    rw [render, result_reporting]
    exact result_bind_of_error ((t.result_nodes s).trans failed) _

/-- A template that switches conditionals and loops off, and whose own regions are closed, can be refused only if it
inherits from a base: exactly if its own text or that of the base cannot be read with every marker in force, and in a
rendering also if the regions of the text that results are not closed. They are if the blocks taken from the template
are finished and so is the base. -/
theorem plain_refused_iff (plain : t.features = .plain) (paired : RegionsPaired t.source)
    (own : ∀ entry ∈ t.functions, Function.Never Failure.IsMarkup entry.2) (overrides : Bindings) (s : Session) :
    (Refused (result t.effectiveSource s) ↔
      ∃ base, t.inherited = some base ∧ ¬ (Parses t.source ∧ Parses base)) ∧
    (Refused (result (t.render overrides) s) ↔
      ∃ base, t.inherited = some base ∧
        ¬ (Parses t.source ∧ Parses base ∧
          ∀ text, result t.effectiveSource s = .ok text → RegionsPaired text)) ∧
    (Parses t.source → (∀ blocks, extractBlocks t.source = .ok blocks → ∀ entry ∈ blocks, Finished entry.2) →
      (∀ base, t.base = some base → Finished base) → ¬ Refused (result (t.render overrides) s)) := by
  have rendering : Refused (result (t.render overrides) s) ↔
      ¬ ∃ text, result t.effectiveSource s = .ok text ∧ RegionsPaired text := by
    rw [render_refused_iff own, refused_iff_of_avoids fun e failed => not_not.mpr (markup_of_tree failed),
      tree_returns_iff t s, plain]
    simp only [parses_plain_iff]
  refine ⟨t.effectiveSource_refused_iff s, ?_, ?_⟩
  · rw [rendering]
    cases inherits : t.inherited with
    | none =>
      rw [effectiveSource_of_inherited_eq_none inherits]
      simp only [reduceCtorEq, false_and, exists_false, iff_false, not_not]
      exact ⟨t.source, rfl, paired⟩
    | some base =>
      simp only [Option.some.injEq, exists_eq_left', ← and_assoc, ← effectiveSource_returns_iff inherits s]
      cases result t.effectiveSource s <;> simp
  · intro reads bodies based
    obtain ⟨text, ok, final⟩ := effectiveSource_returns reads bodies based s
    rw [rendering, not_not]
    exact ⟨text, ok, final.regionsPaired⟩

/-- A template whose conditionals are to be written as they are, in a block of its base. -/
def manual : Template where
  source := spellRegion .block "usage" ("Write " ++ spellBlock .conditional "late" "Sorry." ++ " to apologize.")
  flags := { conditionals := false, loops := false }
  base := some (spellRegion .block "usage" "" ++ spellSlot "version")

theorem manual_read :
    manual.features = .plain ∧ RegionsPaired manual.source ∧ ¬ Refused (result manual.effectiveSource {}) ∧
      ¬ Refused (result (manual.render []) {}) := by
  have paired : RegionsPaired manual.source := by decide +kernel
  have reads : Parses manual.source := by decide +kernel
  obtain ⟨source, _, rendering⟩ :=
    plain_refused_iff (t := manual) rfl paired (fun _ member => absurd member List.not_mem_nil) [] {}
  refine ⟨rfl, paired, ?_, rendering reads ?_ ?_⟩
  · rw [source]
    rintro ⟨base, named, unread⟩
    cases named
    exact unread ⟨reads, by decide +kernel⟩
  · have found : extractBlocks manual.source =
        .ok [("usage", "Write " ++ spellBlock .conditional "late" "Sorry." ++ " to apologize.")] := by decide +kernel
    intro blocks found'
    cases found.symm.trans found'
    exact List.forall_mem_singleton.mpr (Clean.finished (by decide +kernel))
  · intro base named
    cases named
    exact Clean.finished (by decide +kernel)

/-- A template that consists of the closing marker of a conditional, and has a base. -/
def leftover : Template where
  source := spellMarker "/if"
  flags := { conditionals := false, loops := false }
  base := some "text"

/-- A closing marker that is switched off is refused where there is a base. Without inheritance it is written as it
is. -/
theorem stray_closer_refused :
    leftover.features = .plain ∧ RegionsPaired leftover.source ∧ RegionsPaired "text" ∧
      Refused (result leftover.effectiveSource {}) ∧ Refused (result (leftover.render []) {}) ∧
      (result ((leftover.withFlags none none (some false)).render []) {}).toOption = some (spellMarker "/if") := by
  decide +kernel

end Template

end Stencil
