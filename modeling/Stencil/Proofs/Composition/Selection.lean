import Stencil.Proofs.Composition.History
import Stencil.Proofs.Composition.Verdict
import Stencil.Proofs.Template.Spares

/-!
The selection of templates.

In every composer that arises, the templates that are found applicable are those for which some rule holds, the best
first (`Selects`), and composing renders the first of them (`selection_correct`). All that is assumed of the engine for
expressions is that it is steady.
-/

namespace Stencil

open Stencil.Composition

namespace Composer

/-- What should be found applicable of given names, in order of registration, with the templates that they stand for:
each name for which some rule holds, once, at the highest priority of the rules that hold for it. The names with the
higher priority come first, and among equals those that were registered first. -/
structure Selects (tools : Tools) (names : List String) (template? : String → Option Template) (rules : List Rule)
    (clock : Nat) (context : Bindings) (found : List Candidate) : Prop where
  once : (found.map (·.name)).Nodup
  listed : ∀ name, name ∈ found.map (·.name) ↔ name ∈ names ∧ ∃ rule ∈ rules, rule.Holds tools clock context name
  template : ∀ a ∈ found, template? a.name = some a.template
  bound : ∀ a ∈ found, ∀ rule ∈ rules, rule.Holds tools clock context a.name → rule.priority ≤ a.priority
  attained : ∀ a ∈ found, ∃ rule ∈ rules, rule.Holds tools clock context a.name ∧ rule.priority = a.priority
  rules : ∀ a ∈ found, a.rules = (holding tools rules clock context a.name).map (·.name)
  sorted : found.Pairwise fun a b =>
    b.priority < a.priority ∨ a.priority = b.priority ∧ names.idxOf a.name < names.idxOf b.name

theorem highest_le_iff {first bound : Int} {others : List Rule} :
    highest first others ≤ bound ↔ first ≤ bound ∧ ∀ rule ∈ others, rule.priority ≤ bound := by
  unfold highest
  induction others generalizing first with
  | nil => simp
  | cons rule rest ih => rw [List.foldl_cons, ih, List.forall_mem_cons, Int.max_le, and_assoc]

theorem highest_attained (first : Int) (others : List Rule) :
    highest first others = first ∨ ∃ rule ∈ others, rule.priority = highest first others := by
  unfold highest
  induction others generalizing first with
  | nil => exact .inl rfl
  | cons rule rest ih =>
    rcases ih (max first rule.priority) with same | ⟨other, member, same⟩
    · have choice : max first rule.priority = first ∨ max first rule.priority = rule.priority := by omega
      rcases choice with left | right
      · exact .inl (same.trans left)
      · exact .inr ⟨rule, List.mem_cons_self .., (same.trans right).symm⟩
    · exact .inr ⟨other, List.mem_cons_of_mem _ member, same⟩

/-- What makes a template a candidate. -/
structure Nominates (name : String) (template : Template) (order : Nat) (applied : List Rule) (a : Candidate) :
    Prop where
  name : a.name = name
  template : a.template = template
  order : a.order = order
  rules : a.rules = applied.map (·.name)
  bound : ∀ rule ∈ applied, rule.priority ≤ a.priority
  attained : ∃ rule ∈ applied, rule.priority = a.priority

theorem nominates_of_candidate? {name : String} {template : Template} {order : Nat} {applied : List Rule}
    {a : Candidate} (found : candidate? name template order applied = some a) :
    Nominates name template order applied a := by
  cases applied with
  | nil => cases found
  | cons first others =>
    cases found
    refine ⟨rfl, rfl, rfl, rfl, List.forall_mem_cons.mpr (highest_le_iff.mp (Int.le_refl _)), ?_⟩
    rcases highest_attained first.priority others with same | ⟨rule, member, same⟩
    · exact ⟨first, List.mem_cons_self .., same.symm⟩
    · exact ⟨rule, List.mem_cons_of_mem _ member, same⟩

variable {tools : Tools} {rules : List Rule} {clock : Nat} {context : Bindings} {templates : Assoc String Template}

theorem mem_holding {rule : Rule} {name : String} :
    rule ∈ holding tools rules clock context name ↔ rule ∈ rules ∧ rule.Holds tools clock context name := by
  simp [holding]

theorem names_listing (order : Nat) :
    (listing tools rules clock context order templates).map (·.name) =
      templates.keys.filter fun name => !(holding tools rules clock context name).isEmpty := by
  induction templates generalizing order with
  | nil => rfl
  | cons entry rest ih =>
    obtain ⟨name, template⟩ := entry
    rw [listing_cons, List.map_append, ih]
    cases held : holding tools rules clock context name <;> simp [candidate?, Assoc.keys, held]

theorem mem_names_listing {name : String} :
    name ∈ (listing tools rules clock context 0 templates).map (·.name) ↔
      name ∈ templates.keys ∧ ∃ rule ∈ rules, rule.Holds tools clock context name := by
  rw [names_listing, List.mem_filter, Bool.not_eq_true', List.isEmpty_eq_false_iff_exists_mem]
  simp only [mem_holding]

/-- A candidate is at its place in the order of registration. -/
theorem nominates_of_mem_listing {a : Candidate} (member : a ∈ listing tools rules clock context 0 templates) :
    templates[a.order]? = some (a.name, a.template) ∧
      Nominates a.name a.template a.order (holding tools rules clock context a.name) a := by
  obtain ⟨⟨⟨name, template⟩, place⟩, entry, found⟩ := List.mem_filterMap.mp member
  have nominates := nominates_of_candidate? found
  have here := List.mem_zipIdx_iff_getElem?.mp entry
  rw [nominates.order, nominates.name, nominates.template]
  exact ⟨here, nominates⟩

theorem idxOf_of_mem_listing (distinct : templates.keys.Nodup) {a : Candidate}
    (member : a ∈ listing tools rules clock context 0 templates) : templates.keys.idxOf a.name = a.order := by
  obtain ⟨within, here⟩ := List.getElem?_eq_some_iff.mp (nominates_of_mem_listing member).1
  have bound : a.order < templates.keys.length := by rwa [Assoc.keys, List.length_map]
  have same : templates.keys[a.order] = a.name := by simp only [Assoc.keys, List.getElem_map, here]
  rw [← same, distinct.idxOf_getElem]

theorem precedes_trans (a b c : Candidate) (first : precedes a b = true) (second : precedes b c = true) :
    precedes a c = true := by
  simp only [precedes, Bool.or_eq_true, Bool.and_eq_true, beq_iff_eq, decide_eq_true_eq] at *
  omega

theorem precedes_total (a b : Candidate) : (precedes a b || precedes b a) = true := by
  simp only [precedes, Bool.or_eq_true, Bool.and_eq_true, beq_iff_eq, decide_eq_true_eq]
  omega

/-- The candidates in the order in which they are answered. -/
def ranked (tools : Tools) (rules : List Rule) (clock : Nat) (context : Bindings) (templates : Assoc String Template) :
    List Candidate :=
  (listing tools rules clock context 0 templates).mergeSort precedes

theorem ranked_perm :
    (ranked tools rules clock context templates).Perm (listing tools rules clock context 0 templates) :=
  List.mergeSort_perm _ _

theorem nodup_names_ranked (distinct : templates.keys.Nodup) :
    ((ranked tools rules clock context templates).map (·.name)).Nodup := by
  rw [(ranked_perm.map _).nodup_iff, names_listing]
  exact distinct.filter _

theorem sorted_ranked (distinct : templates.keys.Nodup) :
    (ranked tools rules clock context templates).Pairwise fun a b => b.priority < a.priority ∨
      a.priority = b.priority ∧ templates.keys.idxOf a.name < templates.keys.idxOf b.name := by
  have sorted : (ranked tools rules clock context templates).Pairwise fun a b => precedes a b = true :=
    List.pairwise_mergeSort precedes_trans precedes_total _
  have differ : (ranked tools rules clock context templates).Pairwise fun a b => a.name ≠ b.name :=
    List.pairwise_map.mp (nodup_names_ranked distinct)
  refine (sorted.and differ).imp_of_mem fun {a b} memberA memberB ⟨before, differ⟩ => ?_
  have placeA := idxOf_of_mem_listing distinct (ranked_perm.mem_iff.mp memberA)
  have placeB := idxOf_of_mem_listing distinct (ranked_perm.mem_iff.mp memberB)
  simp only [precedes, Bool.or_eq_true, Bool.and_eq_true, beq_iff_eq, decide_eq_true_eq] at before
  -- Names that differ are at different places.
  have apart : a.order ≠ b.order := by
    intro same
    have hereA := (nominates_of_mem_listing (ranked_perm.mem_iff.mp memberA)).1
    have hereB := (nominates_of_mem_listing (ranked_perm.mem_iff.mp memberB)).1
    rw [same, hereB] at hereA
    exact differ (congrArg Prod.fst (Option.some.inj hereA)).symm
  omega

theorem selects_ranked (distinct : templates.keys.Nodup) :
    Selects tools templates.keys templates.get? rules clock context (ranked tools rules clock context templates) where
  once := nodup_names_ranked distinct
  listed name := by
    rw [(ranked_perm.map _).mem_iff]
    exact mem_names_listing
  template a member :=
    Assoc.get?_of_mem distinct (List.mem_of_getElem? (nominates_of_mem_listing (ranked_perm.mem_iff.mp member)).1)
  rules a member := (nominates_of_mem_listing (ranked_perm.mem_iff.mp member)).2.rules
  bound a member rule listed holds :=
    (nominates_of_mem_listing (ranked_perm.mem_iff.mp member)).2.bound rule (mem_holding.mpr ⟨listed, holds⟩)
  attained a member := by
    obtain ⟨rule, held, same⟩ := (nominates_of_mem_listing (ranked_perm.mem_iff.mp member)).2.attained
    obtain ⟨listed, holds⟩ := mem_holding.mp held
    exact ⟨rule, listed, holds, same⟩
  sorted := sorted_ranked distinct

section

variable {c c' : Composer}

/-- What is found applicable where rules fail only as expressions do. -/
theorem answer_applicable_of_quiet (steady : tools.engine.Steady) (twin : c.Twin tools.engine c')
    (quiet : Quiet tools c.rules c.templates.keys clock context) (s : Session) :
    (applicable clock context tools).answer c' s = .ok (ranked tools c.rules clock context c.templates) :=
  ((applicable_answers c steady clock context).answer twin s).trans (ranking_of_quiet quiet)

/-- What composing answers where rules fail only as expressions do. -/
theorem answer_compose_of_quiet (steady : tools.engine.Steady) (twin : c.Twin tools.engine c')
    (quiet : Quiet tools c.rules c.templates.keys clock context) {bindings : Bindings}
    (merged : c.defaults.merge bindings = context) (s : Session) :
    (compose clock bindings tools).answer c' s =
      c.choose context s (ranked tools c.rules clock context c.templates) := by
  rw [answer_compose steady twin, composed, merged, ranking_of_quiet quiet]
  rfl

end

theorem choose_unselected_iff {c : Composer} {found : List Candidate} {s : Session}
    (own : ∀ best ∈ found.head?, ∀ entry ∈ best.template.functions, Function.Never Failure.IsUnselected entry.2) :
    (∃ e, c.choose context s found = .error e ∧ e.IsUnselected) ↔ found = [] := by
  cases found with
  | nil => exact ⟨fun _ => rfl, fun _ => ⟨_, rfl, .intro ..⟩⟩
  | cons best others =>
    refine ⟨fun ⟨e, failed, unselected⟩ => ?_, nofun⟩
    have rendered := Template.render_selected (own best rfl) context s
    cases run : result (best.template.render context) s with
    | ok output =>
      rw [choose, run] at failed
      cases failed
    | error e' =>
      rw [choose, run] at failed
      cases failed
      exact absurd unselected (rendered _ run)

/-- Expressions are judged by a steady engine. In every composer that arises, a rule that is rejected leaves no trace,
and forgetting the compiled expressions changes no answer. In a context in which rules fail only as expressions do, what
is found applicable is what should be, by the rules added and the templates that were registered last. Composing renders
the template of the first name that is found; it fails for want of one if none is found, and only then if the functions
of that template do not fail so themselves. -/
theorem selection_correct (steady : tools.engine.Steady) {defaults : Bindings} {steps : List Step} {c : Composer}
    (arises : Arises tools defaults steps c) :
    (∀ fields e s, Rule.ofFields fields = .error e → addRuleOf fields c s = ((.error e, c), s)) ∧
    (∀ clock context s, (applicable clock context tools).answer { c with compiled := [] } s =
      (applicable clock context tools).answer c s) ∧
    (∀ clock bindings s, (compose clock bindings tools).answer { c with compiled := [] } s =
      (compose clock bindings tools).answer c s) ∧
    ∀ clock context, Quiet tools (rulesAdded steps) (registered steps) clock context →
      ∃ found, Selects tools (registered steps) (latest? steps) (rulesAdded steps) clock context found ∧
        (∀ s, (applicable clock context tools).answer c s = .ok found) ∧
        ∀ bindings s, defaults.merge bindings = context →
          (compose clock bindings tools).answer c s = (match found with
            | [] => .error (.noApplicableTemplate (registered steps).length (rulesAdded steps).length)
            | best :: _ => (result (best.template.render context) s).map (outcome best context found.length)) ∧
          ((∀ best ∈ found.head?, ∀ entry ∈ best.template.functions, Function.Never Failure.IsUnselected entry.2) →
            ((∃ e, (compose clock bindings tools).answer c s = .error e ∧ e.IsUnselected) ↔ found = [])) := by
  -- The composer answers like one that holds the same and has compiled nothing.
  have twin := arises.twin steady
  refine ⟨fun _ _ s read => addRuleOf_rejected read c s, fun clock context s => ?_, fun clock bindings s => ?_,
    fun clock context quiet => ?_⟩
  · have answers := applicable_answers (tally defaults steps) steady clock context
    rw [answers.answer twin.forgetful, answers.answer twin]
  · rw [answer_compose steady twin.forgetful, answer_compose steady twin]
  have names : (tally defaults steps).templates.keys = registered steps := keys_tally defaults steps
  have distinct : (tally defaults steps).templates.keys.Nodup := Assoc.nodup_keys_ofPairs _
  rw [← names] at quiet
  refine ⟨ranked tools (rulesAdded steps) clock context (tally defaults steps).templates, ?_, fun s => ?_,
    fun bindings s merged => ?_⟩
  · have selects : Selects tools (tally defaults steps).templates.keys (tally defaults steps).templates.get?
        (rulesAdded steps) clock context
        (ranked tools (rulesAdded steps) clock context (tally defaults steps).templates) :=
      selects_ranked distinct
    rwa [names, funext (get?_tally defaults steps)] at selects
  · exact answer_applicable_of_quiet steady twin quiet s
  · have composed : (compose clock bindings tools).answer c s = (tally defaults steps).choose context s
        (ranked tools (rulesAdded steps) clock context (tally defaults steps).templates) :=
      answer_compose_of_quiet steady twin quiet merged s
    have count : (tally defaults steps).templates.length = (registered steps).length := by
      rw [← names, Assoc.keys, List.length_map]
    refine ⟨?_, fun own => ?_⟩
    · rw [composed]
      cases ranked tools (rulesAdded steps) clock context (tally defaults steps).templates with
      | nil => rw [choose, count]; rfl
      | cons best others => rfl
    · rw [composed]
      exact choose_unselected_iff own

/-- A desk at which a memo is registered twice. Of its rules, one is switched off, one has an expression without
meaning, and one is rejected. -/
def deskSteps : List Step :=
  [.register "memo" { source := "old" }, .register "note" { source := "text" }, .addRule { name := "any" },
    .addRule { name := "off", priority := 9, isEnabled := false },
    .addRule { name := "odd", priority := 7, expression := "(" }, .addRuleOf [], .compose 0 [],
    .register "memo" { source := "new" }]

def deskMemo : Candidate where
  name := "memo"
  template := { source := "new" }
  priority := 0
  rules := ["any"]
  order := 0

def deskNote : Candidate where
  name := "note"
  template := { source := "text" }
  priority := 0
  rules := ["any"]
  order := 1

theorem desk_quiet : Quiet {} (rulesAdded deskSteps) (registered deskSteps) 0 [] := by
  have plain : Formula.engine.valueOf "" [] = .ok true := by decide +kernel
  have odd : Formula.engine.valueOf "(" [] = .error (.ruleExpression .grammar "(") := by decide +kernel
  intro rule added _ _ _ _
  have rules : rulesAdded deskSteps = [{ name := "any" }, { name := "off", priority := 9, isEnabled := false },
    { name := "odd", priority := 7, expression := "(" }] := rfl
  simp only [rules, List.mem_cons, List.not_mem_nil, or_false] at added
  rcases added with rfl | rfl | rfl
  · exact ⟨⟨true, rfl⟩, fun _ e failed => nomatch plain.symm.trans failed⟩
  · exact ⟨⟨true, rfl⟩, fun _ e failed => nomatch plain.symm.trans failed⟩
  · exact ⟨⟨true, rfl⟩, fun _ e failed => ⟨.grammar, "(", (Except.error.inj (odd.symm.trans failed)).symm⟩⟩

theorem desk_selected :
    (applicable 0 []).answer (take {} deskSteps) {} = .ok [deskMemo, deskNote] ∧
      (compose 0 []).answer (take {} deskSteps) {} = .ok (outcome deskMemo [] 2 "new") := by
  have arises : Arises {} [] deskSteps (take {} deskSteps) := Arises.start.take deskSteps
  have names : (tally [] deskSteps).templates.keys = registered deskSteps := keys_tally [] deskSteps
  have quiet : Quiet {} (tally [] deskSteps).rules (tally [] deskSteps).templates.keys 0 [] := names ▸ desk_quiet
  have found_eq : ranked {} (rulesAdded deskSteps) 0 [] (tally [] deskSteps).templates = [deskMemo, deskNote] := by
    have listed : listing {} (rulesAdded deskSteps) 0 [] 0 (tally [] deskSteps).templates = [deskMemo, deskNote] := rfl
    have sorted : [deskMemo, deskNote].Pairwise fun a b => precedes a b = true := by decide
    rw [ranked, listed, List.mergeSort_of_pairwise sorted]
  obtain ⟨_, _, _, correct⟩ := selection_correct Formula.steady arises
  obtain ⟨found, _, answered, composed⟩ := correct 0 [] desk_quiet
  have known := answer_applicable_of_quiet Formula.steady (arises.twin Formula.steady) quiet {}
  have same : found = [deskMemo, deskNote] := (Except.ok.inj ((answered {}).symm.trans known)).trans found_eq
  subst same
  have rendered : result (deskMemo.template.render []) {} = .ok "new" := by decide +kernel
  refine ⟨answered {}, (composed [] {} rfl).1.trans ?_⟩
  simp only [rendered]
  rfl

end Composer

end Stencil
