import Stencil.Inheritance.Family
import Stencil.Proofs.Template.Effect

/-!
Families and their history.

A family arises from an empty one by steps: bases are registered, children are made, and questions are asked. What is
asked and what fails leaves no trace, and the two tables of a family list the same names (`Arises.follows`). So what a
family tells of its bases and their children can be read off the steps that returned (`registry_faithful`).
-/

namespace Stencil

namespace Inheritance

theorem applyChild_failure (source : String) (child : Child) :
    AlwaysAvoids (fun e => ¬ e.IsMarkup) (applyChild source child) := by
  unfold applyChild
  refine (liftMarkup_failure _).bind fun (spliced, undeclared) => ?_
  have reports : Returns (undeclared.forM (reportUndeclared child.name)) fun _ => True :=
    .forM undeclared fun name => Returns.notify.bind fun _ _ => .report
  refine reports.avoids.bind fun _ => (liftMarkup_failure _).bind fun (merged, unmatched) => ?_
  exact .unless unmatched.isEmpty Returns.report.avoids (.pure merged)

/-- Making a template of a base fails only where text cannot be read. -/
theorem resolve_failure (base : Base) (child : Child) :
    AlwaysAvoids (fun e => ¬ e.IsMarkup) (resolve base child) := by
  unfold resolve
  refine .unless (neglected base child).isEmpty Returns.report.avoids ?_
  refine (applyChild_failure base.source child).bind fun source => ?_
  exact Returns.report.avoids.bind fun _ => .pure _

end Inheritance

namespace Family

/-- A use of a family. -/
inductive Step where
  | register (base : Base)
  | create (base : String) (child : Child)
  /-- A question of any kind, which may have no answer. -/
  | ask (question : Family → Except Failure Value)

/-- Takes a step. -/
def Step.run (family : Family) : Step → Run Family
  | register base => family.register base
  | create base child => do
    let (_, next) ← family.create base child
    return next
  | ask question => do
    let _ ← Run.ofExcept (question family)
    return family

/-- The family after a step. One that fails leaves the family as it was. -/
def Step.next (step : Step) (family : Family) (s : Session) : Family :=
  (result (step.run family) s).toOption.getD family

/-- Steps that were taken, each with whether it returned. -/
abbrev History := List (Step × Bool)

/-- The families that arise from an empty one by steps, each taken in some session. -/
inductive Arises : History → Family → Prop
  | start : Arises [] {}
  | step {history family} : Arises history family → ∀ (step : Step) (s : Session),
      Arises (history ++ [(step, (result (step.run family) s).isOk)]) (step.next family s)

/-- The base that a step registers, and its name. -/
def Step.registration? : Step → Option (String × Base)
  | register base => some (base.name, base)
  | _ => none

/-- What is to be remembered of a step that returned: the child that it made of a base. -/
def Step.child? (name : String) : Step × Bool → Option ChildRecord
  | (create base child, true) => if base = name then some child.record else none
  | _ => none

/-- The bases that were registered, in order. -/
def registrations (history : History) : List (String × Base) :=
  history.filterMap fun entry => entry.1.registration?

/-- The names of bases, in the order in which they first came. -/
def registered (history : History) : List String :=
  ((registrations history).map Prod.fst).eraseDups

/-- The base that was last registered under a name. -/
def latest? (history : History) (name : String) : Option Base :=
  Assoc.get? (registrations history).reverse name

/-- The children that were made of the bases of a name, in order. -/
def made (history : History) (name : String) : List ChildRecord :=
  history.filterMap (Step.child? name)

/-- The history and the family after several more steps, each taken in a session of its own. -/
def replay (history : History) (family : Family) (steps : List Step) : History × Family :=
  steps.foldl (fun (past, family) step =>
    (past ++ [(step, (result (step.run family) {}).isOk)], step.next family {})) (history, family)

theorem Arises.replay {history : History} {family : Family} (arises : Arises history family) (steps : List Step) :
    Arises (Family.replay history family steps).1 (Family.replay history family steps).2 := by
  induction steps generalizing history family with
  | nil => exact arises
  | cons step rest ih => exact ih (arises.step step {})

/-- A base and the names of its children as data. -/
def entry (base : Base) (children : List ChildRecord) : Value :=
  .ofBindings [
    ("source", .str base.source),
    ("description", .str base.description),
    ("default_bindings", .ofBindings base.bindings),
    ("required_blocks", .ofStrings base.required),
    ("optional_blocks", .ofStrings base.optional),
    ("children", .ofStrings (children.map (·.name)))]

/-- All bases that were registered, with their children, as data. -/
def exported (history : History) : Value :=
  .ofBindings ((registered history).filterMap fun name =>
    (latest? history name).map fun base => (name, entry base (made history name)))

/-- A family that holds what its history tells. -/
structure Follows (history : History) (family : Family) : Prop where
  bases : family.bases = Assoc.ofPairs (registrations history)
  children : ∀ name, family.childrenOf name = made history name
  /-- The table of children has the names of the table of bases. -/
  keys : family.children.keys = family.bases.keys

section

variable {family : Family} {history : History}

theorem registrations_concat (history : History) (step : Step) (returned : Bool) :
    registrations (history ++ [(step, returned)]) = registrations history ++ step.registration?.toList := by
  rw [registrations, List.filterMap_append, List.filterMap_cons]
  cases step.registration? <;> rfl

theorem made_concat (history : History) (taken : Step × Bool) (name : String) :
    made (history ++ [taken]) name = made history name ++ (Step.child? name taken).toList := by
  rw [made, List.filterMap_append, List.filterMap_cons]
  cases Step.child? name taken <;> rfl

theorem childrenOf_insert (family : Family) (base : Base) (name : String) :
    (family.insert base).childrenOf name = family.childrenOf name := by
  unfold childrenOf insert
  rw [Assoc.get?_set]
  by_cases same : base.name = name
  · simp [same, childrenOf]
  · simp [same]

theorem childrenOf_remember (family : Family) (base name : String) (child : ChildRecord) :
    (family.remember base child).childrenOf name =
      family.childrenOf name ++ (if base = name then some child else none).toList := by
  unfold childrenOf remember
  rw [Assoc.get?_set]
  by_cases same : base = name
  · simp [same, childrenOf]
  · simp [same]

theorem Step.next_of_ok {step : Step} {s : Session} {next : Family} (run : result (step.run family) s = .ok next) :
    step.next family s = next := by
  rw [Step.next, run, Except.toOption, Option.getD_some]

theorem Step.next_of_error {step : Step} {s : Session} {e : Failure} (run : result (step.run family) s = .error e) :
    step.next family s = family := by
  rw [Step.next, run, Except.toOption, Option.getD_none]

theorem create_of_unknown {name : String} (unknown : family.bases.get? name = none) (child : Child) (s : Session) :
    result (family.create name child) s = .error (.baseNotFound name) := by
  unfold create base
  rw [unknown]
  rfl

theorem create_of_known {name : String} {base : Base} (known : family.bases.get? name = some base) (child : Child)
    (s : Session) : result (family.create name child) s =
      (result (Inheritance.resolve base child) s).map fun t => (t, family.remember name child.record) := by
  have begins : result (family.create name child) s = result (Inheritance.resolve base child >>= fun t =>
      (Pure.pure (t, family.remember name child.record) : Run (Template × Family))) s := by
    unfold create Family.base
    rw [known]
    rfl
  rw [begins]
  cases resolved : result (Inheritance.resolve base child) s with
  | error e => rw [result_bind_of_error resolved]; rfl
  | ok t => rw [result_bind_of_ok resolved]; rfl

theorem Follows.get? (follows : Follows history family) (name : String) :
    family.bases.get? name = latest? history name := by
  rw [follows.bases, Assoc.get?_ofPairs, latest?]

/-- A step that registers nothing and makes nothing. -/
theorem Follows.idle (follows : Follows history family) {step : Step} {returned : Bool}
    (nothing : step.registration? = none) (childless : ∀ name, Step.child? name (step, returned) = none) :
    Follows (history ++ [(step, returned)]) family where
  bases := by rw [registrations_concat, nothing, Option.toList_none, List.append_nil, follows.bases]
  children name := by rw [made_concat, childless, Option.toList_none, List.append_nil, follows.children]
  keys := follows.keys

theorem Follows.register (follows : Follows history family) (base : Base) (returned : Bool) :
    Follows (history ++ [(.register base, returned)]) (family.insert base) where
  bases := by
    have last : Step.registration? (.register base) = some (base.name, base) := rfl
    rw [registrations_concat, last, Option.toList_some, Assoc.ofPairs_concat, ← follows.bases]
    rfl
  children name := by
    have nothing : Step.child? name (.register base, returned) = none := rfl
    rw [childrenOf_insert, made_concat, nothing, Option.toList_none, List.append_nil, follows.children]
  keys := Assoc.keys_set_congr follows.keys _ _ _

theorem Follows.create (follows : Follows history family) {name : String} {base : Base}
    (known : family.bases.get? name = some base) (child : Child) :
    Follows (history ++ [(.create name child, true)]) (family.remember name child.record) where
  bases := by
    have nothing : Step.registration? (.create name child) = none := rfl
    rw [registrations_concat, nothing, Option.toList_none, List.append_nil, ← follows.bases]
    rfl
  children other := by
    rw [childrenOf_remember, made_concat, follows.children]
    rfl
  keys := by
    -- The name has a base, so it is in both tables already.
    have listed : name ∈ family.children.keys := by
      rw [follows.keys]
      exact Assoc.isSome_get?_iff.mp (by rw [known]; rfl)
    exact (Assoc.keys_set_of_mem listed _).trans follows.keys

/-- Every step keeps a family in line with its history. -/
theorem Follows.step (follows : Follows history family) (step : Step) (s : Session) :
    Follows (history ++ [(step, (result (step.run family) s).isOk)]) (step.next family s) := by
  cases step with
  | register base => exact follows.register base _
  | create name child =>
    cases known : family.bases.get? name with
    | none =>
      have failed := create_of_unknown known child s
      have run : result ((Step.create name child).run family) s = .error (.baseNotFound name) :=
        result_bind_of_error failed _
      rw [run, Step.next_of_error run]
      exact follows.idle rfl fun _ => rfl
    | some base =>
      have created := create_of_known known child s
      cases resolved : result (Inheritance.resolve base child) s with
      | error e =>
        rw [resolved] at created
        have run : result ((Step.create name child).run family) s = .error e := result_bind_of_error created _
        rw [run, Step.next_of_error run]
        exact follows.idle rfl fun _ => rfl
      | ok t =>
        rw [resolved] at created
        have run : result ((Step.create name child).run family) s = .ok (family.remember name child.record) :=
          result_bind_of_ok created _
        rw [run, Step.next_of_ok run]
        exact follows.create known child
  | ask question =>
    have kept : (Step.ask question).next family s = family := by
      have asked : result (Run.ofExcept (question family)) s = question family := result_ofExcept _ s
      cases answered : question family with
      | error e => exact Step.next_of_error (result_bind_of_error (asked.trans answered) _)
      | ok v => exact Step.next_of_ok (result_bind_of_ok (asked.trans answered) _)
    rw [kept]
    exact follows.idle rfl fun _ => rfl

/-- A family holds what its history tells. -/
theorem Arises.follows (arises : Arises history family) : Follows history family := by
  induction arises with
  | start => exact ⟨rfl, fun _ => rfl, rfl⟩
  | step _ step s ih => exact ih.step step s

theorem Follows.names (follows : Follows history family) : family.names = registered history := by
  rw [Family.names, follows.bases, Assoc.keys_ofPairs, registered]

theorem Follows.toValue (follows : Follows history family) : family.toValue = exported history := by
  have distinct : family.bases.keys.Nodup := by
    rw [follows.bases]
    exact Assoc.nodup_keys_ofPairs _
  have described (name : String) (base : Base) : family.describe name base = entry base (made history name) := by
    rw [describe, follows.children, entry]
  have listed := Assoc.map_eq_filterMap_keys distinct fun entry => (entry.1, family.describe entry.1 entry.2)
  have same : family.bases.keys = registered history := follows.names
  rw [Family.toValue, exported]
  refine congrArg Value.ofBindings (listed.trans ?_)
  rw [same]
  simp only [follows.get?, described]

end

/-- A family is faithful to its history. It lists the names of bases in the order in which they first came, and has the
base that was last registered under each. Under each name it has a record, in order, of every child that was made of a
base of that name. What is exported tells the same. A child is made exactly where the latest base of the name can be
resolved with it; if there is none, or a text cannot be read, then the family stays as it is. -/
theorem registry_faithful {history : History} {family : Family} (arises : Arises history family) :
    family.names = registered history ∧
    (∀ name, family.base name = match latest? history name with
      | some base => .ok base
      | none => .error (.baseNotFound name)) ∧
    (∀ name, family.childrenOf name = made history name) ∧
    family.children.keys = registered history ∧
    family.toValue = exported history ∧
    (∀ name child s, result (family.create name child) s = match latest? history name with
      | some base =>
        (result (Inheritance.resolve base child) s).map fun t => (t, family.remember name child.record)
      | none => .error (.baseNotFound name)) ∧
    ∀ name child s e, result (family.create name child) s = .error e →
      (Step.create name child).next family s = family ∧
        (latest? history name = none ∧ e = .baseNotFound name ∨
          ∃ base, latest? history name = some base ∧ result (Inheritance.resolve base child) s = .error e ∧
            e.IsMarkup) := by
  have follows := arises.follows
  have creates (name : String) (child : Child) (s : Session) :
      result (family.create name child) s = match latest? history name with
        | some base =>
          (result (Inheritance.resolve base child) s).map fun t => (t, family.remember name child.record)
        | none => .error (.baseNotFound name) := by
    rw [← follows.get?]
    cases known : family.bases.get? name with
    | none => exact create_of_unknown known child s
    | some base => exact create_of_known known child s
  refine ⟨follows.names, fun name => ?_, follows.children, follows.keys.trans follows.names, follows.toValue, creates,
    fun name child s e failed => ⟨?_, ?_⟩⟩
  · cases found : latest? history name <;> simp only [base, follows.get?, found]
  · exact Step.next_of_error (result_bind_of_error failed _)
  · rw [creates] at failed
    cases known : latest? history name with
    | none =>
      rw [known] at failed
      cases failed
      exact .inl ⟨rfl, rfl⟩
    | some base =>
      simp only [known] at failed
      cases resolved : result (Inheritance.resolve base child) s with
      | ok t =>
        rw [resolved] at failed
        cases failed
      | error e' =>
        rw [resolved] at failed
        cases failed
        exact .inr ⟨base, rfl, resolved, not_not.mp (Inheritance.resolve_failure base child s e resolved)⟩

/-- A child is made of a base, and then the base is registered anew with a text that cannot be read. -/
def houseSteps : List Step :=
  [ .register { name := "letter", source := Markup.spellRegion .block "hello" "Hello" },
    .create "note" { name := "lost" },
    .create "letter" { name := "card", blocks := [("hello", "Hi")], sections := [("end", ⟨"!", .append⟩)] },
    .register { name := "memo", source := "text" },
    .ask fun family => family.toJson.map .str,
    .register { name := "letter", source := Markup.spellMarker "/block" },
    .create "letter" { name := "torn" } ]

theorem house_faithful :
    (replay [] {} houseSteps).2.names = ["letter", "memo"] ∧
      ((replay [] {} houseSteps).2.base "letter").map (·.source) = .ok (Markup.spellMarker "/block") ∧
      (replay [] {} houseSteps).2.childrenOf "letter" = [⟨"card", ["hello"], ["end"]⟩] := by
  obtain ⟨names, bases, children, _⟩ := registry_faithful (Arises.start.replay houseSteps)
  refine ⟨names.trans (by decide +kernel), ?_, (children "letter").trans (by decide +kernel)⟩
  rw [bases]
  rfl

end Family

end Stencil
