import Stencil.Composition.Requirement
import Stencil.Proofs.Value.Equality

/-!
How rules compare values for equality.

A rule keeps truth values and numbers apart at the top, and nowhere below it: lists and maps that differ in a truth
value for a number are equal, and a list contains what one of its items equals across the kinds. The main result says
which values are equal and which are contained (`equality_judged`).
-/

namespace Stencil

namespace Value

/-- Two values have the same shape if at every place inside them both hold values of one kind, or nothing. -/
def SameShape (a b : Value) : Prop :=
  ∀ place, (a.inside place).map kind = (b.inside place).map kind

/-- At some place inside, a truth value stands against a number. -/
def Confuses (a b : Value) : Prop :=
  ∃ place v w, a.inside place = some v ∧ b.inside place = some w ∧
    (v.kind = .truth ∧ w.kind = .number ∨ v.kind = .number ∧ w.kind = .truth)

variable {a b e : Value}

/-- What is alike has the same shape unless a truth value is taken for a number. -/
theorem Alike.sameShape_iff (alike : Alike a b) : SameShape a b ↔ ¬ Confuses a b := by
  constructor
  · rintro shape ⟨place, v, w, here, there, kinds⟩
    have same : v.kind = w.kind := by simpa [here, there] using shape place
    rcases kinds with ⟨truth, number⟩ | ⟨number, truth⟩ <;> simp [truth, number] at same
  · intro apart place
    have level := alike place
    cases here : a.inside place with
    | none => cases there : b.inside place <;> simp [here, there] at level ⊢
    | some v =>
      cases there : b.inside place with
      | none => simp [here, there] at level
      | some w =>
        rw [here, there, rel_some_iff] at level
        by_contra differ
        exact apart ⟨place, v, w, here, there, level.kinds fun same => differ (congrArg some same)⟩

theorem strictlyEqual_iff (document : a.IsDocument) (document' : b.IsDocument) :
    a.strictlyEqual b = true ↔ a.kind = b.kind ∧ Alike a b := by
  rw [strictlyEqual, Bool.and_eq_true, beq_iff_eq]
  exact and_congr_right fun _ => equal_iff_alike document document'

theorem holds_list (items : List Value) (v : Value) : (Value.list items).holds v = .ok (items.any (· == v)) :=
  rfl

theorem any_beq_iff {items : List Value} (documents : ∀ item ∈ items, item.IsDocument) (document : e.IsDocument) :
    items.any (· == e) = true ↔ ∃ item ∈ items, Alike item e := by
  rw [List.any_eq_true]
  exact exists_congr fun item => and_congr_right fun member => equal_iff_alike (documents item member) document

theorem isAmong_list_iff {items : List Value} (documents : ∀ item ∈ items, item.IsDocument) (document : e.IsDocument) :
    Composition.isAmong e (.list items) = true ↔ ∃ item ∈ items, item.kind = e.kind ∧ Alike item e := by
  rw [Composition.isAmong, List.any_eq_true]
  refine exists_congr fun item => and_congr_right fun member => ?_
  rw [strictlyEqual_iff document (documents item member)]
  exact ⟨fun ⟨kinds, alike⟩ => ⟨kinds.symm, alike.symm⟩, fun ⟨kinds, alike⟩ => ⟨kinds.symm, alike.symm⟩⟩

end Value

namespace Composition

open Value

variable {context : Bindings} {field : String} {a b : Value}

/-- A field equals a value if the two are of one kind and alike at every place inside them, and then they have the
same shape unless a truth value stands against a number somewhere. A list contains what some item is alike to, and a value is
in a list if some item is alike to it and of its kind. So the two answers are the same unless the only items that are
alike to a truth value are numbers, or those to a number truth values. Documents hold no float that is not a number,
since whether two values that share one are equal depends on where it is stored. -/
theorem equality_judged (found : (Value.ofBindings context).field field = a) (document : a.IsDocument)
    (document' : b.IsDocument) :
    (∃ equals : Bool,
        Requirement.holds ⟨field, .equal, b⟩ context = .ok equals ∧
        Requirement.holds ⟨field, .different, b⟩ context = .ok (!equals) ∧
        (equals = true ↔ a.kind = b.kind ∧ Alike a b) ∧
        (equals = true → (SameShape a b ↔ ¬ Confuses a b))) ∧
      ∀ items, a = .list items → ∀ context' field', (Value.ofBindings context').field field' = b →
        ∃ contains isIn : Bool,
          Requirement.holds ⟨field, .holding, b⟩ context = .ok contains ∧
          Requirement.holds ⟨field', .among, .list items⟩ context' = .ok isIn ∧
          (contains = true ↔ ∃ item ∈ items, Alike item b) ∧
          (isIn = true ↔ ∃ item ∈ items, item.kind = b.kind ∧ Alike item b) ∧
          (contains ≠ isIn ↔ (∃ item ∈ items, Alike item b) ∧ ∀ item ∈ items, Alike item b →
            item.kind = .truth ∧ b.kind = .number ∨ item.kind = .number ∧ b.kind = .truth) := by
  constructor
  · have strict := strictlyEqual_iff document document'
    refine ⟨a.strictlyEqual b, ?_, ?_, strict, fun same => (strict.mp same).2.sameShape_iff⟩
    · rw [Requirement.holds, found, Relation.holds]
    · rw [Requirement.holds, found, Relation.holds]
  · rintro items rfl context' field' found'
    have documents : ∀ item ∈ items, item.IsDocument := by
      cases document with
      | list parts => exact parts
    have loose := any_beq_iff documents document'
    have strict := isAmong_list_iff documents document'
    refine ⟨items.any (· == b), isAmong b (.list items), ?_, ?_, loose, strict, ?_⟩
    · rw [Requirement.holds, found, Relation.holds, holds_list]
    · rw [Requirement.holds, found', Relation.holds]
    · rw [ne_eq, Bool.eq_iff_iff, loose, strict]
      constructor
      · intro differ
        have some : ∃ item ∈ items, Alike item b := by
          by_contra none
          exact differ (iff_of_false none fun ⟨item, member, _, alike⟩ => none ⟨item, member, alike⟩)
        refine ⟨some, fun item member alike => alike.level.kinds fun same => differ ?_⟩
        exact iff_of_true some ⟨item, member, same, alike⟩
      · rintro ⟨some, across⟩ agree
        obtain ⟨item, member, same, alike⟩ := agree.mp some
        rcases across item member alike with ⟨truth, number⟩ | ⟨number, truth⟩ <;> simp [truth, number] at same

/-- Who voted how, with a list of votes below a list. -/
def ballot : Bindings :=
  [("votes", .list [.bool true, .list [.int 1]]), ("vote", .bool true)]

theorem ballot_judged :
    (Value.ofBindings ballot).field "votes" = .list [.bool true, .list [.int 1]] ∧
      (Value.ofBindings ballot).field "vote" = .bool true ∧
      (Value.list [.bool true, .list [.int 1]]).IsDocument ∧ (Value.bool true).IsDocument ∧
      Requirement.holds ⟨"votes", .different, .bool true⟩ ballot = .ok true ∧
      Requirement.holds ⟨"vote", .among, .list [.bool true, .list [.int 1]]⟩ ballot = .ok true := by
  have found : (Value.ofBindings ballot).field "votes" = .list [.bool true, .list [.int 1]] := rfl
  have found' : (Value.ofBindings ballot).field "vote" = .bool true := rfl
  have inner : (Value.list [.int 1]).IsDocument := .list (List.forall_mem_singleton.mpr (.int 1))
  have document : (Value.list [.bool true, .list [.int 1]]).IsDocument :=
    .list (List.forall_mem_cons.mpr ⟨.bool true, List.forall_mem_singleton.mpr inner⟩)
  obtain ⟨⟨equals, -, differs, same, -⟩, members⟩ := equality_judged found document (.bool true)
  have apart : equals = false := Bool.eq_false_iff.mpr fun equal => by cases (same.mp equal).1
  refine ⟨found, found', document, .bool true, by rw [differs, apart]; rfl, ?_⟩
  obtain ⟨contains, isIn, -, answer, -, listed, -⟩ := members _ rfl ballot "vote" found'
  have itself : Alike (.bool true) (.bool true) := (equal_iff_alike (.bool true) (.bool true)).mp rfl
  rw [answer, listed.mpr ⟨_, List.mem_cons_self .., rfl, itself⟩]

/-- A list with a truth value in it equals one with a number in its place, and a list of a number contains the truth
value that is not in it. -/
theorem votes_confused :
    (Value.list [.bool true]).IsDocument ∧ (Value.list [.int 1]).IsDocument ∧
      Requirement.holds ⟨"votes", .equal, .list [.int 1]⟩ [("votes", .list [.bool true])] = .ok true ∧
      ¬ SameShape (.list [.bool true]) (.list [.int 1]) ∧
      Requirement.holds ⟨"votes", .holding, .bool true⟩ [("votes", .list [.int 1])] = .ok true ∧
      Requirement.holds ⟨"vote", .among, .list [.int 1]⟩ [("vote", .bool true)] = .ok false := by
  refine ⟨.list (List.forall_mem_singleton.mpr (.bool true)), .list (List.forall_mem_singleton.mpr (.int 1)),
    rfl, fun shape => ?_, rfl, rfl⟩
  cases shape [.item 0]

end Composition

end Stencil
