import Stencil.Proofs.Template.Layers
import Stencil.Proofs.Value.Text
import Stencil.Template.Literal

/-!
Paths that cannot be followed.

A segment of digits stands for a position in a row: in a list, or in what holds items as lists do on a host. Some
characters pass for digits and have no value, and a number may have too many digits to be read. A path fails where it
comes to a row with such a segment next, and nowhere else (`path_fails_iff`); elsewhere it leads to a value or to
nothing.
-/

namespace Stencil

namespace Value

open Stencil.Number Stencil.Text

/-- Data as JSON has it: no dates, decimals or members, and only texts as keys. -/
inductive IsJson : Value → Prop
  | null : IsJson .null
  | bool (b : Bool) : IsJson (.bool b)
  | int (n : Int) : IsJson (.int n)
  | float (x : Float) : IsJson (.float x)
  | str (s : String) : IsJson (.str s)
  | list {items} : (∀ v ∈ items, IsJson v) → IsJson (.list items)
  | map {entries} : (∀ entry ∈ entries, ∃ s, entry.1 = .str s) → (∀ entry ∈ entries, IsJson entry.2) →
      IsJson (.map entries)

/-- A segment that passes for a position and spells none: of its digits some have no value, or they are too many. -/
structure Unreadable (segment : String) : Prop where
  nonempty : segment ≠ ""
  digits : ∀ c ∈ segment.toList, isDigitLike c = true
  unread : (∃ c ∈ segment.toList, isDecimal c = false) ∨ maxIntegerDigits < segment.length

theorem position_fails_iff {segment : String} :
    Failing (position segment) ↔
      (∃ c ∈ segment.toList, isDecimal c = false) ∨ maxIntegerDigits < segment.length := by
  unfold position
  by_cases long : maxIntegerDigits < segment.length
  · simp [long]
  by_cases plain : segment.toList.all isDecimal = true
  · have none : ¬ ∃ c ∈ segment.toList, isDecimal c = false := by
      rintro ⟨c, member, other⟩
      rw [List.all_eq_true.mp plain c member] at other
      cases other
    simp [long, plain, none]
  · have some : ∃ c ∈ segment.toList, isDecimal c = false := by
      simpa using plain
    simp [long, plain, some]

/-- A value that holds items in a row. -/
def IsRow (host : Host) (v : Value) : Prop :=
  ∃ items, v.holding host = .items items

theorem isRow_list (host : Host) (items : List Value) : (list items).IsRow host :=
  ⟨items, rfl⟩

theorem isRow_iff {host : Host} {v : Value} : v.IsRow host ↔ (∃ items, v = .list items) ∨
    ∃ thing items, v = .thing thing ∧ host.holding thing = .items items := by
  cases v with
  | list items => simp [IsRow, holding]
  | thing o => simp [IsRow, holding]
  | _ => simp [IsRow, holding]

section

variable {host : Host}

/-- A step fails just from a row, and with an unreadable segment. -/
theorem step_fails_iff {v : Value} {segment : String} :
    Failing (v.step segment host) ↔ v.IsRow host ∧ Unreadable segment := by
  unfold step IsRow
  cases v.holding host with
  | entries get? => simp
  | nothing => simp
  | items values =>
    by_cases digits : segment ≠ "" ∧ ∀ c ∈ segment.toList, isDigitLike c = true
    · obtain ⟨nonempty, like⟩ := digits
      have taken : (segment != "" && segment.toList.all isDigitLike) = true := by simpa [nonempty] using like
      simp only [taken, if_true]
      rw [failing_return_iff, position_fails_iff]
      exact ⟨fun unread => ⟨⟨values, rfl⟩, nonempty, like, unread⟩, fun ⟨_, unreadable⟩ => unreadable.unread⟩
    · have passed : (segment != "" && segment.toList.all isDigitLike) = false := by simpa using digits
      have fine : ¬ Unreadable segment := fun unreadable => digits ⟨unreadable.nonempty, unreadable.digits⟩
      simp [passed, fine]

theorem follow_cons_of_some {v next : Value} {segment : String} (step : v.step segment host = .ok (some next))
    (rest : List String) : v.follow (segment :: rest) host = next.follow rest host := by
  rw [follow, step]
  rfl

theorem follow_cons_of_none {v : Value} {segment : String} (step : v.step segment host = .ok none)
    (rest : List String) : v.follow (segment :: rest) host = .ok none := by
  rw [follow, step]
  rfl

/-- Segments lead to a row, and the one after them is unreadable. -/
def TripsOn (host : Host) (v : Value) (segments : List String) : Prop :=
  ∃ before segment rest row, segments = before ++ segment :: rest ∧ v.follow before host = .ok (some row) ∧
    row.IsRow host ∧ Unreadable segment

theorem tripsOn_cons_of_some {v next : Value} {segment : String} (step : v.step segment host = .ok (some next))
    (rest : List String) : TripsOn host v (segment :: rest) ↔ TripsOn host next rest := by
  constructor
  · rintro ⟨before, last, after, row, split, reached, isRow, unreadable⟩
    cases before with
    | nil =>
      cases split
      cases reached
      obtain ⟨e, failed⟩ := step_fails_iff.mpr ⟨isRow, unreadable⟩
      cases failed.symm.trans step
    | cons first before =>
      cases split
      rw [follow_cons_of_some step] at reached
      exact ⟨before, last, after, row, rfl, reached, isRow, unreadable⟩
  · rintro ⟨before, last, after, row, rfl, reached, isRow, unreadable⟩
    exact ⟨segment :: before, last, after, row, rfl, (follow_cons_of_some step before).trans reached, isRow, unreadable⟩

theorem follow_fails_iff {v : Value} {segments : List String} :
    Failing (v.follow segments host) ↔ TripsOn host v segments := by
  induction segments generalizing v with
  | nil =>
    constructor
    · rintro ⟨e, failed⟩
      cases failed
    · rintro ⟨before, segment, rest, row, split, _⟩
      simp at split
  | cons segment rest ih =>
    cases step : v.step segment host with
    | error e =>
      obtain ⟨isRow, unreadable⟩ := step_fails_iff.mp ⟨e, step⟩
      have failed : v.follow (segment :: rest) host = .error e := by
        rw [follow, step]
        rfl
      exact ⟨fun _ => ⟨[], segment, rest, v, rfl, rfl, isRow, unreadable⟩, fun _ => ⟨e, failed⟩⟩
    | ok found =>
      cases found with
      | some next => rw [follow_cons_of_some step, tripsOn_cons_of_some step, ih]
      | none =>
        rw [follow_cons_of_none step]
        constructor
        · rintro ⟨e, failed⟩
          cases failed
        · rintro ⟨before, last, after, row, split, reached, isRow, unreadable⟩
          cases before with
          | nil =>
            cases split
            cases reached
            obtain ⟨e, failed⟩ := step_fails_iff.mpr ⟨isRow, unreadable⟩
            cases failed.symm.trans step
          | cons first before =>
            cases split
            rw [follow_cons_of_none step] at reached
            cases reached

/-- The segments of a path after the first. A path that ends in its first dot has none. -/
def laterSegments (path : String) : List String :=
  if pathRest path = "" then [] else pathSegments (pathRest path)

theorem resolveWith_eq (get : String → Option Value) (path : String) :
    resolveWith get path host = match get (pathRoot path) with
      | none => .ok none
      | some v => v.follow (laterSegments path) host := by
  unfold resolveWith laterSegments
  cases get (pathRoot path) with
  | none => rfl
  | some v => by_cases ends : pathRest path = "" <;> simp [ends, follow]

/-- A path that comes to a row with an unreadable segment next. -/
def Trips (host : Host) (get : String → Option Value) (path : String) : Prop :=
  ∃ v, get (pathRoot path) = some v ∧ TripsOn host v (laterSegments path)

theorem resolveWith_fails_iff {get : String → Option Value} {path : String} :
    Failing (resolveWith get path host) ↔ Trips host get path := by
  rw [resolveWith_eq]
  unfold Trips
  cases get (pathRoot path) with
  | none => simp
  | some v => simp [follow_fails_iff]

/-- Maps within maps along a path, around an empty list. -/
def nest : List String → Value
  | [] => .list []
  | segment :: rest => .map [(.str segment, nest rest)]

theorem isJson_nest (segments : List String) : (nest segments).IsJson := by
  induction segments with
  | nil => exact .list (fun _ member => absurd member List.not_mem_nil)
  | cons segment rest ih =>
    exact .map (List.forall_mem_singleton.mpr ⟨segment, rfl⟩) (List.forall_mem_singleton.mpr ih)

theorem follow_nest (segments : List String) : (nest segments).follow segments host = .ok (some (.list [])) := by
  induction segments with
  | nil => rfl
  | cons segment rest ih =>
    have same : ((.str segment : Value) == .str segment) = true := by
      change equalScalar (.str segment) (.str segment) = true
      simp [equalScalar]
    have step : (nest (segment :: rest)).step segment host = .ok (some (nest rest)) := by
      simp [nest, Value.step, Value.holding, Assoc.get?, same]
    rw [follow_cons_of_some step, ih]

/-- A path without unreadable segments can be followed in any data, and any other one fails in some, whatever the
host. -/
theorem resolve_total_iff {path : String} :
    (∀ bindings : Bindings, (∀ entry ∈ bindings, entry.2.IsJson) → ∃ found, bindings.resolve path host = .ok found) ↔
      ∀ segment ∈ laterSegments path, ¬ Unreadable segment := by
  constructor
  · intro total segment member unreadable
    obtain ⟨before, rest, split⟩ := List.append_of_mem member
    -- The maps lead along the path to a list, where the segment is due.
    have json : ∀ entry ∈ [(pathRoot path, nest before)], entry.2.IsJson :=
      List.forall_mem_singleton.mpr (isJson_nest before)
    have root : Assoc.get? [(pathRoot path, nest before)] (pathRoot path) = some (nest before) := by
      simp [Assoc.get?]
    obtain ⟨found, resolved⟩ := total [(pathRoot path, nest before)] json
    obtain ⟨e, failed⟩ := resolveWith_fails_iff.mpr
      ⟨nest before, root, before, segment, rest, .list [], split, follow_nest before, isRow_list host [], unreadable⟩
    cases failed.symm.trans resolved
  · intro readable bindings _
    cases resolved : bindings.resolve path host with
    | ok found => exact ⟨found, rfl⟩
    | error e =>
      obtain ⟨v, _, before, segment, rest, row, split, _, _, unreadable⟩ := resolveWith_fails_iff.mp ⟨e, resolved⟩
      have member : segment ∈ laterSegments path := by simp [split]
      exact absurd unreadable (readable segment member)

end

end Value

open Value

section

variable {host : Host}

theorem Scope.lookup_fails_iff {scope : Scope} {path : String} :
    Failing (scope.lookup path host) ↔ Trips host scope.get? path :=
  resolveWith_fails_iff

theorem Scope.contains_fails_iff {scope : Scope} {path : String} :
    Failing (scope.contains path host) ↔ Trips host scope.get? path := by
  rw [contains, failing_return_iff, lookup_fails_iff]

/-- Arguments in quotes are not looked up. -/
theorem resolveArgument_fails_iff {scope : Scope} {text : String} :
    Failing (resolveArgument text scope host) ↔
      (∀ c ∈ text.toList.head?, isQuote c = false) ∧ Trips host scope.get? text := by
  rw [← Scope.lookup_fails_iff]
  unfold resolveArgument
  split
  next empty =>
    have nothing : scope.lookup text host = .ok (scope.get? text) :=
      Scope.lookup_of_free (by rw [empty]; exact List.not_mem_nil)
    simp [nothing]
  next c rest split =>
    rw [split]
    cases quoted : isQuote c with
    | true => simp [quoted]
    | false =>
      cases looked : scope.lookup text host with
      | error e => simp [quoted, bind, Except.bind]
      | ok found => cases found <;> simp [quoted, bind, Except.bind, pure, Except.pure]

end

/-- Whatever the members of values lead to on a host: a path is looked up in vain, or with a value, unless it comes to
a row with an unreadable segment next; then it fails. So do tests whether a path is bound, and arguments of calls that
do not start with a quote. A row is a list, or a thing that is no data and holds items as a list does. The paths that
lead to a value or to nothing in whatever data are those without unreadable segments after the first. -/
theorem path_fails_iff (host : Host) (bindings : Bindings) (scope : Scope) (path : String) :
    (Failing (bindings.resolve path host) ↔ Trips host bindings.get? path) ∧
      (Failing (scope.lookup path host) ↔ Trips host scope.get? path) ∧
      (Failing (scope.contains path host) ↔ Trips host scope.get? path) ∧
      (Failing (resolveArgument path scope host) ↔
        (∀ c ∈ path.toList.head?, isQuote c = false) ∧ Trips host scope.get? path) ∧
      (∀ v : Value, v.IsRow host ↔ (∃ items, v = .list items) ∨
        ∃ thing items, v = .thing thing ∧ host.holding thing = .items items) ∧
      ((∀ data : Bindings, (∀ entry ∈ data, entry.2.IsJson) → ∃ found, data.resolve path host = .ok found) ↔
        ∀ segment ∈ laterSegments path, ¬ Unreadable segment) :=
  ⟨resolveWith_fails_iff, Scope.lookup_fails_iff, Scope.contains_fails_iff, resolveArgument_fails_iff,
    fun _ => isRow_iff, resolve_total_iff⟩

/-- The members of an integer may lead to a row on a host. -/
example : Bindings.resolve [("n", .int 1)] "n.kinds.²"
    ⟨fun _ _ => some (.thing (.foreign "kinds")), fun _ => .items []⟩ = .error .unreadableIndex :=
  rfl

/-- A list of one text, in which a superscript two is no position on any host. -/
theorem superscript_unread :
    IsJson (.list [.str "a"]) ∧ ∀ host : Host,
      Bindings.resolve [("xs", .list [.str "a"])] "xs.²" host = .error .unreadableIndex ∧
      (Scope.ofBindings [("xs", .list [.str "a"])]).lookup "xs.²" host = .error .unreadableIndex ∧
      (Scope.ofBindings [("xs", .list [.str "a"])]).contains "xs.²" host = .error .unreadableIndex ∧
      resolveArgument "xs.²" (.ofBindings [("xs", .list [.str "a"])]) host = .error .unreadableIndex :=
  ⟨.list (List.forall_mem_singleton.mpr (.str "a")), fun _ => ⟨rfl, rfl, rfl, rfl⟩⟩

end Stencil
