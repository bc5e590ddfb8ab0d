import Stencil.Value.Equality

/-!
Tables under construction.

A document names tables by paths. A table may come into being because a longer path runs through it,
and be declared later; but it is declared only once, a value is never overwritten, and what is written
as one value, an inline table included, is closed.
-/

namespace Stencil.Toml

/-- What a key of a table leads to. -/
inductive Entry where
  /-- A complete value. -/
  | value (v : Value)
  /-- A table that can still grow, and whether it has been declared. -/
  | table (declared : Bool) (entries : List (String × Entry))
  /-- An array of tables, of which only the last can grow. -/
  | tables (earlier : List (List (String × Entry))) (last : List (String × Entry))

/-- The entries of a table. -/
abbrev Table := Assoc String Entry

namespace Table

/-- Changes the table at the end of a path. Tables on the way are created where there are none; a value
on the way is in the way. -/
def update (change : Table → Option Table) : List String → Table → Option Table
  | [], table => change table
  | key :: path, table =>
    match table.get? key with
    | none => do return table.set key (.table false (← update change path []))
    | some (.table declared inner) => do
      return table.set key (.table declared (← update change path inner))
    | some (.tables earlier last) => do
      return table.set key (.tables earlier (← update change path last))
    | some (.value _) => none

/-- Whether a path leads to a declared table or to an array of tables. -/
def isDeclared : List String → Table → Bool
  | [], _ => false
  | key :: path, table =>
    match table.get? key, path with
    | some (.table declared _), [] => declared
    | some (.tables _ _), [] => true
    | some (.table _ inner), _ => isDeclared path inner
    | some (.tables _ last), _ => isDeclared path last
    | _, _ => false

/-- Changes the entry at the end of a path. -/
def alter (change : Option Entry → Option Entry) (path : List String) (table : Table) :
    Option Table :=
  match path.getLast? with
  | none => none
  | some key =>
    table.update (fun inner => do return inner.set key (← change (inner.get? key))) path.dropLast

/-- Declares a table. -/
def declare : List String → Table → Option Table :=
  alter fun
    | none => some (.table true [])
    | some (.table false inner) => some (.table true inner)
    | _ => none

/-- Adds a table to an array of tables. -/
def append : List String → Table → Option Table :=
  alter fun
    | none => some (.tables [] [])
    | some (.tables earlier last) => some (.tables (earlier ++ [last]) [])
    | _ => none

/-- Writes a value. -/
def assign (v : Value) : List String → Table → Option Table :=
  alter fun
    | none => some (.value v)
    | _ => none

/-- Marks a table as declared. -/
def close (path : List String) (table : Table) : Option Table :=
  table.alter (fun
    | some (.table _ inner) => some (.table true inner)
    | entry => entry) path

end Table

mutual

/-- An entry as a value. -/
def Entry.toValue : Entry → Value
  | .value v => v
  | .table _ entries => .map (entryValues entries)
  | .tables earlier last => .list (tableValues earlier ++ [.map (entryValues last)])

/-- The entries of a table as the entries of a map. -/
def entryValues : List (String × Entry) → List (Value × Value)
  | [] => []
  | (key, entry) :: rest => (.str key, entry.toValue) :: entryValues rest

/-- Tables as values. -/
def tableValues : List (List (String × Entry)) → List Value
  | [] => []
  | entries :: rest => .map (entryValues entries) :: tableValues rest

end

end Stencil.Toml
