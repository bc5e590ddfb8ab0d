/-!
Association lists in insertion order. Looking a key up gives its first entry; writing a key replaces
that entry in place or appends a new one, so the order in which keys first came is kept.
-/

namespace Stencil

/-- An association list from keys to values. -/
abbrev Assoc (κ ν : Type) := List (κ × ν)

namespace Assoc

variable {κ ν : Type} [BEq κ]

/-- The value of the first entry with a given key. -/
def get? (m : Assoc κ ν) (key : κ) : Option ν :=
  match m with
  | [] => none
  | (k, v) :: rest => if k == key then some v else get? rest key

/-- Whether a key has an entry. -/
def has (m : Assoc κ ν) (key : κ) : Bool :=
  (m.get? key).isSome

/-- Writes a value under a key. -/
def set (m : Assoc κ ν) (key : κ) (value : ν) : Assoc κ ν :=
  match m with
  | [] => [(key, value)]
  | (k, v) :: rest => if k == key then (k, value) :: rest else (k, v) :: set rest key value

/-- Removes the entries with a given key. -/
def erase (m : Assoc κ ν) (key : κ) : Assoc κ ν :=
  m.filter fun entry => !(entry.1 == key)

/-- The keys in order. -/
def keys (m : Assoc κ ν) : List κ :=
  m.map Prod.fst

/-- Writes all entries of `upper` onto `m`, one after another. -/
def merge (m upper : Assoc κ ν) : Assoc κ ν :=
  upper.foldl (fun acc entry => acc.set entry.1 entry.2) m

/-- The association list with the last value of each key, at the place of the key's first entry. -/
def ofPairs (pairs : List (κ × ν)) : Assoc κ ν :=
  merge [] pairs

end Assoc

end Stencil
