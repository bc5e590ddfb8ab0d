import Stencil.Value.Equality

/-!
Reading a value under a model. A reading goes through all fields of a model and collects everything
that is wrong, in the order of the fields, so that an author sees all mistakes at once.
-/

namespace Stencil.Schema

/-- What can be wrong with one part of a value. -/
inductive Complaint where
  | required
  | text
  | truth
  /-- A text or number that does not stand for a truth value. -/
  | truthSpelling
  | integer
  /-- A text that does not spell an integer. -/
  | integerSpelling
  /-- A text or float that is too large for an integer. -/
  | integerSize
  | fractional
  | infinite
  | number
  /-- A text that does not spell a number. -/
  | numberSpelling
  | sequence
  | pair
  /-- A pair with more than two items. -/
  | pairSize (items : Nat)
  | record (model : String)
  | choice (words : List String)
  /-- A complaint in the words of the check that made it. -/
  | invalid (reason : String)
  deriving DecidableEq, Repr

/-- Words in quotes, the last two joined by *or*. -/
def alternatives : List String → String
  | [] => ""
  | [word] => s!"'{word}'"
  | [word, last] => s!"'{word}' or '{last}'"
  | word :: rest => s!"'{word}', " ++ alternatives rest

/-- The wording of a complaint. -/
def Complaint.message : Complaint → String
  | .required => "Field required"
  | .text => "Input should be a valid string"
  | .truth => "Input should be a valid boolean"
  | .truthSpelling => "Input should be a valid boolean, unable to interpret input"
  | .integer => "Input should be a valid integer"
  | .integerSpelling => "Input should be a valid integer, unable to parse string as an integer"
  | .integerSize => "Unable to parse input string as an integer, exceeded maximum size"
  | .fractional => "Input should be a valid integer, got a number with a fractional part"
  | .infinite => "Input should be a finite number"
  | .number => "Input should be a valid number"
  | .numberSpelling => "Input should be a valid number, unable to parse string as a number"
  | .sequence => "Input should be a valid list"
  | .pair => "Input should be a valid tuple"
  | .pairSize items => s!"Tuple should have at most 2 items after validation, not {items}"
  | .record model => s!"Input should be a valid dictionary or instance of {model}"
  | .choice words => "Input should be " ++ alternatives words
  | .invalid reason => "Value error, " ++ reason

/-- A complaint and the place it is about: field names and positions from the outside in. -/
structure Finding where
  place : List String
  complaint : Complaint
  deriving DecidableEq, Repr

/-- The wording of a finding: its place and its complaint. -/
def Finding.message (f : Finding) : String :=
  ".".intercalate f.place ++ ": " ++ f.complaint.message

/-- The outcome of reading a value: the result, or everything that is wrong. -/
inductive Reading (α : Type) where
  | accepted (result : α)
  | rejected (findings : List Finding)

namespace Reading

variable {α β : Type}

/-- Applies a read function to a read argument. The findings of both are kept. -/
def apply (f : Reading (α → β)) (x : Reading α) : Reading β :=
  match f, x with
  | accepted f, accepted a => accepted (f a)
  | accepted _, rejected e => rejected e
  | rejected e, accepted _ => rejected e
  | rejected e, rejected e' => rejected (e ++ e')

instance : Applicative Reading where
  pure := accepted
  seq f x := f.apply (x ())

/-- A reading that fails with one complaint about the value itself. -/
def refuse (complaint : Complaint) : Reading α :=
  rejected [⟨[], complaint⟩]

/-- A reading of a part, its findings put at the place of the part. -/
def within (name : String) : Reading α → Reading α
  | accepted a => accepted a
  | rejected findings => rejected (findings.map fun f => { f with place := name :: f.place })

/-- Goes on with the result of a reading. -/
def andThen (x : Reading α) (f : α → Reading β) : Reading β :=
  match x with
  | accepted a => f a
  | rejected findings => rejected findings

end Reading

/-- Reads the items of a list, each at its position. -/
def readItems {α : Type} (read : Value → Reading α) (position : Nat) :
    List Value → Reading (List α)
  | [] => pure []
  | item :: rest =>
    List.cons <$> (read item).within (toString position) <*> readItems read (position + 1) rest

/-- The fields of a record by name. -/
abbrev Fields := Assoc Value Value

/-- Reads a field that has to be there. -/
def required {α : Type} (fields : Fields) (name : String) (read : Value → Reading α) : Reading α :=
  match fields.get? (.str name) with
  | some v => (read v).within name
  | none => (Reading.refuse .required).within name

/-- Reads a field that has a value of its own when it is left out. -/
def withDefault {α : Type} (fields : Fields) (name : String) (read : Value → Reading α)
    (default : α) : Reading α :=
  match fields.get? (.str name) with
  | some v => (read v).within name
  | none => pure default

/-- Reads a record under the model of a given name. -/
def record {α : Type} (model : String) (read : Fields → Reading α) : Value → Reading α
  | .map fields => read fields
  | _ => .refuse (.record model)

/-- Reads a list. -/
def listOf {α : Type} (read : Value → Reading α) : Value → Reading (List α)
  | .list items => readItems read 0 items
  | _ => .refuse .sequence

/-- Reads a value that may be missing. -/
def nullable {α : Type} (read : Value → Reading α) : Value → Reading (Option α)
  | .null => pure none
  | v => some <$> read v

/-- Reads one of several words. -/
def choice {α : Type} (words : List (String × α)) (v : Value) : Reading α :=
  let found := match v with
    | .str s => words.lookup s
    | _ => none
  match found with
  | some a => pure a
  | none => .refuse (.choice (words.map Prod.fst))

end Stencil.Schema
