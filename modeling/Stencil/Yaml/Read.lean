import Stencil.Value.Equality
import Stencil.Yaml.Node

/-!
From a tree to a value. A mapping whose key is the merge mark takes over the entries of another, its
own entries winning.
-/

namespace Stencil.Yaml

open Stencil.Number

/-- The value of a text as an integer in a base, if it is one. -/
def basedValue? (base : Nat) (s : List Char) : Option Nat :=
  if s.isEmpty then none
  else s.foldlM (fun n c => do
    let digit ← hexValue? c
    if digit < base then some (base * n + digit) else none) 0

/-- The value of a number in sixtieths. -/
def sixtieths {α : Type} (add : α → α → α) (times60 : α → α) (zero : α) (parts : List α) : α :=
  parts.foldl (fun total part => add (times60 total) part) zero

/-- The value of a text that should spell an integer. -/
def intValue (text : String) : Except Failure Value :=
  let plain := text.toList.filter (· != '_')
  let (negative, s) := splitSign plain
  let magnitude : Option Int := match s with
    | ['0'] => some 0
    | '0' :: 'b' :: digits => (basedValue? 2 digits).map (↑·)
    | '0' :: 'x' :: digits => (basedValue? 16 digits).map (↑·)
    | '0' :: 'o' :: digits => (basedValue? 8 digits).map (↑·)
    | '0' :: _ => (basedValue? 8 s).map (↑·)
    | _ =>
      if s.contains ':' then do
        let (first, rest) := splitColons s
        let parts ← (first :: rest).mapM readInt?
        some (sixtieths (· + ·) (· * 60) 0 parts)
      else readInt? s
  if s.isEmpty then .error .emptyNumber
  else match magnitude with
    | some n => .ok (.int (if negative then -n else n))
    | none => .error .impossibleScalar

/-- The value of a number in sixtieths with a fraction: the last part counts once, the one before it
sixty times, and so on. -/
def floatSixtieths (parts : List Float) : Float :=
  (parts.reverse.foldl (fun (total, weight) part =>
    (total + part * weight, weight * 60)) ((0 : Float), (1 : Float))).1

/-- The value of a text that should spell a number. -/
def floatValue (text : String) : Except Failure Value :=
  let plain := (text.toList.filter (· != '_')).map Char.toLower
  let (negative, s) := splitSign plain
  let magnitude : Option Float :=
    if s == ".inf".toList then some infinity
    else if s == ".nan".toList then some notANumber
    else if s.contains ':' then do
      let (first, rest) := splitColons s
      let parts ← (first :: rest).mapM readFloat?
      some (floatSixtieths parts)
    else readFloat? s
  if plain.isEmpty then .error .emptyNumber
  else match magnitude with
    | some x => .ok (.float (if negative then -x else x))
    | none => .error .impossibleScalar

/-- The value of a text that should spell a date. -/
def timestampValue (text : String) : Except Failure Value :=
  match stamp? text.toList with
  | none => .error .noMembers
  | some ⟨date, clock, offset⟩ =>
    if !date.isValid then .error .impossibleScalar
    else match clock with
      | none => .ok (.temporal (.date date))
      | some clock =>
        if clock.isValid && offset.all (·.natAbs < 1440) then
          .ok (.temporal (.dateTime date clock offset))
        else .error .impossibleScalar

/-- The value of a text that should spell a truth value. -/
def boolValue (text : String) : Except Failure Value :=
  match truthWords.lookup (String.ofList (text.toList.map Char.toLower)) with
  | some b => .ok (.bool b)
  | none => .error .unknownTruthWord

/-- A failure to make a value. -/
def liftFailure : Except Failure Value → Except Fault Value
  | .ok v => .ok v
  | .error f => .error (.failure f)

/-- The value of a scalar. -/
def scalarValue (tag : Tag) (text : String) : Except Fault Value :=
  match tag with
  | .null => .ok .null
  | .bool => liftFailure (boolValue text)
  | .int => liftFailure (intValue text)
  | .float => liftFailure (floatValue text)
  | .timestamp => liftFailure (timestampValue text)
  | .text => .ok (.str text)
  | _ => .error .malformed

/-- Whether a node is the merge mark. -/
def Node.isMerge : Node → Bool
  | .scalar tag _ | .sequence tag _ | .mapping tag _ => tag == .merge

mutual

/-- The value of a node. -/
def Node.toValue : Node → Except Fault Value
  | .scalar tag text => scalarValue tag text
  | .sequence tag items => do
    if tag != .sequence then throw .malformed
    return .list (← itemValues items)
  | .mapping tag entries => do
    if tag != .mapping then throw .malformed
    let (merged, own) ← entryValues entries
    return .map (Assoc.ofPairs (merged ++ own))

/-- The values of nodes. -/
def itemValues : List Node → Except Fault (List Value)
  | [] => .ok []
  | item :: rest => do
    let head ← item.toValue
    let tail ← itemValues rest
    return head :: tail

/-- The value of a key, which has to be a scalar. -/
def Node.keyValue : Node → Except Fault Value
  | .scalar .default text => .ok (.str text)
  | .scalar tag text => scalarValue tag text
  | .sequence _ _ | .mapping _ _ => .error .malformed

/-- The entries of a mapping as values: those that it takes over, and its own. -/
def entryValues : List (Node × Node) → Except Fault (List (Value × Value) × List (Value × Value))
  | [] => .ok ([], [])
  | (key, value) :: rest => do
    if key.isMerge then
      let taken ← value.mergedEntries
      let (merged, own) ← entryValues rest
      return (taken ++ merged, own)
    else
      let k ← key.keyValue
      let v ← value.toValue
      let (merged, own) ← entryValues rest
      return (merged, (k, v) :: own)

/-- The entries that a mapping takes over from a node: a mapping, or a sequence of mappings of which
earlier ones win. -/
def Node.mergedEntries : Node → Except Fault (List (Value × Value))
  | .mapping _ entries => do
    let (merged, own) ← entryValues entries
    return merged ++ own
  | .sequence _ items => mergedItems items
  | .scalar _ _ => .error .malformed

/-- The entries of several mappings, those of later ones first. -/
def mergedItems : List Node → Except Fault (List (Value × Value))
  | [] => .ok []
  | .mapping _ entries :: rest => do
    let (merged, own) ← entryValues entries
    let later ← mergedItems rest
    return later ++ merged ++ own
  | _ :: _ => .error .malformed

end

/-- The value of a YAML text, missing for one that is empty. Nothing is given for a text that cannot be
read; a value in it that is spelled right but does not exist is a failure. -/
def read (source : String) : Except Failure (Option Value) :=
  let result := do
    match ← readDocument source with
    | none => return Value.null
    | some node => node.toValue
  match result with
  | .ok v => .ok (some v)
  | .error .malformed => .ok none
  | .error (.failure f) => .error f

end Stencil.Yaml
