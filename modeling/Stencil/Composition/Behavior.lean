import Stencil.Composition.Requirement

/-!
Behaviors: what a rule demands of the history of whoever uses the templates. The history is a map under
a name of its own in the context.
-/

namespace Stencil.Composition

open Stencil.Number

/-- What a behavior is about. -/
inductive Trait where
  | usageFrequency
  | successRate
  | timeOfDay
  | domainExpertise
  deriving DecidableEq, Repr

/-- A demand on the history of use. -/
structure Behavior where
  trait : Trait
  /-- The least frequency, rate or expertise. -/
  threshold : Option Float
  /-- The first and the last hour of the day. -/
  hours : Option (Int × Int)
  domain : Option String

/-- The words for traits. -/
def Trait.words : List (String × Trait) :=
  [ ("usage_frequency", .usageFrequency), ("success_rate", .successRate),
    ("time_of_day", .timeOfDay), ("domain_expertise", .domainExpertise) ]

/-- The word for a trait. -/
def Trait.word : Trait → String
  | .usageFrequency => "usage_frequency"
  | .successRate => "success_rate"
  | .timeOfDay => "time_of_day"
  | .domainExpertise => "domain_expertise"

/-- The history in a context, empty if there is none. -/
def history (context : Bindings) : Schema.Fields :=
  match context.get? "user_behavior" with
  | some (.map fields) => fields
  | _ => []

/-- A double, with zero of either sign given by a fallback. -/
def nonzeroOr (fallback x : Float) : Float :=
  if x == 0 then fallback else x

/-- What a history counts under a name, zero if it counts nothing. -/
def count (fields : Schema.Fields) (name : String) : Except Failure Float := do
  return nonzeroOr 0 ((← ((fields.get? (.str name)).getD .null).measure?).getD 0)

/-- Whether one number is at most another. -/
def atMost (a b : Numeric) : Bool :=
  match a.compare? b with
  | some order => order != .gt
  | none => false

/-- The hour of a history, or that of the clock. -/
def hourOf (fields : Schema.Fields) (clock : Nat) : Numeric :=
  (((fields.get? (.str "hour_of_day")).getD .null).toNumber?).getD (.int clock)

/-- How expert a history is in a domain, if it says so. -/
def expertise (fields : Schema.Fields) (domain : String) : Except Failure (Option Float) :=
  match fields.get? (.str "domain_expertise") with
  | some (.map domains) => ((Assoc.get? domains (.str domain)).getD .null).measure?
  | _ => .ok none

/-- Whether a behavior shows in a context, at a given hour of the clock. -/
def Behavior.holds (b : Behavior) (clock : Nat) (context : Bindings) : Except Failure Bool := do
  let fields := history context
  let threshold := nonzeroOr 0 (b.threshold.getD 0)
  match b.trait with
  | .usageFrequency => return threshold ≤ (← count fields "usage_count")
  | .successRate =>
    let successes ← count fields "successful_prompts"
    let attempts := nonzeroOr 1 (← count fields "total_prompts")
    return threshold ≤ successes / attempts
  | .timeOfDay =>
    match b.hours with
    | none => return true
    | some (first, last) =>
      let hour := hourOf fields clock
      return atMost (.int first) hour && atMost hour (.int last)
  | .domainExpertise =>
    match ← expertise fields (b.domain.getD "") with
    | some score => return threshold ≤ score
    | none => return false

open Schema

/-- Reads a behavior. -/
def Behavior.read : Value → Reading Behavior :=
  record "BehaviorPattern" fun fields =>
    Behavior.mk
      <$> required fields "type" (choice Trait.words)
      <*> withDefault fields "threshold" (nullable float) none
      <*> withDefault fields "time_range" (nullable (pair integer)) none
      <*> withDefault fields "domain" (nullable text) none

/-- A value that may be missing as data. -/
def orNull {α : Type} (f : α → Value) : Option α → Value
  | some a => f a
  | none => .null

/-- A behavior as data. -/
def Behavior.toValue (b : Behavior) : Value :=
  .ofBindings [
    ("type", .str b.trait.word),
    ("threshold", orNull .float b.threshold),
    ("time_range", orNull (fun (first, last) => .list [.int first, .int last]) b.hours),
    ("domain", orNull .str b.domain)]

end Stencil.Composition
