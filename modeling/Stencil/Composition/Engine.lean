import Stencil.Function.Basic

/-!
Engines for the expressions of rules.

An engine compiles a text to a test of contexts. What texts it takes, and what they mean, is its own.
-/

namespace Stencil

/-- How an engine fails. -/
inductive EngineFault where
  /-- A text does not follow the grammar of the engine. -/
  | grammar
  /-- Another failure that the engine has a name for. -/
  | engine
  /-- A value is of a type that an operation does not take. -/
  | typing (e : Failure)
  /-- A failure that has nothing to do with the engine. -/
  | other (e : Failure)
  deriving DecidableEq, Repr

/-- A test of contexts, which may call functions. -/
abbrev Engine.Test := Functions → Bindings → ExceptT EngineFault (StateM Nat) Bool

/-- An engine. -/
structure Engine where
  compile : String → Except EngineFault Engine.Test

end Stencil
