import Stencil.Condition.Error
import Stencil.Markup.Error
import Stencil.Number.Numeric

/-!
Everything that can go wrong, as causes. The wording of each cause is given once, by
`Failure.message?`; causes without a wording of their own are told apart by their kind alone.
-/

namespace Stencil

/-- What is wrong with a file that should be read. -/
inductive FileFault where
  | notFound
  | isDirectory
  | notDirectory
  deriving DecidableEq, Repr

/-- What is wrong with a pattern for file names. -/
inductive PatternFault where
  | empty
  | absolute
  /-- The pattern for any depth is not a part of its own. -/
  | misplacedStars
  deriving DecidableEq, Repr

/-- At which stage an expression of a rule failed. -/
inductive RuleStage where
  /-- It does not follow the grammar. -/
  | grammar
  /-- It follows the grammar, but a part that needs no context has no value. -/
  | folding
  /-- It has no value in the context at hand. -/
  | evaluation
  deriving DecidableEq, Repr

/-- What a field of a file's header should hold. -/
inductive HeaderShape where
  | mapping
  | boolean
  | path
  | names
  deriving DecidableEq, Repr

/-- The reason why an operation has no result. -/
inductive Failure where
  /-- The markers of a template do not fit together. -/
  | markup (error : Markup.MarkupError)
  /-- A condition cannot be compiled. -/
  | condition (fault : Condition.Fault) (expression : String)
  /-- A variable that is to be written has no value. -/
  | missingVariable (path : String)
  /-- A loop runs over something that is no list. -/
  | notIterable (path : String)
  /-- A function is not registered. -/
  | unknownFunction (name : String)
  /-- A function is called with too few or too many arguments. -/
  | argumentCount
  /-- A function of the host fails for a reason of its own. -/
  | host (label : String)
  /-- Arithmetic on a value that is no number; the value as messages show it. -/
  | notANumber (shown : String)
  /-- Arithmetic on numbers without a result. -/
  | arithmetic (fault : Number.ArithmeticFault)
  /-- A position in a list is spelled with digit-like characters that have no value. -/
  | unreadableIndex
  /-- An integer has too many digits to be written or read. -/
  | longInteger
  /-- A map cannot be written as data. -/
  | unserializable
  /-- A list or map stands where a key is due. -/
  | unhashable
  /-- A name is looked up on something that has no names. -/
  | noMembers
  /-- A date or number in a data file is spelled right but does not exist. -/
  | impossibleScalar
  /-- A number in a data file is announced, but nothing is written for it. -/
  | emptyNumber
  /-- A truth value in a data file is announced, but the word for it is unknown. -/
  | unknownTruthWord
  /-- A field of a file's header has the wrong shape. -/
  | headerField (field path : String) (expected : HeaderShape)
  /-- A base template is not registered. -/
  | baseNotFound (name : String)
  /-- A template is not registered. -/
  | templateNotFound (name : String)
  /-- No registered template has a rule that holds. -/
  | noApplicableTemplate (templates rules : Nat)
  /-- The expression of a rule failed. -/
  | ruleExpression (stage : RuleStage) (expression : String)
  /-- A rule does not fit its model. -/
  | invalidRule (message : String) (rule : Option String) (errors : List String)
  /-- A part of a rule that is read on its own does not fit its model. -/
  | invalidModel
  /-- A settings file is not well formed. -/
  | malformedSettings
  /-- Settings do not fit their model. -/
  | invalidSettings (errors : List String) (source : Option String)
  /-- A file cannot be read. -/
  | file (fault : FileFault)
  /-- A pattern for file names is not acceptable. -/
  | badFilePattern (fault : PatternFault)
  /-- A severity is not one of the known thresholds. -/
  | unknownThreshold
  deriving DecidableEq, Repr

/-- The wording of what a header field should hold. -/
def HeaderShape.wording : HeaderShape → String
  | .mapping => "a mapping"
  | .boolean => "true or false"
  | .path => "a path"
  | .names => "a list of names"

/-- The wording of the stage at which an expression failed. -/
def RuleStage.wording : RuleStage → String
  | .grammar => "Invalid expression syntax"
  | .folding => "Invalid expression"
  | .evaluation => "Expression evaluation failed"

/-- The wording of a failure, where it has one. -/
def Failure.message? : Failure → Option String
  | .markup error => some error.fault.message
  | .condition fault _ => some fault.message
  | .missingVariable path => some s!"Variable '{path}' not found in template variables"
  | .notIterable path => some s!"Variable '{path}' is not an array for loop"
  | .unknownFunction name => some s!"Function '{name}' not found"
  | .notANumber shown => some s!"Expected a number, got {shown}"
  | .headerField field path expected =>
    some s!"Frontmatter field '{field}' in {path} must be {expected.wording}"
  | .baseNotFound name => some s!"Base template '{name}' not found"
  | .templateNotFound name => some s!"Template '{name}' not found"
  | .noApplicableTemplate _ _ => some "No applicable templates found for the given context"
  | .ruleExpression stage _ => some stage.wording
  | .invalidRule message _ _ => some message
  | .malformedSettings => some "Failed to parse TOML file"
  | .invalidSettings errors _ => some ("Invalid configuration: " ++ "; ".intercalate errors)
  | _ => none

/-- A result of reading markup, its error turned into a failure. -/
def liftMarkup {α : Type} : Except Markup.MarkupError α → Except Failure α
  | .ok a => .ok a
  | .error e => .error (.markup e)

end Stencil
