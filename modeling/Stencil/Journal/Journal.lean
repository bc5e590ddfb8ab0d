import Stencil.Journal.Line
import Stencil.Settings.Basic

/-!
Journals: which events are written, and how. A threshold is a rank; events of a lower rank are left
out.
-/

namespace Stencil

/-- The rank of a severity. -/
def Severity.rank : Severity → Nat
  | .debug => 10
  | .info => 20
  | .warning => 30
  | .error => 40
  | .critical => 50

/-- The words that name a threshold, in capital letters. -/
def thresholdWords : List (String × Nat) :=
  [ ("CRITICAL", 50), ("FATAL", 50), ("ERROR", 40), ("WARN", 30), ("WARNING", 30), ("INFO", 20),
    ("DEBUG", 10), ("NOTSET", 0) ]

/-- What the environment says about journals. -/
structure JournalEnvironment where
  /-- Whether everything is to be written. -/
  debugs : Bool := false
  /-- The word for the threshold. -/
  level : Option String := none

/-- The threshold that the environment sets; without a known word it is that of warnings. -/
def JournalEnvironment.threshold (environment : JournalEnvironment) : Nat :=
  if environment.debugs then Severity.debug.rank
  else
    let word := (environment.level.getD "warning").toList
    (thresholdWords.lookup (String.ofList (Text.upper word))).getD Severity.warning.rank

/-- A journal: the rank from which on events are written, and how. -/
structure Journal where
  threshold : Nat
  format : JournalFormat
  deriving DecidableEq, Repr

namespace Journal

/-- A journal with a given threshold, which has to be one that has a name. -/
def make? (threshold : Nat) (format : JournalFormat) : Except Failure Journal :=
  if thresholdWords.any fun entry => entry.2 == threshold then .ok ⟨threshold, format⟩
  else .error .unknownThreshold

/-- The journal that settings describe. The environment can ask for everything. -/
def ofSettings (settings : JournalSettings) (environment : JournalEnvironment) : Journal :=
  ⟨if environment.debugs then Severity.debug.rank else settings.threshold.rank, settings.format⟩

/-- An event as a line. -/
def line (journal : Journal) (e : Event) : Except Failure String :=
  match journal.format with
  | .json => e.jsonLine
  | .plain => e.plainLine

/-- The text that a journal makes of events. -/
def write (journal : Journal) : List Event → Except Failure String
  | [] => .ok ""
  | e :: rest => do
    if e.severity.rank < journal.threshold then write journal rest
    else
      let head ← journal.line e
      let tail ← write journal rest
      return head ++ "\n" ++ tail

end Journal

end Stencil
