import Stencil.Journal.Event
import Stencil.Schema.Scalar
import Stencil.Settings.Layer
import Stencil.Template.Basic

/-!
Settings: how events are written, and how templates are rendered unless they say otherwise.
-/

namespace Stencil

/-- How events are written. -/
inductive JournalFormat where
  | json
  | plain
  deriving DecidableEq, Repr

/-- Which events are written, how, and to which file; without a file, to the standard error. -/
structure JournalSettings where
  threshold : Severity := .warning
  format : JournalFormat := .plain
  file : String := ""
  deriving DecidableEq, Repr

/-- How templates are rendered. -/
structure RenderSettings where
  flags : Flags := {}
  escapesHtml : Bool := false
  keepsWhitespace : Bool := true
  deriving DecidableEq, Repr

/-- All settings, and where they came from. -/
structure Settings where
  journal : JournalSettings := {}
  rendering : RenderSettings := {}
  sources : List String := []
  deriving DecidableEq, Repr

namespace Settings

/-- The settings below all others. -/
def defaults : Table :=
  [ (.str "logging", .ofBindings [
      ("level", .str "warning"),
      ("format", .str "text"),
      ("file", .str "")]),
    (.str "render", .ofBindings [
      ("conditionals", .bool true),
      ("loops", .bool true),
      ("inheritance", .bool true),
      ("escape_html", .bool false),
      ("preserve_whitespace", .bool true)]) ]

open Schema

/-- Reads the settings of the journal. -/
def readJournal : Value → Reading JournalSettings :=
  record "LoggingConfig" fun fields =>
    JournalSettings.mk
      <$> withDefault fields "level"
        (choice [("debug", .debug), ("info", .info), ("warning", .warning), ("error", .error)])
        .warning
      <*> withDefault fields "format" (choice [("json", .json), ("text", .plain)]) .plain
      <*> withDefault fields "file" text ""

/-- Reads the settings of rendering. -/
def readRendering : Value → Reading RenderSettings :=
  record "RenderConfig" fun fields =>
    RenderSettings.mk
      <$> (Flags.mk
        <$> withDefault fields "conditionals" truth true
        <*> withDefault fields "loops" truth true
        <*> withDefault fields "inheritance" truth true)
      <*> withDefault fields "escape_html" truth false
      <*> withDefault fields "preserve_whitespace" truth true

/-- Reads a table of settings. -/
def read (table : Table) : Reading Settings :=
  (fun journal rendering => { journal, rendering })
    <$> withDefault table "logging" readJournal {}
    <*> withDefault table "render" readRendering {}

/-- The settings that a table gives over the defaults. -/
def ofTable (table : Table) (source : Option String) : Except Failure Settings :=
  match read (layer defaults table) with
  | .accepted settings => .ok { settings with sources := source.toList }
  | .rejected findings => .error (.invalidSettings (findings.map (·.message)) source)

/-- A template that is rendered as the settings say. -/
def template (settings : Settings) (source : String) (bindings : Bindings) (functions : Functions)
    (base : Option String) : Template :=
  { source, bindings, functions, base
    flags := settings.rendering.flags
    escapesHtml := settings.rendering.escapesHtml
    keepsWhitespace := settings.rendering.keepsWhitespace }

end Settings

end Stencil
