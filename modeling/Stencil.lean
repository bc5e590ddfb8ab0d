import Stencil.Template.Render
import Stencil.Template.Analysis
import Stencil.Template.Load
import Stencil.Inheritance.Stock
import Stencil.Inheritance.Load
import Stencil.Composition.Load
import Stencil.Composition.Stock
import Stencil.Journal.Journal
import Stencil.Settings.Load
import Stencil.Proofs.Markup.Print
import Stencil.Proofs.Template.Coverage
import Stencil.Proofs.Template.Missing
import Stencil.Proofs.Template.Prediction
import Stencil.Proofs.Markup.Collapse
import Stencil.Proofs.Inheritance.Closure
import Stencil.Proofs.Inheritance.Overrides
import Stencil.Proofs.Composition.Order
import Stencil.Proofs.Inheritance.Family
import Stencil.Proofs.Template.Escape
import Stencil.Proofs.Composition.Agreement
import Stencil.Proofs.Markup.Literal
import Stencil.Proofs.Markup.Visit
import Stencil.Proofs.Template.Flags
import Stencil.Proofs.Condition.Lexeme
import Stencil.Proofs.Condition.Grammar
import Stencil.Proofs.Markup.Argument
import Stencil.Proofs.Condition.Argument
import Stencil.Proofs.Condition.Marker
import Stencil.Proofs.Markup.Region
import Stencil.Proofs.Inheritance.Frame
import Stencil.Proofs.Markup.Restore
import Stencil.Proofs.Template.Unrolled
import Stencil.Proofs.Value.Path
import Stencil.Proofs.Number.Rounding
import Stencil.Proofs.Number.Order
import Stencil.Proofs.Composition.Measure
import Stencil.Proofs.Value.Text
import Stencil.Proofs.Composition.Demand
import Stencil.Proofs.Value.Place
import Stencil.Proofs.Value.Equality
import Stencil.Proofs.Composition.Equality
import Stencil.Proofs.Settings.Table
import Stencil.Proofs.Settings.Layer
import Stencil.Proofs.Settings.Load
import Stencil.Proofs.Text.Case
import Stencil.Proofs.Settings.Write
import Stencil.Proofs.Settings.Environment
import Stencil.Proofs.Template.Fallback
import Stencil.Proofs.Header.Split
import Stencil.Proofs.Markup.Normal
import Stencil.Proofs.Text.Spacing
import Stencil.Proofs.Template.Spacing
