import Stencil.CommandLine.Arguments
import Stencil.CommandLine.Run
import Stencil.Engine.Basic
import Stencil.Engine.Lookup
import Stencil.Engine.Reload
import Stencil.Engine.Render
import Stencil.Engine.Sources
import Stencil.Eval.Arithmetic
import Stencil.Eval.Compare
import Stencil.Eval.ContainerMethod
import Stencil.Eval.Dialog
import Stencil.Eval.Evaluate
import Stencil.Eval.Function
import Stencil.Eval.Iterate
import Stencil.Eval.Member
import Stencil.Eval.Sort
import Stencil.Eval.Subscript
import Stencil.Eval.TextMethod
import Stencil.Expr.Basic
import Stencil.Expr.Formatted
import Stencil.Expr.Parser
import Stencil.Expr.Token
import Stencil.Files.Glob
import Stencil.Files.Path
import Stencil.Files.Tree
import Stencil.Format.Field
import Stencil.Format.Percent
import Stencil.Format.Spec
import Stencil.Main
import Stencil.Markup.Entity
import Stencil.Markup.Event
import Stencil.Markup.Node
import Stencil.Markup.Parse
import Stencil.Markup.Printer
import Stencil.Markup.Reference
import Stencil.Markup.Selector
import Stencil.Markup.Selector.Parser
import Stencil.Markup.Tree
import Stencil.Number.Binary
import Stencil.Number.Bits
import Stencil.Number.Layout
import Stencil.Number.Quotient
import Stencil.Number.Read
import Stencil.Number.Shortest
import Stencil.Report.Basic
import Stencil.Report.Reportable
import Stencil.Settings.Basic
import Stencil.Settings.Check
import Stencil.Settings.Load
import Stencil.Settings.Reference
import Stencil.Template.Brace
import Stencil.Template.Compile
import Stencil.Template.Directive
import Stencil.Template.Escape
import Stencil.Template.Extract
import Stencil.Template.Failure
import Stencil.Template.Generate
import Stencil.Template.Instruction
import Stencil.Template.Link
import Stencil.Template.Listing
import Stencil.Template.Preprocess
import Stencil.Template.Run
import Stencil.Template.Scan
import Stencil.Template.ScopeRef
import Stencil.Template.Snapshot
import Stencil.Template.Span
import Stencil.Text.Basic
import Stencil.Text.Blank
import Stencil.Text.Case
import Stencil.Text.Digit
import Stencil.Text.Letter
import Stencil.Text.Printable
import Stencil.Text.Quoted
import Stencil.Text.Search
import Stencil.Text.Utf8
import Stencil.Value.Basic
import Stencil.Value.Datum
import Stencil.Value.Fault
import Stencil.Value.Heap
import Stencil.Yaml.Cursor
import Stencil.Yaml.Load
import Stencil.Yaml.Meaning
import Stencil.Yaml.Node
import Stencil.Yaml.Parse
import Stencil.Yaml.Scalar
import Stencil.Proofs.Template.Block
import Stencil.Proofs.Template.Grammar
import Stencil.Proofs.Eval.Dialog
import Stencil.Proofs.Template.Structured
import Stencil.Proofs.Template.Machine
import Stencil.Proofs.Template.Tracking
import Stencil.Proofs.Template.Refinement
import Stencil.Proofs.Eval.Ends
import Stencil.Proofs.Template.Control
import Stencil.Proofs.Template.Safety
import Stencil.Proofs.Engine.Answers
import Stencil.Proofs.Eval.Leaves
import Stencil.Proofs.Template.Restoring
import Stencil.Proofs.Template.Delimiting
import Stencil.Proofs.Template.Splitting
import Stencil.Proofs.Template.Partition
import Stencil.Proofs.Template.Settled
import Stencil.Proofs.Template.Printing
import Stencil.Proofs.Template.Tokens
import Stencil.Proofs.Template.Guarding
import Stencil.Proofs.Template.Stretch
import Stencil.Proofs.Template.Interleaving
import Stencil.Proofs.Template.Keeping
import Stencil.Proofs.Engine.Registry
import Stencil.Proofs.Engine.Recompiling
import Stencil.Proofs.Engine.Capturing
import Stencil.Proofs.Template.Numbering
import Stencil.Proofs.Template.Sparing
import Stencil.Proofs.Markup.Replacing
import Stencil.Proofs.Engine.Quiet
import Stencil.Proofs.Engine.Sparing
import Stencil.Proofs.Engine.Reloading
import Stencil.Proofs.Engine.Failing
import Stencil.Proofs.Engine.Inlining
import Stencil.Proofs.Engine.Memoryless
import Stencil.Proofs.Engine.Blaming
import Stencil.Proofs.Template.Lookalikes
import Stencil.Proofs.Template.Repeating
import Stencil.Proofs.Template.Escaping
import Stencil.Proofs.Template.Nesting
import Stencil.Proofs.Template.Unescaping
import Stencil.Proofs.Template.Phrasing
import Stencil.Proofs.Template.Lowering
import Stencil.Proofs.Template.Lagging
import Stencil.Proofs.Template.CountingRun
import Stencil.Proofs.Settings.Misreading
import Stencil.Proofs.Engine.Onward
import Stencil.Proofs.Template.Halting
import Stencil.Proofs.Template.Limiting
import Stencil.Proofs.Template.Indenting
import Stencil.Proofs.Settings.Loading
import Stencil.Proofs.Engine.Listing
import Stencil.Proofs.Template.Reading
import Stencil.Proofs.Template.Shading
import Stencil.Proofs.Template.Relowering
