import LineScript.Text.Blank
import LineScript.Text.Search
import LineScript.Decimal.Double
import LineScript.Decimal.Shortest
import LineScript.Decimal.Layout
import LineScript.Decimal.Literal
import LineScript.Text.Ranges
import LineScript.Text.Printable
import LineScript.Text.CaseClass
import LineScript.Text.CaseMap
import LineScript.Text.Case
import LineScript.Text.Quoted
import LineScript.Scan.Depth
import LineScript.Scan.TopLevel
import LineScript.Scan.Group
import LineScript.Scan.Identifier
import LineScript.Scan.Comment
import LineScript.Table
import LineScript.Value.Basic
import LineScript.Value.Number
import LineScript.Value.Tree
import LineScript.Value.Heap
import LineScript.Builtin.Operation
import LineScript.Error
import LineScript.Bindings
import LineScript.Action
import LineScript.Console
import LineScript.Builtin.Argument
import LineScript.Builtin.Arithmetic
import LineScript.Builtin.Texts
import LineScript.Builtin.Collections
import LineScript.Builtin.Dialogue
import LineScript.Builtin.Catalog
import LineScript.Expression.Literal
import LineScript.Expression.Form
import LineScript.Expression.Evaluate
import LineScript.Script.Statement
import LineScript.Script.Clause
import LineScript.Script.Line
import LineScript.Script.Run
import LineScript.Interpreter
import LineScript.Toml.Node
import LineScript.Toml.Quoted
import LineScript.Toml.Scalar
import LineScript.Toml.Document
import LineScript.Config
import LineScript.CommandLine.Path
import LineScript.CommandLine.FileTree
import LineScript.CommandLine.Streams
import LineScript.CommandLine.Arguments
import LineScript.CommandLine.Load
import LineScript.CommandLine.Single
import LineScript.CommandLine.Batch
import LineScript.Main
import LineScript.Proofs.Scan.Nesting
import LineScript.Proofs.Scan.Search
import LineScript.Proofs.Text.Trim
import LineScript.Proofs.Expression.Grammar
import LineScript.Proofs.Decimal.Literal
import LineScript.Proofs.Expression.Shape
import LineScript.Proofs.Expression.Reading
import LineScript.Proofs.Expression.Forms
import LineScript.Proofs.Expression.Meaning
import LineScript.Proofs.Action
import LineScript.Proofs.Scan.Stack
import LineScript.Proofs.Scan.Split
import LineScript.Proofs.Expression.Acceptance
import LineScript.Proofs.Scan.Comment
import LineScript.Proofs.Script.Lines
import LineScript.Proofs.Script.Layout
import LineScript.Proofs.Script.Structure
import LineScript.Proofs.Script.Truncation
import LineScript.Proofs.Console
import LineScript.Proofs.Script.Failure
import LineScript.Proofs.Decimal.Whole
import LineScript.Proofs.Value.RoundTrip
import LineScript.Proofs.Conduct
import LineScript.Proofs.Dialogue
import LineScript.Proofs.Session
import LineScript.Proofs.Builtin.Outcome
import LineScript.Proofs.Expression.Parts
import LineScript.Proofs.Expression.Limit
import LineScript.Proofs.Script.Limit
import LineScript.Proofs.Script.Nesting
import LineScript.Proofs.Script.Sequence
import LineScript.Proofs.Course
import LineScript.Proofs.Value.Frame
import LineScript.Proofs.Value.Presence
import LineScript.Proofs.Table
import LineScript.Proofs.Value.Grounded
import LineScript.Proofs.Value.Acyclic
import LineScript.Proofs.Script.Statement
import LineScript.Proofs.Expression.Operators
import LineScript.Proofs.Script.Quotation
import LineScript.Proofs.Script.Coverage
import LineScript.Proofs.Expression.Numeral
import LineScript.Proofs.Decimal.Count
import LineScript.Proofs.Builtin.Search
import LineScript.Proofs.Builtin.Dispatch
import LineScript.Proofs.Builtin.Atomic
import LineScript.Proofs.Expression.Object
import LineScript.Proofs.Text.Bytes
import LineScript.Proofs.Scan.InPlace
import LineScript.Proofs.Expression.InPlace
import LineScript.Proofs.Script.InPlace
import LineScript.Proofs.Builtin.Split
import LineScript.Proofs.Decimal.Exact
import LineScript.Proofs.Builtin.Padding
import LineScript.Proofs.Decimal.Spelling
import LineScript.Proofs.Decimal.Rounding
import LineScript.Proofs.Decimal.Shortest
import LineScript.Proofs.Decimal.Printed
import LineScript.Proofs.Scan.Group
import LineScript.Proofs.Scan.Occurrence
import LineScript.Proofs.Value.Keyed
import LineScript.Proofs.Value.Equality
