import FormulaTable.Address.Cell
import FormulaTable.Address.Column
import FormulaTable.Address.Range
import FormulaTable.Builtin.Ambient
import FormulaTable.Builtin.Call
import FormulaTable.Builtin.Catalogue
import FormulaTable.Builtin.Lookup
import FormulaTable.Builtin.Query
import FormulaTable.Calendar.Date
import FormulaTable.Calendar.Format
import FormulaTable.CommandLine.Arguments
import FormulaTable.CommandLine.Report
import FormulaTable.Evaluation.Context
import FormulaTable.Evaluation.Expr
import FormulaTable.Evaluation.Path
import FormulaTable.Formula.Call
import FormulaTable.Formula.Expr
import FormulaTable.Formula.Fault
import FormulaTable.Formula.Value
import FormulaTable.Grid.Basic
import FormulaTable.Grid.Blob
import FormulaTable.Json.Basic
import FormulaTable.Json.Token
import FormulaTable.Main
import FormulaTable.Meaning.Arithmetic
import FormulaTable.Meaning.Dates
import FormulaTable.Meaning.Logic
import FormulaTable.Meaning.Statistics
import FormulaTable.Meaning.Wording
import FormulaTable.Number.Binary
import FormulaTable.Number.Decimal
import FormulaTable.Number.Digits
import FormulaTable.Number.Display
import FormulaTable.Number.Nearest
import FormulaTable.Number.Rounding
import FormulaTable.Number.Whole
import FormulaTable.Proofs.Address.Cell
import FormulaTable.Proofs.Address.Column
import FormulaTable.Proofs.Address.Grammar
import FormulaTable.Proofs.Address.Intersection
import FormulaTable.Proofs.Address.Names
import FormulaTable.Proofs.Builtin.Alike
import FormulaTable.Proofs.Builtin.EmptyTexts
import FormulaTable.Proofs.Builtin.Question
import FormulaTable.Proofs.Calendar.Formats
import FormulaTable.Proofs.Calendar.ReadBack
import FormulaTable.Proofs.CommandLine.Report
import FormulaTable.Proofs.Evaluation.ArgumentOrder
import FormulaTable.Proofs.Evaluation.Ask
import FormulaTable.Proofs.Evaluation.Branch
import FormulaTable.Proofs.Evaluation.CellReading
import FormulaTable.Proofs.Evaluation.Congruence
import FormulaTable.Proofs.Evaluation.Counting
import FormulaTable.Proofs.Evaluation.Cycle
import FormulaTable.Proofs.Evaluation.Draws
import FormulaTable.Proofs.Evaluation.Edit
import FormulaTable.Proofs.Evaluation.Enter
import FormulaTable.Proofs.Evaluation.Entered
import FormulaTable.Proofs.Evaluation.Escape
import FormulaTable.Proofs.Evaluation.Finite
import FormulaTable.Proofs.Evaluation.FormOrder
import FormulaTable.Proofs.Evaluation.Growth
import FormulaTable.Proofs.Evaluation.Inlining
import FormulaTable.Proofs.Evaluation.Kinds
import FormulaTable.Proofs.Evaluation.Layout
import FormulaTable.Proofs.Evaluation.Machine
import FormulaTable.Proofs.Evaluation.Part
import FormulaTable.Proofs.Evaluation.PathIndependence
import FormulaTable.Proofs.Evaluation.Plan
import FormulaTable.Proofs.Evaluation.Preview
import FormulaTable.Proofs.Evaluation.QuotedTexts
import FormulaTable.Proofs.Evaluation.RangeReading
import FormulaTable.Proofs.Evaluation.Reference
import FormulaTable.Proofs.Evaluation.Repetition
import FormulaTable.Proofs.Evaluation.Replacement
import FormulaTable.Proofs.Evaluation.Sentinel
import FormulaTable.Proofs.Evaluation.ShownNumbers
import FormulaTable.Proofs.Evaluation.SumOfMatches
import FormulaTable.Proofs.Evaluation.Undrawn
import FormulaTable.Proofs.Formula.Argument
import FormulaTable.Proofs.Formula.Calls
import FormulaTable.Proofs.Formula.Closed
import FormulaTable.Proofs.Formula.Form
import FormulaTable.Proofs.Formula.FormOrder
import FormulaTable.Proofs.Formula.Leaf
import FormulaTable.Proofs.Formula.Letters
import FormulaTable.Proofs.Formula.Partner
import FormulaTable.Proofs.Formula.Pieces
import FormulaTable.Proofs.Grid.Blob
import FormulaTable.Proofs.Grid.BoundedMap
import FormulaTable.Proofs.Grid.Decoding
import FormulaTable.Proofs.Grid.Offset
import FormulaTable.Proofs.Grid.Shape
import FormulaTable.Proofs.Grid.Walk
import FormulaTable.Proofs.Json.RoundTrip
import FormulaTable.Proofs.Number.Canonical
import FormulaTable.Proofs.Number.Count
import FormulaTable.Proofs.Number.DigitRow
import FormulaTable.Proofs.Number.Exact
import FormulaTable.Proofs.Number.Finite
import FormulaTable.Proofs.Number.Floor
import FormulaTable.Proofs.Number.Numeral
import FormulaTable.Proofs.Number.ReadBack
import FormulaTable.Proofs.Number.Readable
import FormulaTable.Proofs.Number.Total
import FormulaTable.Proofs.Table.Notice
import FormulaTable.Proofs.Table.Views
import FormulaTable.Proofs.Text.Slice
import FormulaTable.Proofs.Text.Trim
import FormulaTable.Table.Basic
import FormulaTable.Text.Blank
import FormulaTable.Text.Case
import FormulaTable.Text.CaseTable
import FormulaTable.Text.Slice
