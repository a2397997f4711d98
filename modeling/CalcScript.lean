import CalcScript.CommandLine.Argument
import CalcScript.CommandLine.Request
import CalcScript.CommandLine.Run
import CalcScript.CommandLine.Usage
import CalcScript.CrossCheck.Comparison
import CalcScript.CrossCheck.Formula
import CalcScript.CrossCheck.Reference
import CalcScript.CrossCheck.Sample
import CalcScript.Execution
import CalcScript.Expression.Evaluate
import CalcScript.Expression.Operator
import CalcScript.Inspection
import CalcScript.Journal
import CalcScript.Main
import CalcScript.Number.Binary64
import CalcScript.Number.Layout
import CalcScript.Number.Numeral
import CalcScript.Number.Shortest
import CalcScript.Proofs.CrossCheck.Agreement
import CalcScript.Proofs.CrossCheck.Quantities
import CalcScript.Proofs.CrossCheck.Reading
import CalcScript.Proofs.CrossCheck.Samples
import CalcScript.Proofs.Execution.Dependence
import CalcScript.Proofs.Execution.Points
import CalcScript.Proofs.Execution.Runs
import CalcScript.Proofs.Execution.Writes
import CalcScript.Proofs.Expression.Acceptance
import CalcScript.Proofs.Expression.Balance
import CalcScript.Proofs.Expression.Faults
import CalcScript.Proofs.Expression.Infix
import CalcScript.Proofs.Expression.Precedence
import CalcScript.Proofs.Expression.Stacks
import CalcScript.Proofs.Expression.Unguarded
import CalcScript.Proofs.Expression.Variables
import CalcScript.Proofs.Expression.Waiting
import CalcScript.Proofs.Number.Numeral
import CalcScript.Proofs.Number.Zero
import CalcScript.Proofs.Shell.Exit
import CalcScript.Proofs.Shell.Isolation
import CalcScript.Proofs.Shell.Session
import CalcScript.Proofs.Shell.Submission
import CalcScript.Proofs.Span
import CalcScript.Proofs.Statement.Caret
import CalcScript.Proofs.Statement.Concatenation
import CalcScript.Proofs.Statement.Grammar
import CalcScript.Proofs.Statement.Readback
import CalcScript.Proofs.Statement.Refusals
import CalcScript.Proofs.Statement.Scanned
import CalcScript.Proofs.Text.Lines
import CalcScript.Proofs.Text.Padding
import CalcScript.Proofs.Token.Decomposition
import CalcScript.Proofs.Token.Excerpt
import CalcScript.Proofs.Token.Rendering
import CalcScript.Proofs.Token.Segments
import CalcScript.Proofs.Token.Separation
import CalcScript.Proofs.Token.Spacing
import CalcScript.Proofs.Token.Spelling
import CalcScript.Proofs.Token.Strays
import CalcScript.Proofs.Token.Visible
import CalcScript.Shell.Session
import CalcScript.Shell.Settings
import CalcScript.Shell.Submission
import CalcScript.Statement.Basic
import CalcScript.Statement.Marked
import CalcScript.Statement.Parse
import CalcScript.Store
import CalcScript.Text.CaseTable
import CalcScript.Text.CharClass
import CalcScript.Text.DecimalDigit
import CalcScript.Text.Lowercase
import CalcScript.Text.Newline
import CalcScript.Text.Printable
import CalcScript.Text.Quoted
import CalcScript.Text.Utf8
import CalcScript.Token.Basic
import CalcScript.Token.Excerpt
import CalcScript.Token.Render
import CalcScript.Token.Scan
import CalcScript.Tour
import CalcScript.WorkDir
