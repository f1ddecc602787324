import Formula.Expr.Render
import Formula.Main
import Formula.Parse.Cursor
import Formula.Proofs.Spans
import Formula.Proofs.Binary64.Nearest
import Formula.Proofs.Binary64.Numeral
import Formula.Proofs.Binary64.RoundTrip
import Formula.Proofs.Unicode.LowerCase
import Formula.Proofs.Unicode.WhiteSpace
import Formula.Proofs.Grammar
import Formula.Proofs.Grammar.Unambiguous
import Formula.Proofs.Scan.Terminals
import Formula.Proofs.Scan.Words
import Formula.Proofs.Scan.Spelling
import Formula.Proofs.Parse.Readers
import Formula.Proofs.Parse.Complete
import Formula.Proofs.Parse.Sound
import Formula.Proofs.Parse.Budget
import Formula.Proofs.Parse.Language
import Formula.Proofs.Parse.Height
import Formula.Proofs.Parse.Formulas
import Formula.Proofs.Parse.Tower
import Formula.Proofs.Parse.Leaves
import Formula.Proofs.Render.Spelling
import Formula.Proofs.Render.RoundTrip
import Formula.Proofs.Render.Writable
import Formula.Proofs.Unicode.UpperCase
import Formula.Proofs.Sql.Quoted
import Formula.Proofs.Sql.Tree
import Formula.Proofs.Sql.Shown
import Formula.Proofs.Sql.Unambiguous
import Formula.Proofs.Scan.Blank
import Formula.Proofs.Engine.Operations
import Formula.Proofs.Scan.Longest
import Formula.Proofs.Scan.Cuts
import Formula.Proofs.Scan.Spacing
import Formula.Proofs.Parse.Positions
import Formula.Proofs.Engine.Spacing
import Formula.Proofs.Eval.Calls
import Formula.Proofs.Eval.Fields
import Formula.Proofs.Eval.Inline
import Formula.Proofs.Document.Bindings
import Formula.Proofs.CommandLine.Reports
import Formula.Proofs.CommandLine
import Formula.Proofs.Parse.Cursor
import Formula.Proofs.Messages
import Formula.Proofs.Parse.Faults
import Formula.Proofs.Parse.Calls
import Formula.Proofs.Binary64.Alike
import Formula.Proofs.Eval.Alike
import Formula.Proofs.Eval.Spine
import Formula.Proofs.Parse.References
import Formula.Proofs.Scan.Steps
import Formula.Proofs.Json.Grammar
import Formula.Proofs.Json.Numbers
import Formula.Proofs.Json.Strings
import Formula.Proofs.Json.Documents
import Formula.Proofs.Json.Written
import Formula.Proofs.Json.Scaling
import Formula.Proofs.Document.Scalars
import Formula.Proofs.Document.RoundTrip
import Formula.Proofs.CommandLine.Contexts
import Formula.Proofs.Binary64.Scaled
import Formula.Proofs.Binary64.Whole
import Formula.Proofs.Binary64.Signs
import Formula.Proofs.Eval.Rounding
import Formula.Proofs.Binary64.Order
import Formula.Proofs.Eval.Aggregates
import Formula.Proofs.Eval.Extremes
import Formula.Proofs.Binary64.Rounded
import Formula.Proofs.Binary64.Pointed
import Formula.Proofs.Parse.Skeletons
import Formula.Proofs.Parse.Numbers
import Formula.Proofs.Engine.Numbers
import Formula.Proofs.Session
import Formula.Proofs.Files
