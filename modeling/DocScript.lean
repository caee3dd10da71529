import DocScript.Download.Retry
import DocScript.Expr.Arguments
import DocScript.Expr.Template
import DocScript.Main
import DocScript.Proofs.Expr.Parsing
import DocScript.Proofs.Machine.Balance
import DocScript.Proofs.Machine.Simulation
import DocScript.Proofs.Program.Nesting
import DocScript.Proofs.Machine.Modes
import DocScript.Proofs.Machine.Warm
import DocScript.Proofs.Machine.Loading
import DocScript.Proofs.Machine.Depth
import DocScript.Proofs.Expr.Arguments
import DocScript.Proofs.Expr.Coercion
import DocScript.Proofs.Expr.Operators
import DocScript.Proofs.Machine.Integers
import DocScript.Proofs.Machine.Fetches
import DocScript.Proofs.Machine.Keys
import DocScript.Proofs.Machine.Resolution
import DocScript.Proofs.Program.Passages
import DocScript.Proofs.Markdown.Plain
import DocScript.Proofs.Number.Representable
import DocScript.Proofs.Number.Clamping
import DocScript.Proofs.Number.Exactness
import DocScript.Proofs.Number.Remainders
import DocScript.Proofs.Machine.Assignments
import DocScript.Proofs.Expr.Lines
import DocScript.Proofs.Machine.Lines
import DocScript.Proofs.Machine.Prints
import DocScript.Proofs.Script.Outcomes
import DocScript.Proofs.Expr.Segments
import DocScript.Proofs.Expr.Templates
import DocScript.Proofs.Program.Comments
import DocScript.Proofs.Number.ReadBack
import DocScript.Proofs.Program.Sections
import DocScript.Proofs.Program.Names
import DocScript.Proofs.Machine.Links
import DocScript.Proofs.Expr.Equality
import DocScript.Proofs.Expr.Indexing
import DocScript.Proofs.Expr.Quotations
import DocScript.Proofs.Expr.Completion
import DocScript.Proofs.Download.Attempts
import DocScript.Proofs.Machine.Operations
import DocScript.Proofs.Machine.Failures
import DocScript.Proofs.Text.Lines
import DocScript.Proofs.Script.Excerpts
import DocScript.Proofs.Value.Display
import DocScript.Proofs.Command.Exits
