import Shell.Field.Read
import Shell.Proofs.Arithmetic.Evaluation
import Shell.Proofs.Arithmetic.Grammar
import Shell.Proofs.Control.Balance
import Shell.Proofs.Control.Delivery
import Shell.Proofs.Control.Depth
import Shell.Proofs.Control.Failure
import Shell.Proofs.Control.Jump
import Shell.Proofs.Control.Law
import Shell.Proofs.Control.Limit
import Shell.Proofs.Control.Nesting
import Shell.Proofs.Control.Numbering
import Shell.Proofs.Control.Output
import Shell.Proofs.Control.Place
import Shell.Proofs.Control.Refusal
import Shell.Proofs.Control.Stuck
import Shell.Proofs.Control.Unwinding
import Shell.Proofs.Expansion.Beside
import Shell.Proofs.Expansion.Delimiter
import Shell.Proofs.Expansion.Detection
import Shell.Proofs.Expansion.Quoting
import Shell.Proofs.Expansion.Star
import Shell.Proofs.Expansion.Substitution
import Shell.Proofs.Field.Edges
import Shell.Proofs.Field.Ending
import Shell.Proofs.Field.Escaping
import Shell.Proofs.Field.Grammar
import Shell.Proofs.Field.Layout
import Shell.Proofs.Field.Line
import Shell.Proofs.Frame.Bystanders
import Shell.Proofs.Frame.Close
import Shell.Proofs.Frame.Declare
import Shell.Proofs.Frame.Exports
import Shell.Proofs.Frame.Gaps
import Shell.Proofs.Frame.Layer
import Shell.Proofs.Frame.Listings
import Shell.Proofs.Frame.Locals
import Shell.Proofs.Frame.Noting
import Shell.Proofs.Frame.Operation
import Shell.Proofs.Frame.Positional
import Shell.Proofs.Frame.Readback
import Shell.Proofs.Frame.Restore
import Shell.Proofs.Frame.Stacks
import Shell.Proofs.Glob.Acceptance
import Shell.Proofs.Glob.Adjacency
import Shell.Proofs.Glob.BracketExpression
import Shell.Proofs.Glob.CharClass
import Shell.Proofs.Glob.Dividing
import Shell.Proofs.Glob.FixedWidth
import Shell.Proofs.Glob.Ignoring
import Shell.Proofs.Glob.Inactive
import Shell.Proofs.Glob.Joining
import Shell.Proofs.Glob.Legible
import Shell.Proofs.Glob.Literal
import Shell.Proofs.Glob.Pattern
import Shell.Proofs.Glob.Removal
import Shell.Proofs.Glob.Replacement
import Shell.Proofs.Glob.Scanning
import Shell.Proofs.Regex.Members
import Shell.Proofs.Regex.Recognition
import Shell.Proofs.Regex.SetGrammar
import Shell.Proofs.Regex.Sets
import Shell.Proofs.Regex.Width
import Shell.Proofs.Running
import Shell.Proofs.Text.Backslash
import Shell.Proofs.Text.Decimal
import Shell.Proofs.Text.Reference
import Shell.Proofs.Variable.Associative
import Shell.Proofs.Variable.Constant
import Shell.Proofs.Variable.Contents
import Shell.Proofs.Variable.Edits
import Shell.Proofs.Variable.ElementZero
import Shell.Proofs.Variable.Elements
import Shell.Proofs.Variable.Erasure
import Shell.Proofs.Variable.Failing
import Shell.Proofs.Variable.Growth
import Shell.Proofs.Variable.Independence
import Shell.Proofs.Variable.Indexed
import Shell.Proofs.Variable.Listing
import Shell.Proofs.Variable.Names
import Shell.Proofs.Variable.Reading
import Shell.Proofs.Variable.Readonly
import Shell.Proofs.Variable.Shallow
import Shell.Proofs.Variable.Sparse
import Shell.Proofs.Variable.Subscript
import Shell.Proofs.Variable.Touches
import Shell.Proofs.Variable.Transparency
import Shell.Proofs.Variable.Unset
import Shell.Proofs.Variable.Whole
import Shell.Proofs.Variable.Writes
import Shell.Session.Basic
