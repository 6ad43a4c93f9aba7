import RowQuery.Calendar.Date
import RowQuery.Calendar.DateTime
import RowQuery.Calendar.Text
import RowQuery.Compiler
import RowQuery.Conversion.Apply
import RowQuery.Conversion.Plan
import RowQuery.Decimal.Arithmetic
import RowQuery.Decimal.Basic
import RowQuery.Decimal.Binary
import RowQuery.Decimal.Rounding
import RowQuery.Decimal.Text
import RowQuery.Engine
import RowQuery.Error
import RowQuery.Expr.Basic
import RowQuery.Expr.Checked
import RowQuery.Expr.Evaluate
import RowQuery.Expr.Same
import RowQuery.Expr.Text
import RowQuery.Formula.Basic
import RowQuery.Formula.Reader
import RowQuery.Json.Basic
import RowQuery.Json.Document
import RowQuery.Json.Reader
import RowQuery.Json.Writer
import RowQuery.Number.Binary
import RowQuery.Number.Kind
import RowQuery.Number.Shortest
import RowQuery.Operator
import RowQuery.Overload.Basic
import RowQuery.Overload.Catalog
import RowQuery.Proofs.Compiler.Agreement
import RowQuery.Proofs.Compiler.Binding
import RowQuery.Proofs.Compiler.Soundness
import RowQuery.Proofs.Conversion.Typing
import RowQuery.Proofs.Expr.Soundness
import RowQuery.Proofs.Expr.Typing
import RowQuery.Proofs.Outcome
import RowQuery.Proofs.Shape.Fabrication
import RowQuery.Proofs.Shape.Identity
import RowQuery.Proofs.Shape.Order
import RowQuery.Proofs.Standard.Integers
import RowQuery.Proofs.Ty.World
import RowQuery.Proofs.Value.Formed
import RowQuery.Query.Basic
import RowQuery.Query.Compiled
import RowQuery.Query.Projection
import RowQuery.Query.Reader
import RowQuery.Schema.Basic
import RowQuery.Schema.Query
import RowQuery.Schema.Reader
import RowQuery.Session
import RowQuery.Settings
import RowQuery.Shape.Accessor
import RowQuery.Shape.Bench
import RowQuery.Shape.Forge
import RowQuery.Shape.Mention
import RowQuery.Standard.Arguments
import RowQuery.Standard.Calendar
import RowQuery.Standard.Library
import RowQuery.Standard.Logic
import RowQuery.Standard.Math
import RowQuery.Standard.Sequences
import RowQuery.Standard.Strings
import RowQuery.Tagged.Expr
import RowQuery.Tagged.Value
import RowQuery.Text.Blank
import RowQuery.Text.Case
import RowQuery.Text.CaseTable
import RowQuery.Text.CodeSet
import RowQuery.Text.Digits
import RowQuery.Text.Position
import RowQuery.Text.PrintTable
import RowQuery.Text.Quoted
import RowQuery.Ty.Assignable
import RowQuery.Ty.Basic
import RowQuery.Ty.Declare
import RowQuery.Ty.Member
import RowQuery.Value.Arithmetic
import RowQuery.Value.Basic
import RowQuery.Value.Interchange
import RowQuery.Value.Number
import RowQuery.Value.Order
import RowQuery.Value.Record
import RowQuery.Value.Text
import RowQuery.Proofs.Shape.Rotation
import RowQuery.Proofs.Compiler.Resolution
import RowQuery.Proofs.Query.Answer
import RowQuery.Proofs.Compiler.Extension
import RowQuery.Proofs.Compiler.Upcast
import RowQuery.Proofs.Compiler.Faults
import RowQuery.Proofs.Shape.Supply
import RowQuery.Proofs.Query.Faults
import RowQuery.Proofs.Standard.Operators
import RowQuery.Proofs.Standard.Operands
import RowQuery.Proofs.Standard.Combination
import RowQuery.Proofs.Compiler.Declining
import RowQuery.Proofs.Conversion.Order
import RowQuery.Proofs.Query.Selection
import RowQuery.Proofs.Calendar.Text
import RowQuery.Proofs.Value.Interchange
import RowQuery.Proofs.Shape.Release
import RowQuery.Proofs.Query.Filters
import RowQuery.Proofs.Value.Decoding
import RowQuery.Proofs.Value.SortOrder
import RowQuery.Proofs.Overload.Roster
import RowQuery.Proofs.Conversion.Declared
import RowQuery.Proofs.Number.Magnitude
import RowQuery.Proofs.Conversion.Gentle
import RowQuery.Proofs.Compiler.Implicit
import RowQuery.Proofs.Compiler.Constants
import RowQuery.Proofs.Standard.Arithmetic
import RowQuery.Proofs.Conversion.Literals
import RowQuery.Proofs.Conversion.Widening
import RowQuery.Proofs.Value.Numerals
import RowQuery.Proofs.Value.Slots
import RowQuery.Proofs.Compiler.Paths
import RowQuery.Proofs.Compiler.Overrides
import RowQuery.Proofs.Standard.Calls
import RowQuery.Proofs.Text.Position
import RowQuery.Proofs.Standard.Positions
import RowQuery.Proofs.Calendar.Months
import RowQuery.Proofs.Standard.Months
