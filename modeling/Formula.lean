import Formula.Hash.Sip13
import Formula.Text.Blank
import Formula.Text.Case
import Formula.Text.Search
import Formula.Text.Quoted
import Formula.Number.Shortest
import Formula.Number.Numeral
import Formula.Decimal.Arithmetic
import Formula.Decimal.Text
import Formula.Decimal.Binary
import Formula.DataType
import Formula.Operator
import Formula.Time.DateTime
import Formula.Time.Reading
import Formula.Guid
import Formula.Value.Text
import Formula.Catalog.Basic
import Formula.Catalog.Lookup
import Formula.Catalog.Names
import Formula.Conversion
import Formula.Overload.Ranking
import Formula.Expr
import Formula.Operators.Resolution
import Formula.Term.Text
import Formula.Scope
import Formula.Typing.Expression
import Formula.Evaluation.Basic
import Formula.Library.Installation
import Formula.Library.Objects
import Formula.Library.Scalars
import Formula.Text.Template
import Formula.Library.Conversions
import Formula.Library.Enumerations
import Formula.Library.Guids
import Formula.Library.Mathematics
import Formula.Library.Moments
import Formula.Library.Strings
import Formula.Pattern.CharClass
import Formula.Pattern.Program
import Formula.Pattern.Search
import Formula.Pattern.Bracket
import Formula.Pattern.Reading
import Formula.Pattern.Replacement
import Formula.Library.Patterns
import Formula.Library.Standard
import Formula.Evaluation.Expression
import Formula.Proofs.Overload.Preference
import Formula.Proofs.Overload.Selection
import Formula.Proofs.Catalog.Primitives
import Formula.Proofs.Number.Integer
import Formula.Proofs.Operators.Promotion
import Formula.Proofs.Typing.Integers
import Formula.Proofs.Evaluation.Integers
import Formula.Proofs.Outcome
import Formula.Proofs.Typing.Lookup
import Formula.Proofs.Typing.Arguments
import Formula.Proofs.Typing.Operators
import Formula.Proofs.Typing.Trees
import Formula.Proofs.Evaluation.IntegerOperators
import Formula.Proofs.Soundness.Values
import Formula.Proofs.Soundness.Operators
import Formula.Proofs.Soundness.Trees
import Formula.Proofs.Soundness.Expressions
import Formula.Proofs.Evaluation.Places
import Formula.Proofs.Library.Installation
import Formula.Proofs.Text.Case
import Formula.Proofs.Library.Concatenations
import Formula.Proofs.Typing.Concatenations
import Formula.Proofs.Evaluation.Concatenation
import Formula.Proofs.Typing.Construction
import Formula.Proofs.Typing.Lifting
import Formula.Proofs.Evaluation.Lifting
import Formula.Proofs.Catalog.Interfaces
import Formula.Proofs.Soundness.Conversions
import Formula.Proofs.Catalog.Rearrangement
import Formula.Proofs.Overload.Reordering
import Formula.Proofs.Typing.Rearrangement
import Formula.Proofs.Typing.Preparation
import Formula.Proofs.Overload.Nearness
import Formula.Proofs.Overload.Ties
import Formula.Proofs.Typing.Ambiguities
import Formula.Proofs.Evaluation.NullTests
import Formula.Proofs.Evaluation.Enumerations
import Formula.Proofs.Evaluation.Receivers
import Formula.Proofs.Typing.Imports
import Formula.Proofs.Number.Binary
import Formula.Proofs.Evaluation.Equality
import Formula.Proofs.Decimal.Text
import Formula.Proofs.Value.HashCodes
import Formula.Proofs.Library.Objects
import Formula.Proofs.Time.Calendar
import Formula.Proofs.Text.Search
import Formula.Proofs.Number.Numeral
import Formula.Proofs.Time.Instants
import Formula.Proofs.Time.Spans
import Formula.Proofs.Time.Reading
import Formula.Proofs.Time.Comparison
import Formula.Proofs.Typing.Adaptation
import Formula.Proofs.Typing.Calls
import Formula.Proofs.Overload.Forms
import Formula.Proofs.Overload.Exactness
import Formula.Proofs.Typing.Sums
import Formula.Proofs.Evaluation.Shifts
import Formula.Proofs.Evaluation.IntegerCasts
import Formula.Proofs.Decimal.Truncation
import Formula.Proofs.Number.Sign
import Formula.Proofs.Evaluation.DecimalCasts
import Formula.Proofs.Evaluation.EnumerationCasts
import Formula.Proofs.Catalog.Inheritance
import Formula.Proofs.Catalog.Hiding
import Formula.Proofs.Library.Ownership
import Formula.Proofs.Catalog.Heights
import Formula.Proofs.Overload.Circles
import Formula.Proofs.Typing.Redeclarations
import Formula.Proofs.Time.Components
import Formula.Proofs.Time.SpanTexts
import Formula.Proofs.Typing.NamedTypes
import Formula.Proofs.Library.Extensions
import Formula.Proofs.Time.Months
import Formula.Proofs.Time.InstantTexts
import Formula.Proofs.Library.Texts
import Formula.Proofs.Text.Template
import Formula.Proofs.Library.Formatting
import Formula.Proofs.Library.Positions
import Formula.Proofs.Library.Parts
import Formula.Proofs.Guid.Digits
import Formula.Proofs.Guid.Layouts
import Formula.Proofs.Guid.Reading
import Formula.Proofs.Decimal.Rounding
import Formula.Proofs.Library.IntegerConversions
