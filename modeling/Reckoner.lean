import Reckoner.Calculator
import Reckoner.Catalog
import Reckoner.Decimal.Dyadic
import Reckoner.Decimal.Fixed
import Reckoner.Decimal.Layout
import Reckoner.Decimal.Numeral
import Reckoner.Decimal.Shortest
import Reckoner.Display
import Reckoner.Expr
import Reckoner.Expr.Eval
import Reckoner.Expr.Parse
import Reckoner.Failure
import Reckoner.Failure.Wording
import Reckoner.Finance.Annuity
import Reckoner.Finance.Frequency
import Reckoner.Finance.Loan
import Reckoner.Finance.Problem
import Reckoner.Finance.Quantity
import Reckoner.Finance.RootSearch
import Reckoner.Finance.Schedule
import Reckoner.Finance.Solver
import Reckoner.Finance.Timing
import Reckoner.Function
import Reckoner.Json
import Reckoner.Json.Read
import Reckoner.Json.Record
import Reckoner.Json.Render
import Reckoner.Library
import Reckoner.Library.Aggregate
import Reckoner.Library.Arithmetic
import Reckoner.Library.Constants
import Reckoner.Library.Finance
import Reckoner.Library.Trigonometry
import Reckoner.Limits
import Reckoner.Markup
import Reckoner.Persist.Document
import Reckoner.Persist.Expression
import Reckoner.Persist.Finance
import Reckoner.Persist.Function
import Reckoner.Persist.Report
import Reckoner.Registry
import Reckoner.Report
import Reckoner.Scalar
import Reckoner.Scalar.CubeRoot
import Reckoner.Scalar.Double
import Reckoner.Scope
import Reckoner.Store
import Reckoner.Text.Blank
import Reckoner.Text.CodeRange
import Reckoner.Text.Letters
import Reckoner.Text.Lowercase
import Reckoner.Text.Quoted
import Reckoner.Text.Search
import Reckoner.Text.Unprintable
import Reckoner.Token
import Reckoner.Token.Scan
import Reckoner.Variable
import Reckoner.Proofs.Text
import Reckoner.Proofs.Token.Characters
import Reckoner.Proofs.Token.KeypadGlyphs
import Reckoner.Proofs.Token.LongestNumeral
import Reckoner.Proofs.Token.Spelling
import Reckoner.Proofs.Token.Splitting
import Reckoner.Proofs.Grammar
import Reckoner.Proofs.Grammar.Unambiguous
import Reckoner.Proofs.Grammar.Reading
import Reckoner.Proofs.Grammar.Origins
import Reckoner.Proofs.Grammar.Stuck
import Reckoner.Proofs.Grammar.EarliestError
import Reckoner.Proofs.Meaning
import Reckoner.Proofs.Meaning.Agreement
import Reckoner.Proofs.Meaning.Failures
import Reckoner.Proofs.Meaning.FreeNames
import Reckoner.Proofs.Library.Refusals
import Reckoner.Proofs.Exact
import Reckoner.Proofs.Decimal.Covering
import Reckoner.Proofs.Decimal.Numerals
import Reckoner.Proofs.Decimal.Positional
import Reckoner.Proofs.Decimal.PlainText
import Reckoner.Proofs.Decimal.Unsigned
import Reckoner.Proofs.Markup.WellFormed
import Reckoner.Proofs.Meaning.Regrouping
import Reckoner.Proofs.Markup.Reading
import Reckoner.Proofs.Markup.Words
import Reckoner.Proofs.Markup.Separation
import Reckoner.Proofs.Markup.Escaping
import Reckoner.Proofs.Markup.Symbols
import Reckoner.Proofs.Finance.Ledger
import Reckoner.Proofs.Finance.ExtraPayment
import Reckoner.Proofs.Session
import Reckoner.Proofs.Finance.Balance
import Reckoner.Proofs.Exact.Real
import Reckoner.Proofs.Finance.RoundTrip
import Reckoner.Proofs.RootSearch
import Reckoner.Proofs.Finance.RateSearch
import Reckoner.Proofs.Finance.RateFunction
import Reckoner.Proofs.Finance.WholeTerms
import Reckoner.Proofs.Finance.LoanFunctions
import Reckoner.Proofs.Session.History
import Reckoner.Proofs.Session.ReadBack
import Reckoner.Proofs.Session.ErrorPlaces
import Reckoner.Proofs.Meaning.Renaming
import Reckoner.Proofs.Persist.Fields
import Reckoner.Proofs.Persist.RoundTrip
import Reckoner.Proofs.Grammar.Layout
import Reckoner.Proofs.Session.Layout
import Reckoner.Proofs.Session.Persistence
import Reckoner.Proofs.Registry
import Reckoner.Proofs.Registry.Reordering
import Reckoner.Proofs.Session.Recalculation
import Reckoner.Proofs.Library.Answers
import Reckoner.Proofs.Meaning.Progress
import Reckoner.Proofs.Session.Progress
import Reckoner.Proofs.Finance.Payoff
import Reckoner.Proofs.Exact.Extended
import Reckoner.Proofs.Finance.Term
import Reckoner.Proofs.Meaning.Quadrature
import Reckoner.Proofs.RootSearch.Reflection
import Reckoner.Proofs.Finance.Counterpart
import Reckoner.Proofs.Double
import Reckoner.Proofs.Double.Laws
import Reckoner.Proofs.Finance.Solving
import Reckoner.Proofs.Finance.RateTolerance
import Reckoner.Proofs.Finance.Finiteness
import Reckoner.Proofs.Finance.RateConversion
import Reckoner.Proofs.Session.StoredExpressions
import Reckoner.Proofs.Catalog
import Reckoner.Proofs.Display
import Reckoner.Proofs.RootSearch.Bisection
import Reckoner.Proofs.Finance.RateSlope
import Reckoner.Proofs.Grammar.Offsets
import Reckoner.Proofs.Grammar.OpenParens
