import Reckoner.Failure
import Reckoner.Limits

/-!
# The wording of failures

What each cause says to the user. Numbers inside messages are written plainly: shortest digits, no
exponent.
-/

namespace Reckoner

namespace Lexeme

/-- A short description for messages. -/
def describe : Lexeme Float → String
  | number x => "number " ++ Decimal.Layout.plain.text x
  | identifier name => "'" ++ name ++ "'"
  | operator symbol => "'" ++ String.singleton symbol ++ "'"
  | leftParen => "'('"
  | rightParen => "')'"
  | comma => "','"

end Lexeme

private def plain (x : Float) : String := Decimal.Layout.plain.text x

namespace Malformed

def report : Malformed Float → Report
  | invalidNumber text => .malformed ("Invalid number '" ++ text ++ "'")
  | unexpectedCharacter c => .malformed ("Unexpected character '" ++ String.singleton c ++ "'")
  | emptyExpression => .malformed "Empty expression"
  | unexpectedEnd => .malformed "Unexpected end of expression"
  | unexpectedToken found => .malformed ("Unexpected " ++ found.describe)
  | trailingToken found =>
    (Report.malformed ("Unexpected " ++ found.describe ++ " after complete expression")).withSuggestion
      "Use an explicit operator such as '*' between terms"
  | unmatchedParen => .malformed "Unmatched ')'"
  | missingParen opened =>
    .malformed ("Missing ')' for the '(' opened at position " ++ toString opened)
  | tooDeep =>
    (Report.malformed "expression too deeply nested").withSuggestion
      ("At most " ++ toString maxDepth ++ " levels are allowed; use sum() for long lists of terms")
  | integralVariable =>
    .malformed "integral() expects a variable name as its second argument"
  | missingArgument index => .malformed ("argument " ++ toString index ++ " is missing")

end Malformed

namespace OutOfDomain

def report : OutOfDomain Float → Report
  | notFactorial n =>
    .domain ("factorial is only defined for non-negative integers, got " ++ plain n)
  | factorialTooLarge n =>
    .domain ("factorial of " ++ plain n ++ " exceeds the representable range (max " ++
      toString maxFactorial ++ ")")
  | periodOutsideTerm function term period =>
    .domain (function ++ ": period must be a whole number between 1 and " ++ plain term ++ ", got " ++
      plain period)
  | compounding function periods =>
    .domain (function ++ ": periods per year must be at least 1, got " ++ plain periods)

end OutOfDomain

namespace InvalidInput

def report : InvalidInput Float → Report
  | rate what r => .invalidInput (what ++ ": rate must be greater than -1, got " ++ plain r)
  | notFinite what value => .invalidInput (what ++ " must be a finite number, got " ++ plain value)
  | emptyName => .invalidInput "variable name must not be empty"
  | notAName name => .invalidInput ("'" ++ name ++ "' is not a valid variable name")
  | unknownFrequency text =>
    (Report.invalidInput ("unknown frequency '" ++ text ++ "'")).withSuggestion
      "Use weekly, biweekly, semimonthly, monthly, quarterly, semiannually or annually"
  | givenCount count =>
    .invalidInput ("exactly four of the five values must be given, got " ++ toString count)
  | unknownGiven unknown =>
    .invalidInput (unknown.name ++ " is given but was asked to be solved for")
  | periodsPerYear => .invalidInput "periods per year must be positive"
  | principal => .invalidInput "principal must be positive"
  | term => .invalidInput "term must be positive"
  | termTooLong periods frequency limit =>
    .invalidInput ("term of " ++ plain periods ++ " " ++ frequency.name ++
      " payments exceeds the limit of " ++ toString limit ++ " periods")
  | annualRate => .invalidInput "annual rate cannot be negative"
  | downPayment => .invalidInput "down payment cannot be negative"
  | downPaymentTooLarge => .invalidInput "down payment must be less than the principal"
  | extraPayment => .invalidInput "extra payment cannot be negative"
  | scheduledPayment => .invalidInput "scheduled payment must be positive"

end InvalidInput

namespace Unsolvable

def report : Unsolvable Float → Report
  | zeroPeriods => .unsolvable "payment is undefined for zero periods"
  | constantBalance => .unsolvable "with zero rate and zero payment the balance never changes"
  | presentValueSign => .unsolvable "present value must be positive when there are no payments"
  | unreachable =>
    .unsolvable "the payment can never move the present value to the future value"
  | periods n => .unsolvable ("number of periods would be " ++ plain n)
  | rateWithoutPeriods => .unsolvable "rate is undefined without at least one period"

end Unsolvable

namespace Cause

/-- The report of a cause, without a place. -/
def report : Cause Float → Report
  | malformed why => why.report
  | argumentCount function expected got usage =>
    let r := Report.argumentCount function expected got
    match usage with
    | some text => r.withSuggestion ("Usage: " ++ text)
    | none => r
  | undefinedVariable name => .undefinedVariable name
  | undefinedFunction name similar =>
    let r := Report.undefinedFunction name
    if similar.isEmpty then r
    else r.withSuggestion ("Similar: " ++ ", ".intercalate similar)
  | outOfDomain why => why.report
  | invalidInput why => why.report
  | unsolvable why => why.report
  | rateNotFound iterations =>
    .convergence ("rate did not converge within " ++ toString iterations ++ " iterations")
  | nonAmortizing interest payment => .nonAmortizing interest payment
  | reported r => r

/-- The report is of the kind of its cause. -/
theorem kind_report (c : Cause Float) : c.report.kind = c.kind := by
  cases c with
  | malformed why => cases why <;> rfl
  | argumentCount function expected got usage => cases usage <;> rfl
  | undefinedVariable name => rfl
  | undefinedFunction name similar =>
    simp only [report, kind]
    split <;> rfl
  | outOfDomain why => cases why <;> rfl
  | invalidInput why => cases why <;> rfl
  | unsolvable why => cases why <;> rfl
  | rateNotFound iterations => rfl
  | nonAmortizing interest payment => rfl
  | reported r => rfl

end Cause

/-- A failure as it is shown and stored. -/
def Failure.report (f : Failure Float) : Report := { f.cause.report with position := f.position }

end Reckoner
