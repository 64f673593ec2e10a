import Reckoner.Failure
import Reckoner.Finance.Timing

/-!
# The annuity equation

Five quantities are tied together by

```text
FV = PV·(1+r)^n + PMT·((1+r)^n − 1)/r · t
```

where `t = 1 + r` when payments fall at the beginning of each period and `1` otherwise. Here are its
factors, its residual, and its closed forms for four of the quantities. The rate has none.
-/

namespace Reckoner.Annuity

open Scalar

variable {α : Type} [Scalar α]

/-- Rates closer to zero than this use the limit of the annuity factor. -/
def zeroRate : α := 1e-12

def isZeroRate (rate : α) : Bool := abs rate < zeroRate

/-- The growth of one unit over `n` periods. -/
def compoundFactor (rate n : α) : α := pow (1 + rate) n

/-- The value, after the last, of one unit paid in each of `n` periods. -/
def annuityFactor (rate n : α) : α :=
  if isZeroRate rate then n else (compoundFactor rate n - 1) / rate

/-- The slope of `annuityFactor` in the rate. -/
def annuitySlope (rate n : α) : α :=
  if isZeroRate rate then n * (n - 1) / (2 : Nat)
  else
    let growth := compoundFactor rate n
    let slope := n * compoundFactor rate (n - 1)
    (slope * rate - (growth - 1)) / (rate * rate)

def futureValue (pv pmt rate n : α) (timing : Timing) : α :=
  pv * compoundFactor rate n + pmt * annuityFactor rate n * timing.factor rate

def presentValue (fv pmt rate n : α) (timing : Timing) : α :=
  (fv - pmt * annuityFactor rate n * timing.factor rate) / compoundFactor rate n

/-- The payment that moves `pv` to `fv`. -/
def payment (pv fv rate n : α) (timing : Timing) : Answer α α :=
  let perUnit := annuityFactor rate n * timing.factor rate
  if perUnit == 0 || !isFinite perUnit then (Cause.unsolvable .zeroPeriods).throw
  else .ok ((fv - pv * compoundFactor rate n) / perUnit)

/-- The number of periods before it is checked. With `k = PMT·t / r` the equation reads
`FV + k = (1+r)^n · (PV + k)`. -/
def rawPeriods (pv fv pmt rate : α) (timing : Timing) : Answer α α :=
  if isZeroRate rate then
    if pmt == 0 then (Cause.unsolvable .constantBalance).throw else .ok ((fv - pv) / pmt)
  else if pmt == 0 && pv ≤ 0 then (Cause.unsolvable .presentValueSign).throw
  else
    let k := pmt * timing.factor rate / rate
    let ratio := (fv + k) / (pv + k)
    if isFinite ratio && 0 < ratio then .ok (ln ratio / ln (1 + rate))
    else (Cause.unsolvable .unreachable).throw

/-- The number of periods in which payments move `pv` to `fv`. -/
def numberOfPeriods (pv fv pmt rate : α) (timing : Timing) : Answer α α :=
  match rawPeriods pv fv pmt rate timing with
  | .error failure => .error failure
  | .ok n =>
    if !isFinite n || n < 0 then (Cause.unsolvable (.periods n)).throw else .ok n

/-- Left side minus right side of the equation. -/
def residual (pv fv pmt rate n : α) (timing : Timing) : α :=
  futureValue pv pmt rate n timing - fv

/-- The residual has a value only for rates above `-1`, and only where it is finite. -/
def residual? (pv fv pmt n : α) (timing : Timing) (rate : α) : Option α :=
  if rate ≤ -1 then none else finite? (residual pv fv pmt rate n timing)

/-- The slope of the residual in the rate. -/
def residualSlope (pv pmt rate n : α) (timing : Timing) : α :=
  let a := annuityFactor rate n
  let slope := annuitySlope rate n
  let dt : α := match timing with
    | .ordinary => 0
    | .due => 1
  pv * n * compoundFactor rate (n - 1) + pmt * (slope * timing.factor rate + a * dt)

def residualSlope? (pv pmt n : α) (timing : Timing) (rate : α) : Option α :=
  if rate ≤ -1 then none else finite? (residualSlope pv pmt rate n timing)

/-- A rate of `-1` or less loses everything within a period. -/
def checkRate (what : String) (rate : α) : Answer α Unit :=
  if !isFinite rate || rate ≤ -1 then (Cause.invalidInput (.rate what rate)).throw else .ok ()

def checkFinite (what : String) (value : α) : Answer α Unit :=
  if !isFinite value then (Cause.invalidInput (.notFinite what value)).throw else .ok ()

end Reckoner.Annuity
