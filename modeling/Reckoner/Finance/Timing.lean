import Reckoner.Scalar

/-!
# Payment timing
-/

namespace Reckoner

/-- When in each period payments are made. -/
inductive Timing where
  /-- At the end: an ordinary annuity. -/
  | ordinary
  /-- At the beginning: an annuity due. -/
  | due
deriving DecidableEq, Repr, Inhabited

namespace Timing

variable {α : Type} [Scalar α]

/-- The optional last argument of the financial functions: zero for the end of each period. -/
def ofFlag (flag : α) : Timing := if flag == 0 then ordinary else due

def ofBeginning (beginning : Bool) : Timing := if beginning then due else ordinary

/-- What the timing multiplies every payment term by. -/
def factor (timing : Timing) (rate : α) : α :=
  match timing with
  | ordinary => 1
  | due => 1 + rate

def name : Timing → String
  | ordinary => "end"
  | due => "beginning"

end Timing

end Reckoner
