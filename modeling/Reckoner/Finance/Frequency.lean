/-!
# Payment frequency
-/

namespace Reckoner

/-- How often payments are made and interest is compounded. -/
inductive Frequency where
  | weekly
  | biweekly
  | semimonthly
  | monthly
  | quarterly
  | semiannually
  | annually
deriving DecidableEq, Repr, Inhabited

namespace Frequency

/-- From the most to the least frequent. -/
def all : List Frequency :=
  [weekly, biweekly, semimonthly, monthly, quarterly, semiannually, annually]

def standard : Frequency := monthly

def periodsPerYear : Frequency → Nat
  | weekly => 52
  | biweekly => 26
  | semimonthly => 24
  | monthly => 12
  | quarterly => 4
  | semiannually => 2
  | annually => 1

def name : Frequency → String
  | weekly => "weekly"
  | biweekly => "biweekly"
  | semimonthly => "semimonthly"
  | monthly => "monthly"
  | quarterly => "quarterly"
  | semiannually => "semiannually"
  | annually => "annually"

def ofName? (s : String) : Option Frequency := all.find? fun f => f.name == s

theorem mem_all (f : Frequency) : f ∈ all := by cases f <;> decide

end Frequency

end Reckoner
