import Reckoner.Scalar

/-!
# Searching for roots

Newton's method and bisection on functions that need not have a finite value everywhere: `none`
stands for no finite value. Every search is bounded by a number of steps.
-/

namespace Reckoner.RootSearch

open Scalar

variable {α : Type} [Scalar α]

/-- At most `steps` Newton steps from `x`. The search ends where `f` is within `tolerance` of zero,
or where a step no longer changes `x` by more than the spacing of numbers; it fails where `f` or
its slope has no value or the slope is zero. -/
def newton (f slope : α → Option α) (tolerance : α) : (steps : Nat) → (x : α) → Option α
  | 0, _ => none
  | steps + 1, x =>
    match f x with
    | none => none
    | some fx =>
      if abs fx < tolerance then some x
      else match slope x with
        | none => none
        | some dfx =>
          if dfx == 0 then none
          else match finite? (x - fx / dfx) with
            | none => none
            | some next =>
              if abs (next - x) ≤ spacing * greater (abs x) 1 then some next
              else newton f slope tolerance steps next

/-- Halves the bracket `[lo, hi]` at most `steps` times, keeping the half in which `f` changes sign.
`flo` is the value of `f` at `lo`. -/
def bisectFrom (f : α → Option α) (tolerance : α) :
    (steps : Nat) → (lo flo hi : α) → Option α
  | 0, _, _, _ => none
  | steps + 1, lo, flo, hi =>
    let mid := 0.5 * (lo + hi)
    match f mid with
    | none => none
    | some fmid =>
      if abs fmid < tolerance || abs (hi - lo) ≤ spacing * greater (abs mid) 1 then some mid
      else if sameSign fmid flo then bisectFrom f tolerance steps mid fmid hi
      else bisectFrom f tolerance steps lo flo mid

/-- Bisection on a bracket whose ends have values of opposite signs, or one of whose ends is a root
already. -/
def bisect (f : α → Option α) (lo hi tolerance : α) (steps : Nat) : Option α :=
  match f lo, f hi with
  | some flo, some fhi =>
    if flo == 0 then some lo
    else if fhi == 0 then some hi
    else if sameSign flo fhi then none
    else bisectFrom f tolerance steps lo flo hi
  | _, _ => none

/-- The first two neighbouring points between which the value changes sign or is zero. -/
def firstChange : List (α × α) → Option (α × α)
  | (a, fa) :: (b, fb) :: rest =>
    if fa == 0 || fb == 0 || !sameSign fa fb then some (a, b) else firstChange ((b, fb) :: rest)
  | _ => none

/-- The first bracket among neighbouring candidates, passing over those without a value. -/
def bracket? (f : α → Option α) (candidates : List α) : Option (α × α) :=
  firstChange (candidates.filterMap fun x => (f x).map fun fx => (x, fx))

end Reckoner.RootSearch
