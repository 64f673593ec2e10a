import Reckoner.Expr.Eval

/-!
# The meaning of expressions

A reading of expressions in which nothing is ever rebound: names are looked up in an environment,
and the body of an integral is read in environments that extend the one around it. Operands and
arguments are read from left to right, and the first failure is the answer.
-/

namespace Reckoner

/-- The values that names have. -/
abbrev Environment (α : Type) := String → Option α

/-- The environment in which a name has a value, whatever it had before. -/
def Environment.extend {α : Type} (env : Environment α) (name : String) (value : α) :
    Environment α :=
  fun other => if other = name then some value else env other

/-- What the names in a scope stand for: the innermost binding, or else the user variable, or else
the constant. -/
def Scope.environment {α : Type} (s : Scope α) : Environment α := fun name =>
  s.locals.lookup name <|> (s.store.find? name).map Variable.value <|> s.store.builtins.lookup name

section

variable {α : Type} [Scalar α]

namespace Simpson

/-- The weighted sum of all samples, added up from the first to the last. -/
def weightedTotal (samples : List α) : α :=
  (List.zipWith (fun i y => weight i * y) (List.range (integrationIntervals + 1)) samples).foldl
    (· + ·) 0

/-- The integral of a function that may fail; of several samples that fail, the first one counts. -/
def quadrature (f : α → Answer α α) (lo hi : α) : Answer α α := do
  let h := (hi - lo) / (integrationIntervals : α)
  let samples ← (List.range (integrationIntervals + 1)).mapM fun (i : Nat) => f (lo + h * (i : α))
  return weightedTotal samples * h / ((3 : Nat) : α)

/-- A sum of equal samples that its first two terms bring to a value no term changes. -/
theorem weightedTotal_replicate {x top : α} (hreach : 0 + weight 0 * x + weight 1 * x = top)
    (hstay : ∀ i, top + weight i * x = top) :
    weightedTotal (List.replicate (integrationIntervals + 1) x) = top := by
  have hrest : ∀ is : List Nat,
      (List.zipWith (fun i y => weight i * y) is (List.replicate is.length x)).foldl (· + ·) top
        = top := by
    intro is
    induction is with
    | nil => rfl
    | cons i rest ih =>
      rw [List.length_cons, List.replicate_succ, List.zipWith_cons_cons, List.foldl_cons, hstay]
      exact ih
  have hranks : List.range (integrationIntervals + 1) = 0 :: 1 :: List.range' 2 999 := by
    rw [List.range_eq_range']
    rfl
  have hcopies : List.replicate (integrationIntervals + 1) x = x :: x :: List.replicate 999 x := rfl
  have htail := hrest (List.range' 2 999)
  rw [List.length_range'] at htail
  rw [weightedTotal, hranks, hcopies, List.zipWith_cons_cons, List.zipWith_cons_cons,
    List.foldl_cons, List.foldl_cons, hreach]
  exact htail

theorem quadrature_const (x lo hi : α) :
    quadrature (fun _ => .ok x) lo hi =
      .ok (weightedTotal (List.replicate (integrationIntervals + 1) x) *
        ((hi - lo) / (integrationIntervals : α)) / ((3 : Nat) : α)) := by
  have hsamples : ∀ is : List Nat,
      is.mapM (fun _ => (.ok x : Answer α α)) = .ok (List.replicate is.length x) := by
    intro is
    induction is with
    | nil => rfl
    | cons i rest ih =>
      rw [List.mapM_cons, ih]
      rfl
  rw [quadrature, hsamples, List.length_range]
  rfl

end Simpson

namespace Expr

/-- The name is that of the special form, and no function has taken it. -/
def isIntegral (registry : Registry α) (name : String) : Bool :=
  Text.sameIgnoringCase name integralName && !registry.hasFunction name

mutual

/-- The value of an expression in an environment. -/
def meaning (registry : Registry α) : Expr α → Environment α → Answer α α
  | literal value, _ => .ok value
  | variableRef name offset, env =>
    match env name with
    | some x => .ok x
    | none => .error ((Cause.undefinedVariable name).at offset)
  | unary .neg operand, env => do
    let x ← meaning registry operand env
    return -x
  | unary (.factorial offset) operand, env => do
    let x ← meaning registry operand env
    (Reckoner.factorial x).mapError fun failure => failure.locate offset
  | binary op left right, env => do
    let x ← meaning registry left env
    let y ← meaning registry right env
    return op.apply x y
  | call name args offset, env =>
    if isIntegral registry name then
      match args with
      | [body, variableRef v _, lower, upper] => do
        let a ← meaning registry lower env
        let b ← meaning registry upper env
        Simpson.quadrature (fun t => meaning registry body (env.extend v t)) a b
      | [_, _, _, _] => .error ((Cause.malformed .integralVariable).at offset)
      | args =>
        .error ((Cause.argumentCount integralName "4" args.length
          (some "integral(expression, variable, lower, upper)")).at offset)
    else
      match registry.function? name with
      | none => .error ((registry.undefinedFunction name).at offset)
      | some f => do
        let values ← meanings registry args env
        (f.apply values).mapError fun failure => failure.locate offset

/-- The values of a list of expressions. -/
def meanings (registry : Registry α) : List (Expr α) → Environment α → Answer α (List α)
  | [], _ => .ok []
  | e :: rest, env => do
    let x ← meaning registry e env
    let xs ← meanings registry rest env
    return x :: xs

end

/-! ## Calls -/

/-- Arguments that the special form takes: its second one is a variable. -/
inductive AreIntegral : List (Expr α) → Prop where
  | intro (body : Expr α) (v : String) (place : Nat) (lower upper : Expr α) :
      AreIntegral [body, variableRef v place, lower, upper]

omit [Scalar α] in
/-- A change that makes a variable of nothing else makes an integral of nothing else. -/
theorem AreIntegral.of_map {change : Expr α → Expr α} {args : List (Expr α)}
    (hchange : ∀ e v place, change e = variableRef v place → ∃ u place', e = variableRef u place')
    (h : AreIntegral (args.map change)) : AreIntegral args := by
  generalize hmap : args.map change = changed at h
  obtain ⟨body, v, place, lower, upper⟩ := h
  obtain ⟨e, rest, rfl, -, hrest⟩ := List.map_eq_cons_iff.mp hmap
  obtain ⟨bound, rest, rfl, hbound, hrest⟩ := List.map_eq_cons_iff.mp hrest
  obtain ⟨a, rest, rfl, -, hrest⟩ := List.map_eq_cons_iff.mp hrest
  obtain ⟨b, rest, rfl, -, hrest⟩ := List.map_eq_cons_iff.mp hrest
  obtain rfl := List.map_eq_nil_iff.mp hrest
  obtain ⟨u, place', rfl⟩ := hchange bound v place hbound
  exact .intro e u place' a b

variable {registry : Registry α} {name : String} {args : List (Expr α)} {offset : Nat}
  {env : Environment α}

theorem meaning_integral (special : isIntegral registry name = true) (body : Expr α) (v : String)
    (place : Nat) (lower upper : Expr α) :
    meaning registry (call name [body, variableRef v place, lower, upper] offset) env = (do
      let a ← meaning registry lower env
      let b ← meaning registry upper env
      Simpson.quadrature (fun t => meaning registry body (env.extend v t)) a b) := by
  rw [meaning.eq_def]
  simp only [special, if_true]

/-- A malformed integral fails before it looks at what its arguments are. -/
theorem meaning_malformedIntegral (special : isIntegral registry name = true)
    (h : ¬ AreIntegral args) : meaning registry (call name args offset) env =
      if args.length = 4 then .error ((Cause.malformed .integralVariable).at offset)
      else .error ((Cause.argumentCount integralName "4" args.length
        (some "integral(expression, variable, lower, upper)")).at offset) := by
  rw [meaning.eq_def]
  simp only [special, if_true]
  split
  · exact absurd (.intro ..) h
  · rfl
  · rename_i hfour
    refine (if_neg fun hlength => ?_).symm
    rcases args with _ | ⟨a, _ | ⟨b, _ | ⟨c, _ | ⟨d, _ | ⟨e, rest⟩⟩⟩⟩⟩ <;> simp at hlength
    exact hfour a b c d rfl

/-- A function has its arguments evaluated; a name that is none fails before them. -/
theorem meaning_of_not_integral (special : isIntegral registry name = false) :
    meaning registry (call name args offset) env =
      (registry.function? name).elim (.error ((registry.undefinedFunction name).at offset)) (fun f => do
        let values ← meanings registry args env
        (f.apply values).mapError fun failure => failure.locate offset) := by
  rw [meaning.eq_def]
  simp only [special, Bool.false_eq_true, if_false]
  cases registry.function? name <;> rfl

end Expr

end

end Reckoner
